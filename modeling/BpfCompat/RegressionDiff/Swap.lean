import BpfCompat.RegressionDiff.Order

/-!
# Exchanging the two reports

The checks that make two targets comparable treat both sides alike, so exchanging baseline
and candidate only exchanges what is said about the verdicts: a regression becomes a fix and
a fix a regression, and coverage that was removed is coverage that is added, where it
establishes something.
-/

namespace RegressionDiff

open Go Schema

section

variable [UnicodeTables] {b c : Evidence} {ob oc ob' oc' : RangeOrder Str}
  {generatedAt generatedAt' : Str} {d d' : Diff}

/-- What a cell becomes when the reports are exchanged. -/
structure Dual (cell cell' : Cell) : Prop where
  key : cell'.key = cell.key
  baseline : cell'.baseline = cell.candidate
  candidate : cell'.candidate = cell.baseline
  regression : cell.classification = .newRegression → cell'.classification = .fixed
  fixed : cell.classification = .fixed → cell'.classification = .newRegression
  kept : cell.baseline.present = true → cell.candidate.present = true →
    cell.classification = .unchangedCompatible ∨ cell.classification = .existingIncompatibility
      ∨ cell.classification = .inconclusive →
    cell'.classification = cell.classification
  removed : cell.classification = .coverageRemoved →
    cell'.classification = if conclusive cell.baseline then .coverageAdded else .inconclusive
  added : cell.baseline.present = false → cell'.classification = .coverageRemoved

omit [UnicodeTables] in
theorem SameObligation.symm {bt ct : Target} (h : SameObligation bt ct) :
  SameObligation ct bt
  := by
  constructor
  · exact h.required.symm
  · intro hc hb
    exact (h.requestedFamily hb hc).symm
  · exact h.profile.symm
  · exact h.attachMode.symm

omit [UnicodeTables] in
/-- Whether two targets are comparable does not depend on which of them is the baseline. -/
theorem comparable_swap {bt ct : Target} {r r' : Str} (hr : r = [] ↔ r' = []) :
  Comparable r bt ct ↔ Comparable r' ct bt
  := by
  constructor
  · intro h
    exact ⟨hr.mp h.contract, h.obligation.symm, h.candidate, h.baseline⟩
  · intro h
    exact ⟨hr.mpr h.contract, h.obligation.symm, h.candidate, h.baseline⟩

omit [UnicodeTables] in
theorem incomparable_swap (b c : Evidence) :
  incomparable b c = [] ↔ incomparable c b = []
  := by
  rw [incomparable_eq_nil_iff, incomparable_eq_nil_iff, eq_comm,
    @eq_comm _ (commandContract b)]

omit [UnicodeTables] in
theorem keysOf_swap (b c : Evidence) :
  keysOf c b = keysOf b c
  := by
  apply (pairwise_lt_keysOf c b).eq_of_mem_iff (pairwise_lt_keysOf b c)
  intro id
  rw [mem_keysOf, mem_keysOf, or_comm]

/-- An obligation that both reports test. -/
theorem dual_both {id r r' : Str} {bt ct : Target} (hr : r = [] ↔ r' = []) :
  Dual (classify id (some bt) (some ct) r) (classify id (some ct) (some bt) r')
  := by
  by_cases h : Comparable r bt ct
  · have hcell := (@classification_both _ id r bt ct).1 h
    have hcell' := (@classification_both _ id r' ct bt).1 ((comparable_swap hr).mp h)
    constructor
    · rfl
    · rfl
    · rfl
    · rw [hcell, hcell']
      split_ifs <;> simp
    · rw [hcell, hcell']
      split_ifs <;> simp
    · rw [hcell, hcell']
      split_ifs <;> simp
    · rw [hcell]
      split_ifs <;> simp
    · intro habsent
      have hpresent : true = false := habsent
      cases hpresent
  · have hcell := (@classification_both _ id r bt ct).2 h
    have hcell' := (@classification_both _ id r' ct bt).2 fun h' => h ((comparable_swap hr).mpr h')
    constructor
    · rfl
    · rfl
    · rfl
    · simp [hcell]
    · simp [hcell]
    · simp [hcell, hcell']
    · simp [hcell]
    · intro habsent
      have hpresent : true = false := habsent
      cases hpresent

/-- An obligation that only the baseline tests. -/
theorem dual_removed {id r r' : Str} {bt : Target} :
  Dual (classify id (some bt) none r) (classify id none (some bt) r')
  := by
  constructor
  · rfl
  · rfl
  · rfl
  · nofun
  · nofun
  · intro _ habsent
    have hpresent : false = true := habsent
    cases hpresent
  · intro _
    simp only [classify, compareAdded]
    by_cases hconc : conclusive (sideOf bt) = true
    · simp [hconc]
    · simp [hconc]
  · intro habsent
    have hpresent : true = false := habsent
    cases hpresent

/-- An obligation that only the candidate tests. -/
theorem dual_added {id r r' : Str} {ct : Target} :
  Dual (classify id none (some ct) r) (classify id (some ct) none r')
  := by
  have hcell : (classify id none (some ct) r).classification = .coverageAdded
      ∨ (classify id none (some ct) r).classification = .inconclusive := by
    simp only [classify, compareAdded]
    cases conclusive (sideOf ct) with
    | true => exact .inl rfl
    | false => exact .inr rfl
  constructor
  · rfl
  · rfl
  · rfl
  · intro h
    rw [h] at hcell
    simp at hcell
  · intro h
    rw [h] at hcell
    simp at hcell
  · intro habsent
    have hpresent : false = true := habsent
    cases hpresent
  · intro h
    rw [h] at hcell
    simp at hcell
  · intro _
    rfl

theorem dual_cellAt {id : Str} (hid : id ∈ keysOf b c) :
  Dual (cellAt b c id) (cellAt c b id)
  := by
  rw [mem_keysOf_iff] at hid
  rw [cellAt, cellAt]
  rcases hb : targetAt b id with - | bt
  · rcases hc : targetAt c id with - | ct
    · simp [hb, hc] at hid
    · exact dual_added
  · rcases hc : targetAt c id with - | ct
    · exact dual_removed
    · exact dual_both (incomparable_swap b c)

/-- Exchanging the two reports exchanges regressions and fixes, cell by cell. -/
theorem swap_dual (h : build ob oc b c generatedAt = .ok d)
    (h' : build ob' oc' c b generatedAt' = .ok d') :
  List.Forall₂ Dual d.cells d'.cells
  := by
  obtain ⟨hb, hc, -, rfl⟩ := build_eq_ok_iff.mp h
  obtain ⟨-, -, -, rfl⟩ := build_eq_ok_iff.mp h'
  rw [diffOf, diffOf, cellsOf_eq hb hc, cellsOf_eq hc hb, keysOf_swap b c, List.forall₂_map_left_iff,
    List.forall₂_map_right_iff, List.forall₂_same]
  intro id hid
  exact dual_cellAt hid

end

section

attribute [local instance] asciiTables

theorem swap_dual_sample :
  ∃ d d', build .stored .stored (sampleEvidence (str "run-1") verdictCompatible)
      (sampleEvidence (str "run-2") verdictIncompatible) [] = .ok d
    ∧ build .stored .stored (sampleEvidence (str "run-2") verdictIncompatible)
      (sampleEvidence (str "run-1") verdictCompatible) [] = .ok d'
    ∧ List.Forall₂ Dual d.cells d'.cells
  := by
  have h : exitOf (build .stored .stored (sampleEvidence (str "run-1") verdictCompatible)
      (sampleEvidence (str "run-2") verdictIncompatible) []) = 2 := by decide +kernel
  have h' : exitOf (build .stored .stored (sampleEvidence (str "run-2") verdictIncompatible)
      (sampleEvidence (str "run-1") verdictCompatible) []) = 0 := by decide +kernel
  obtain ⟨d, hd, -⟩ := exitOf_eq_two_iff.mp h
  obtain ⟨d', hd', -⟩ := exitOf_eq_zero_iff.mp h'
  exact ⟨d, d', hd, hd', swap_dual hd hd'⟩

end

end RegressionDiff
