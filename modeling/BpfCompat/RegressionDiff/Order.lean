import BpfCompat.RegressionDiff.Gate

/-!
# Order independence and conservation

The comparison reads a report's targets through their keys, and an accepted report has no
key twice.  So neither the order of the targets nor the order in which the two indexes are
ranged over can change the diff, and each key of either report has one cell, counted once.
-/

namespace RegressionDiff

open Go Schema

/-- The same evidence with its targets, each with its presence flag, in another order. -/
def Reordered (e e' : Evidence) : Prop :=
  ∃ entries entries' : List (Target × Bool), entries.Perm entries' ∧
    e.report.targets = entries.map Prod.fst ∧ e.requiredPresent = entries.map Prod.snd ∧
    e' = { e with
      report := { e.report with targets := entries'.map Prod.fst }
      requiredPresent := entries'.map Prod.snd }

theorem statesRequired_map_iff {entries : List (Target × Bool)} :
  StatesRequired (entries.map Prod.fst) (entries.map Prod.snd) ↔ ∀ p ∈ entries, p.2 = true
  := by
  rw [StatesRequired, List.length_map]
  constructor
  · intro h p hp
    obtain ⟨i, hi, rfl⟩ := List.getElem_of_mem hp
    simpa [hi] using h i hi
  · intro h i hi
    simpa [hi] using h _ (List.getElem_mem hi)

section

variable [UnicodeTables] {e e' b b' c c' : Evidence}

theorem Reordered.accepted (h : Reordered e e') (he : Accepted e) :
  Accepted e'
  := by
  obtain ⟨entries, entries', hperm, htargets, hpresent, rfl⟩ := h
  have hvalid : ReportValid { e.report with targets := entries'.map Prod.fst } := by
    apply he.toReportValid.perm
    rw [htargets]
    exact hperm.map Prod.fst
  refine ⟨hvalid, he.schema, ?_⟩
  have hreq := he.required
  rw [htargets, hpresent, statesRequired_map_iff] at hreq
  apply statesRequired_map_iff.mpr
  intro p hp
  exact hreq p (hperm.mem_iff.mpr hp)

theorem Reordered.targetAt_eq (h : Reordered e e') (he : Accepted e) (id : Str) :
  targetAt e' id = targetAt e id
  := by
  have hdistinct := he.distinct
  obtain ⟨entries, entries', hperm, htargets, -, rfl⟩ := h
  rw [targetAt, targetAt, htargets]
  rw [htargets] at hdistinct
  symm
  apply find_perm (hperm.map Prod.fst) hdistinct

omit [UnicodeTables] in
theorem Reordered.mem_ids_iff (h : Reordered e e') (id : Str) :
  id ∈ e'.report.targets.map targetID ↔ id ∈ e.report.targets.map targetID
  := by
  obtain ⟨entries, entries', hperm, htargets, -, rfl⟩ := h
  rw [htargets]
  exact ((hperm.map Prod.fst).map targetID).mem_iff.symm

omit [UnicodeTables] in
theorem Reordered.frame (h : Reordered e e') :
  e'.report.run = e.report.run ∧ e'.path = e.path ∧ e'.report.summary = e.report.summary ∧
    refOf e'.report e'.path = refOf e.report e.path ∧ e'.report.command = e.report.command ∧
    e'.commandExitCodePresent = e.commandExitCodePresent
  := by
  obtain ⟨entries, entries', -, -, -, rfl⟩ := h
  exact ⟨rfl, rfl, rfl, rfl, rfl, rfl⟩

omit [UnicodeTables] in
theorem keysOf_congr (hb : Reordered b b') (hc : Reordered c c') :
  keysOf b' c' = keysOf b c
  := by
  apply (pairwise_lt_keysOf b' c').eq_of_mem_iff (pairwise_lt_keysOf b c)
  intro id
  rw [mem_keysOf, mem_keysOf, hb.mem_ids_iff, hc.mem_ids_iff]

omit [UnicodeTables] in
theorem Reordered.commandContract_eq (h : Reordered e e') :
  commandContract e' = commandContract e
  := by
  obtain ⟨-, -, -, -, hcommand, hpresent⟩ := h.frame
  rw [commandContract, commandContract, hcommand, hpresent]

omit [UnicodeTables] in
theorem notesOf_congr (hb : Reordered b b') (hc : Reordered c c') :
  notesOf b' c' = notesOf b c
  := by
  obtain ⟨-, -, -, hbref, -, -⟩ := hb.frame
  obtain ⟨-, -, -, hcref, -, -⟩ := hc.frame
  rw [notesOf, notesOf, hbref, hcref,
    loaderMode_eq_of_commandContract_eq hb.commandContract_eq,
    loaderMode_eq_of_commandContract_eq hc.commandContract_eq,
    commandContractChanged_congr hb.commandContract_eq hc.commandContract_eq]

/-- Reordering the targets of either report changes nothing in the diff. -/
theorem diffOf_congr {ob oc ob' oc' : RangeOrder Str} {generatedAt : Str} (hb : Accepted b)
    (hc : Accepted c) (hbr : Reordered b b') (hcr : Reordered c c') :
  diffOf ob' oc' b' c' generatedAt = diffOf ob oc b c generatedAt
  := by
  have hcells : cellsOf ob' oc' b' c' = cellsOf ob oc b c := by
    rw [cellsOf_eq (hbr.accepted hb) (hcr.accepted hc), cellsOf_eq hb hc, keysOf_congr hbr hcr]
    apply List.map_congr_left
    intro id _
    rw [cellAt, cellAt, hbr.targetAt_eq hb, hcr.targetAt_eq hc,
      incomparable_congr hbr.commandContract_eq hcr.commandContract_eq]
  obtain ⟨-, -, hbsum, hbref, -, -⟩ := hbr.frame
  obtain ⟨-, -, hcsum, hcref, -, -⟩ := hcr.frame
  rw [diffOf, diffOf, hcells, hbsum, hcsum, hbref, hcref, notesOf_congr hbr hcr]

theorem map_key_cells {ob oc : RangeOrder Str} {generatedAt : Str} {d : Diff}
    (h : build ob oc b c generatedAt = .ok d) :
  d.cells.map Cell.key = keysOf b c
  := by
  obtain ⟨hb, hc, -, rfl⟩ := build_eq_ok_iff.mp h
  rw [diffOf, cellsOf_eq hb hc, List.map_map]
  apply List.map_id''
  intro id
  exact key_cellAt

omit [UnicodeTables] in
theorem get_diff_summary (s : Summary) (x y : Option Bool) (r : Result) (k : Counter) :
  Summary.get { s with baselineComplete := x, candidateComplete := y, result := r } k = s.get k
  := by
  cases k <;> rfl

/-- Reordering the targets of either report, and ranging over the indexes in another order,
changes neither the cells nor the summary nor the exit code.  The cells are the keys of
both reports, each once, in increasing order, and each cell is counted in one counter. -/
theorem diff_order_independent_and_conserved (ob oc : RangeOrder Str) (b c : Evidence)
    (generatedAt : Str) (d : Diff) (h : build ob oc b c generatedAt = .ok d) :
  (∀ (ob' oc' : RangeOrder Str) (b' c' : Evidence), Reordered b b' → Reordered c c' →
    ∃ d', build ob' oc' b' c' generatedAt = .ok d' ∧ d'.cells = d.cells ∧
      d'.summary = d.summary ∧ exitCode d' = exitCode d) ∧
  (d.cells.map Cell.key).Pairwise (· < ·) ∧
  (∀ id, id ∈ d.cells.map Cell.key ↔
    (∃ t ∈ b.report.targets, trimSpace t.profileID = id) ∨
      ∃ t ∈ c.report.targets, trimSpace t.profileID = id) ∧
  (∀ k, d.summary.get k = d.cells.countP (counterOf · = k)) ∧
  (Counter.all.map d.summary.get).sum = d.summary.totalCells ∧
  d.summary.totalCells = d.cells.length
  := by
  have hkeys := map_key_cells h
  obtain ⟨hb, hc, hruns, rfl⟩ := build_eq_ok_iff.mp h
  refine ⟨?_, ?_, ?_, ?_, ?_, ?_⟩
  · intro ob' oc' b' c' hbr hcr
    have hruns' : DistinctRuns b' c' := by
      obtain ⟨hbrun, hbpath, -⟩ := hbr.frame
      obtain ⟨hcrun, hcpath, -⟩ := hcr.frame
      rw [DistinctRuns, hbrun, hbpath, hcrun, hcpath]
      exact hruns
    use diffOf ob oc b c generatedAt
    refine ⟨?_, rfl, rfl, rfl⟩
    apply build_eq_ok_iff.mpr
    use hbr.accepted hb, hcr.accepted hc, hruns'
    rw [diffOf_congr hb hc hbr hcr]
  · rw [hkeys]
    apply pairwise_lt_keysOf
  · intro id
    rw [hkeys, mem_keysOf, List.mem_map, List.mem_map]
    rfl
  · intro k
    apply (get_diff_summary _ _ _ _ k).trans
    apply get_summarize
  · have hget : (diffOf ob oc b c generatedAt).summary.get = (summarize (cellsOf ob oc b c)).get := by
      funext k
      apply get_diff_summary
    rw [hget, sum_get_summarize]
    exact (totalCells_summarize _).symm
  · exact totalCells_summarize _

end

section

attribute [local instance] asciiTables

theorem diff_order_independent_sample :
  ∃ d, build .stored .stored (sampleEvidence (str "run-1") verdictCompatible)
      (sampleEvidence (str "run-2") verdictIncompatible) [] = .ok d ∧
    d.summary.totalCells = d.cells.length
  := by
  have h : exitOf (build .stored .stored (sampleEvidence (str "run-1") verdictCompatible)
      (sampleEvidence (str "run-2") verdictIncompatible) []) = 2 := by decide +kernel
  obtain ⟨d, hd, -⟩ := exitOf_eq_two_iff.mp h
  obtain ⟨-, -, -, -, -, htotal⟩ := diff_order_independent_and_conserved .stored .stored
    (sampleEvidence (str "run-1") verdictCompatible)
    (sampleEvidence (str "run-2") verdictIncompatible) [] d hd
  exact ⟨d, hd, htotal⟩

end

end RegressionDiff
