import BpfCompat.Runtime.Select

/-!
# What selection promises

The selected record is one the policy accepts, and no other such record scores higher, or as high
in a later run.  Neither the order of the records nor that of the lists in them matters.

A record that supports one more profile, or failed on one less, does not score lower unless the
score overflows: it is computed in machine arithmetic, and the counts of a record are whatever its
file says (`selection_laws_iff`).
-/

namespace Runtime

open Go Registry

/-! ### Greatest and least weights -/

section

variable {α : Type*} {f : α → Int} {l l' : List α}

theorem foldl_max_le_iff {b c : Int} :
  l.foldl (fun best a => max best (f a)) b ≤ c ↔ b ≤ c ∧ ∀ a ∈ l, f a ≤ c
  := by
  induction l generalizing b with
  | nil => simp
  | cons a l ih =>
      rw [List.foldl_cons, ih, max_le_iff, List.forall_mem_cons, and_assoc]

theorem le_foldl_min_iff {b c : Int} :
  c ≤ l.foldl (fun best a => min best (f a)) b ↔ c ≤ b ∧ ∀ a ∈ l, c ≤ f a
  := by
  induction l generalizing b with
  | nil => simp
  | cons a l ih =>
      rw [List.foldl_cons, ih, le_min_iff, List.forall_mem_cons, and_assoc]

/-- The greatest of some values does not decrease when values are added. -/
theorem foldl_max_mono (h : l ⊆ l') (b : Int) :
  l.foldl (fun best a => max best (f a)) b ≤ l'.foldl (fun best a => max best (f a)) b
  := by
  obtain ⟨hb, hl⟩ := foldl_max_le_iff.mp (le_refl (l'.foldl (fun best a => max best (f a)) b))
  apply foldl_max_le_iff.mpr
  use hb
  intro a ha
  exact hl a (h ha)

/-- The least of some values does not decrease when values are taken away, nor when the bound it
starts from increases. -/
theorem foldl_min_mono (h : l' ⊆ l) {b b' : Int} (hb : b ≤ b') :
  l.foldl (fun best a => min best (f a)) b ≤ l'.foldl (fun best a => min best (f a)) b'
  := by
  obtain ⟨hle, hl⟩ := le_foldl_min_iff.mp (le_refl (l.foldl (fun best a => min best (f a)) b))
  apply le_foldl_min_iff.mpr
  use hle.trans hb
  intro a ha
  exact hl a (h ha)

end

/-! ### The weight of the profiles -/

/-- What a profile that is supported, or failed, says about a host. -/
def weightOf (hostHint : Str) (supported : Bool) (profileID : Str) : Int :=
  let (hostDistro, hostVersion, hostKernel) := parseProfileID hostHint
  (similarityWeight profileID hostDistro hostVersion hostKernel supported).1.toInt

/-- What the profiles of a record are worth, as a number. -/
def alignment (record : ArtifactVersionRecord) (hostHint targetProfile : Str) : Int :=
  if targetProfile ≠ [] then
    if containsString record.supportedProfiles targetProfile then 180
    else if containsString record.failedProfiles targetProfile then -260
    else -40
  else if hostHint = [] then 0
  else
    record.failedProfiles.foldl (fun best p => min best (weightOf hostHint false p))
      (record.supportedProfiles.foldl (fun best p => max best (weightOf hostHint true p)) 0)

theorem toInt_supportedFold {w : Str → Int64 × Str} (profiles : List Str) (best : Int64 × Str) :
  (profiles.foldl (fun best p => if best.1 < (w p).1 then w p else best) best).1.toInt
    = profiles.foldl (fun best p => max best (w p).1.toInt) best.1.toInt
  := by
  induction profiles generalizing best with
  | nil => rfl
  | cons p profiles ih =>
      rw [List.foldl_cons, List.foldl_cons, ih]
      congr 1
      split_ifs with h
      · rw [Int64.lt_iff_toInt_lt] at h
        rw [max_eq_right h.le]
      · rw [Int64.lt_iff_toInt_lt] at h
        rw [max_eq_left (not_lt.mp h)]

theorem toInt_failedFold {w : Str → Int64 × Str} (profiles : List Str) (best : Int64 × Str) :
  (profiles.foldl (fun best p =>
      if (w p).1 < best.1 ∨ best.1 = 0 ∧ (w p).1 < 0 then w p else best) best).1.toInt
    = profiles.foldl (fun best p => min best (w p).1.toInt) best.1.toInt
  := by
  induction profiles generalizing best with
  | nil => rfl
  | cons p profiles ih =>
      rw [List.foldl_cons, List.foldl_cons, ih]
      congr 1
      by_cases hlt : (w p).1 < best.1
      · rw [if_pos (.inl hlt)]
        rw [Int64.lt_iff_toInt_lt] at hlt
        rw [min_eq_right hlt.le]
      · -- the second condition asks for less than the first
        have hother : ¬ ((w p).1 < best.1 ∨ best.1 = 0 ∧ (w p).1 < 0) := by
          rintro (h | ⟨hzero, hneg⟩)
          · exact hlt h
          · exact hlt (hzero ▸ hneg)
        rw [if_neg hother]
        rw [Int64.lt_iff_toInt_lt] at hlt
        rw [min_eq_left (not_lt.mp hlt)]

theorem toInt_profileAlignmentWeight (record : ArtifactVersionRecord)
    (hostHint targetProfile : Str) :
  (profileAlignmentWeight record hostHint targetProfile).1.toInt
    = alignment record hostHint targetProfile
  := by
  rw [profileAlignmentWeight, alignment]
  by_cases htarget : targetProfile ≠ []
  · rw [if_pos htarget, if_pos htarget]
    split_ifs
    · rfl
    · rfl
    · rfl
  · rw [if_neg htarget, if_neg htarget]
    by_cases hhint : hostHint = []
    · rw [if_pos hhint, if_pos hhint]
      rfl
    · rw [if_neg hhint, if_neg hhint]
      dsimp only
      rw [toInt_failedFold, toInt_supportedFold]
      rfl

/-! ### The score as a number -/

/-- The score of a record in exact arithmetic. -/
def exactScore (record : ArtifactVersionRecord) (hostHint targetProfile : Str)
    (host : HostCapabilities) : Int :=
  (if record.summaryStatus = str "pass" then 20 else 0) +
  (if 0 < record.requiredPassed then 10 * record.requiredPassed.toInt else 0) +
  (if 0 < record.requiredFailed then -50 * record.requiredFailed.toInt else 0) +
  alignment record hostHint targetProfile +
  (if !host.btfKernelAvailable ∧ containsString record.classificationCode (str "MISSING_BTF") then
    -40 else 0) +
  (if ringbufLikelyUnsupported host ∧
      containsString record.classificationCode (str "UNSUPPORTED_MAP_TYPE") then -20 else 0)

/-- A sum in machine arithmetic is the exact sum, cut to the machine. -/
theorem foldl_weight_eq_ofInt {reasons : List SelectionReason} {weights : List Int}
    (h : reasons.map (·.weight) = weights.map Int64.ofInt) (a : Int) :
  reasons.foldl (fun score reason => score + reason.weight) (Int64.ofInt a)
    = Int64.ofInt (a + weights.sum)
  := by
  induction reasons generalizing a weights with
  | nil =>
      cases weights with
      | nil => simp
      | cons w weights => cases h
  | cons r reasons ih =>
      cases weights with
      | nil => cases h
      | cons w weights =>
          rw [List.map_cons, List.map_cons, List.cons.injEq] at h
          rw [List.foldl_cons, h.1, ← Int64.ofInt_add, ih h.2, List.sum_cons, add_assoc]

theorem scoreRecord_eq_ofInt (record : ArtifactVersionRecord) (hostHint targetProfile : Str)
    (host : HostCapabilities) :
  (scoreRecord record hostHint targetProfile host).1
    = Int64.ofInt (exactScore record hostHint targetProfile host)
  := by
  have halign : (profileAlignmentWeight record hostHint targetProfile).1
      = Int64.ofInt (alignment record hostHint targetProfile) := by
    rw [← toInt_profileAlignmentWeight, Int64.ofInt_toInt]
  have hweights : (scoreReasons record hostHint targetProfile host).map (·.weight)
      = ((if record.summaryStatus = str "pass" then [20] else []) ++
        (if 0 < record.requiredPassed then [10 * record.requiredPassed.toInt] else []) ++
        (if 0 < record.requiredFailed then [-50 * record.requiredFailed.toInt] else []) ++
        (if (profileAlignmentWeight record hostHint targetProfile).1 ≠ 0 then
          [alignment record hostHint targetProfile] else []) ++
        (if !host.btfKernelAvailable ∧
            containsString record.classificationCode (str "MISSING_BTF") then [-40] else []) ++
        (if ringbufLikelyUnsupported host ∧
            containsString record.classificationCode (str "UNSUPPORTED_MAP_TYPE") then [-20]
          else [])).map Int64.ofInt := by
    simp only [scoreReasons, List.map_append, apply_ite (List.map _), List.map_cons, List.map_nil,
      ← halign, Int64.ofInt_mul, Int64.ofInt_toInt]
    rfl
  have hskipped : (if (profileAlignmentWeight record hostHint targetProfile).1 ≠ 0 then
      [alignment record hostHint targetProfile] else []).sum
        = alignment record hostHint targetProfile := by
    split_ifs with h
    · simp
    · rw [← toInt_profileAlignmentWeight, not_not.mp h]
      rfl
  rw [scoreRecord]
  dsimp only
  rw [show (0 : Int64) = Int64.ofInt 0 from rfl, foldl_weight_eq_ofInt hweights, zero_add]
  simp only [List.sum_append, hskipped, apply_ite List.sum, List.sum_cons, List.sum_nil, add_zero,
    exactScore]

/-- Of two sums that are less than the range of the machine apart, the greater one is not the
lesser in machine arithmetic precisely when both are cut by the same multiple of the range. -/
theorem ofInt_le_ofInt_iff {a b : Int} (hle : a ≤ b) (hlt : b - a < 2 ^ 64) :
  Int64.ofInt a ≤ Int64.ofInt b ↔ (a + 2 ^ 63) / 2 ^ 64 = (b + 2 ^ 63) / 2 ^ 64
  := by
  rw [Int64.le_iff_toInt_le, Int64.toInt_ofInt, Int64.toInt_ofInt, Int.bmod_def, Int.bmod_def]
  have hsize : ((Int64.size : Nat) : Int) = 2 ^ 64 := rfl
  rw [hsize]
  omega

/-! ### Other lists -/

/-- A record with its lists in another order. -/
inductive Reordered (r : ArtifactVersionRecord) : ArtifactVersionRecord → Prop where
  | lists (supported failed codes : List Str) (hsupported : r.supportedProfiles.Perm supported)
      (hfailed : r.failedProfiles.Perm failed) (hcodes : r.classificationCode.Perm codes) :
      Reordered r { r with
        supportedProfiles := supported
        failedProfiles := failed
        classificationCode := codes }

/-- A record that supports one more profile, or failed on one less. -/
inductive Improves (r : ArtifactVersionRecord) : ArtifactVersionRecord → Prop where
  | supports (before after : List Str) (profileID : Str)
      (h : r.supportedProfiles = before ++ after) :
      Improves r { r with supportedProfiles := before ++ profileID :: after }
  | recovers (before after : List Str) (profileID : Str)
      (h : r.failedProfiles = before ++ profileID :: after) :
      Improves r { r with failedProfiles := before ++ after }

theorem containsString_of_subset {values values' : List Str} {needle : Str} (h : values ⊆ values')
    (hcontains : containsString values needle = true) :
  containsString values' needle = true
  := by
  rw [containsString, List.any_eq_true] at hcontains ⊢
  obtain ⟨value, hvalue, heq⟩ := hcontains
  exact ⟨value, h hvalue, heq⟩

theorem containsString_perm {values values' : List Str} (h : values.Perm values') (needle : Str) :
  containsString values needle = containsString values' needle
  := by
  rw [Bool.eq_iff_iff]
  exact ⟨containsString_of_subset h.subset, containsString_of_subset h.symm.subset⟩

/-- More supported and fewer failed profiles are worth as much or more. -/
theorem alignment_mono {r r' : ArtifactVersionRecord} (hint target : Str)
    (hsupported : r.supportedProfiles ⊆ r'.supportedProfiles)
    (hfailed : r'.failedProfiles ⊆ r.failedProfiles) :
  alignment r hint target ≤ alignment r' hint target
  := by
  rw [alignment, alignment]
  by_cases htarget : target ≠ []
  · rw [if_pos htarget, if_pos htarget]
    by_cases hnew : containsString r'.supportedProfiles target = true
    · rw [if_pos hnew]
      split_ifs
      · exact le_refl _
      · decide
      · decide
    · have hold : ¬ containsString r.supportedProfiles target = true := fun h =>
        hnew (containsString_of_subset hsupported h)
      rw [if_neg hnew, if_neg hold]
      by_cases hfail : containsString r'.failedProfiles target = true
      · rw [if_pos hfail, if_pos (containsString_of_subset hfailed hfail)]
      · rw [if_neg hfail]
        split_ifs
        · decide
        · exact le_refl _
  · rw [if_neg htarget, if_neg htarget]
    split_ifs
    · exact le_refl _
    · exact foldl_min_mono hfailed (foldl_max_mono hsupported 0)

theorem alignment_of_perm {r r' : ArtifactVersionRecord} (hint target : Str)
    (hsupported : r.supportedProfiles.Perm r'.supportedProfiles)
    (hfailed : r.failedProfiles.Perm r'.failedProfiles) :
  alignment r hint target = alignment r' hint target
  := by
  apply le_antisymm
  · exact alignment_mono hint target hsupported.subset hfailed.symm.subset
  · exact alignment_mono hint target hsupported.symm.subset hfailed.subset

theorem exactScore_of_reordered {r r' : ArtifactVersionRecord} (h : Reordered r r')
    (hint target : Str) (host : HostCapabilities) :
  exactScore r hint target host = exactScore r' hint target host
  := by
  cases h with
  | lists supported failed codes hsupported hfailed hcodes =>
      have halign : alignment r hint target = alignment { r with
          supportedProfiles := supported
          failedProfiles := failed
          classificationCode := codes } hint target :=
        alignment_of_perm hint target hsupported hfailed
      simp only [exactScore, halign, containsString_perm hcodes]

/-- The exact score of an improved record is not lower, and not much higher. -/
theorem exactScore_of_improves {r r' : ArtifactVersionRecord} (h : Improves r r')
    (hint target : Str) (host : HostCapabilities) :
  exactScore r hint target host ≤ exactScore r' hint target host ∧
    exactScore r' hint target host - exactScore r hint target host < 2 ^ 64
  := by
  have hbounds : ∀ r : ArtifactVersionRecord, -2 ^ 63 ≤ alignment r hint target ∧
      alignment r hint target < 2 ^ 63 := by
    intro r
    rw [← toInt_profileAlignmentWeight]
    exact ⟨Int64.le_toInt _, Int64.toInt_lt _⟩
  have hsame : exactScore r' hint target host - exactScore r hint target host
      = alignment r' hint target - alignment r hint target := by
    cases h with
    | supports before after profileID h =>
        simp only [exactScore]
        ring
    | recovers before after profileID h =>
        simp only [exactScore]
        ring
  have hmono : alignment r hint target ≤ alignment r' hint target := by
    cases h with
    | supports before after profileID h =>
        apply alignment_mono
        · rw [h]
          apply List.append_subset.mpr
          exact ⟨List.subset_append_left _ _, fun p hp => by simp [hp]⟩
        · apply List.Subset.refl
    | recovers before after profileID h =>
        apply alignment_mono
        · apply List.Subset.refl
        · rw [h]
          apply List.append_subset.mpr
          exact ⟨List.subset_append_left _ _, fun p hp => by simp [hp]⟩
  have h₁ := hbounds r
  have h₂ := hbounds r'
  omega

/-! ### Other orders -/

section

variable [CaseTables] {host : HostCapabilities} {req : SelectionRequest}

theorem normalizeStringList_perm {values values' : List Str} (h : values.Perm values') :
  normalizeStringList values = normalizeStringList values'
  := by
  apply sortKeys_eq_of_mem_iff (nodup_collect List.nodup_nil) (nodup_collect List.nodup_nil)
  intro k
  rw [mem_collect, mem_collect]
  have hperm := (h.map fun value => trimSpace (toUpper value)).filter (· ≠ [])
  rw [hperm.mem_iff]

theorem score_of_reordered {r r' : ArtifactVersionRecord} (h : Reordered r r') :
  (candidateOf host req r').score = (candidateOf host req r).score
  := by
  rw [candidateOf, candidateOf]
  dsimp only
  rw [scoreRecord_eq_ofInt, scoreRecord_eq_ofInt, exactScore_of_reordered h]

theorem eligible_of_reordered {r r' : ArtifactVersionRecord} (h : Reordered r r') :
  Eligible host req r' ↔ Eligible host req r
  := by
  cases h with
  | lists supported failed codes hsupported hfailed hcodes =>
      simp only [Eligible, Accepts, requested, evaluatePolicy, outcomeViolations,
        normalizeStringList_perm hcodes]

theorem outranks_of_reordered {r r' s s' : ArtifactVersionRecord} (hr : Reordered r r')
    (hs : Reordered s s') :
  Outranks host req r' s' ↔ Outranks host req r s
  := by
  have hrun : ∀ {r r' : ArtifactVersionRecord}, Reordered r r' →
      (candidateOf host req r').runID = (candidateOf host req r).runID := by
    intro r r' h
    cases h
    rfl
  rw [Outranks, Outranks, betterFirst, betterFirst, score_of_reordered hr, score_of_reordered hs,
    hrun hr, hrun hs]

/-- A record is selected from a history, at the place it has there. -/
structure SelectedAt (host : HostCapabilities) (req : SelectionRequest)
    (before : List ArtifactVersionRecord) (best : ArtifactVersionRecord)
    (after : List ArtifactVersionRecord) : Prop where
  selected : ∃ result, selectBestArtifactVersion (before ++ best :: after) host req = .ok result ∧
    result.selected = candidateOf host req best
  leads : ScoredBest host req before best after

/-- Whatever is selected is selected at a place. -/
theorem exists_selectedAt {records : List ArtifactVersionRecord} {result : SelectionResult}
    (h : selectBestArtifactVersion records host req = .ok result) :
  ∃ before best after, records = before ++ best :: after ∧
    result.selected = candidateOf host req best ∧ SelectedAt host req before best after
  := by
  obtain ⟨-, before, best, after, rfl, hselected, hleads⟩ := leader_of_selectBestArtifactVersion h
  exact ⟨before, best, after, rfl, hselected, ⟨⟨result, h, hselected⟩, hleads⟩⟩

/-- Something is selected if there is a record that may be. -/
theorem exists_selectBestArtifactVersion {records : List ArtifactVersionRecord}
    {r : ArtifactVersionRecord} (hname : trimSpace req.artifactName ≠ []) (hr : r ∈ records)
    (h : Eligible host req r) :
  ∃ result, selectBestArtifactVersion records host req = .ok result
  := by
  have hrequested : r ∈ records.filter (requested req) := List.mem_filter.mpr ⟨hr, h.1⟩
  have haccepted : candidateOf host req r ∈
      (((records.filter (requested req)).map (candidateOf host req)).filter
        SelectionCandidate.policyAccepted).insertionSort betterFirst := by
    rw [List.mem_insertionSort]
    exact List.mem_filter.mpr ⟨List.mem_map_of_mem hrequested, h.2⟩
  rw [selectBestArtifactVersion]
  dsimp only
  rw [if_neg hname, if_neg (List.ne_nil_of_mem hrequested)]
  cases hsort : (((records.filter (requested req)).map (candidateOf host req)).filter
      SelectionCandidate.policyAccepted).insertionSort betterFirst with
  | nil =>
      rw [hsort] at haccepted
      cases haccepted
  | cons selected rest => exact ⟨_, rfl⟩

theorem artifactName_of_ok {records : List ArtifactVersionRecord} {result : SelectionResult}
    (h : selectBestArtifactVersion records host req = .ok result) :
  trimSpace req.artifactName ≠ []
  := by
  simp only [selectBestArtifactVersion, refuse_if_eq_ok_iff] at h
  exact h.1

omit [CaseTables] in
/-- A member of the second of two related lists is related to a member of the first. -/
theorem exists_of_mem_forall₂ {α β : Type*} {R : α → β → Prop} {l : List α} {l' : List β}
    (h : List.Forall₂ R l l') {b : β} (hb : b ∈ l') :
  ∃ a ∈ l, R a b
  := by
  induction h with
  | nil => cases hb
  | cons hab _ ih =>
      rcases List.mem_cons.mp hb with rfl | hb
      · exact ⟨_, List.mem_cons_self, hab⟩
      · obtain ⟨a, ha, hr⟩ := ih hb
        exact ⟨a, List.mem_cons_of_mem _ ha, hr⟩

/-- A history in which the lists of the records are in another order selects at the same place. -/
theorem selectedAt_of_reordered {before before' after after' : List ArtifactVersionRecord}
    {best best' : ArtifactVersionRecord} (h : SelectedAt host req before best after)
    (hbefore : List.Forall₂ Reordered before before') (hbest : Reordered best best')
    (hafter : List.Forall₂ Reordered after after') :
  SelectedAt host req before' best' after'
  := by
  obtain ⟨⟨result, hok, -⟩, hleads⟩ := h
  have hleads' : ScoredBest host req before' best' after' := by
    constructor
    · exact (eligible_of_reordered hbest).mpr hleads.holds
    · intro b' hb' heligible
      obtain ⟨b, hb, hsame⟩ := exists_of_mem_forall₂ hbefore hb'
      rw [eligible_of_reordered hsame] at heligible
      rw [outranks_of_reordered hsame hbest]
      exact hleads.before_lt b hb heligible
    · intro b' hb' heligible
      obtain ⟨b, hb, hsame⟩ := exists_of_mem_forall₂ hafter hb'
      rw [eligible_of_reordered hsame] at heligible
      rw [outranks_of_reordered hbest hsame]
      exact hleads.le_after b hb heligible
  have hmem : best' ∈ before' ++ best' :: after' := by simp
  obtain ⟨result', hok'⟩ :=
    exists_selectBestArtifactVersion (artifactName_of_ok hok) hmem hleads'.holds
  obtain ⟨before'', best'', after'', heq, hselected, hat⟩ := exists_selectedAt hok'
  obtain ⟨rfl, rfl, rfl⟩ := hleads'.unique hat.leads heq
  exact hat

/-- The selected record ranks at least as high as every record that may be selected. -/
theorem outranks_of_selectedAt {before after : List ArtifactVersionRecord}
    {best r : ArtifactVersionRecord} (h : SelectedAt host req before best after)
    (hr : r ∈ before ++ best :: after) (heligible : Eligible host req r) :
  Outranks host req best r
  := by
  rcases List.mem_append.mp hr with hr | hr
  · apply (totalBetterFirst.total _ _).resolve_right
    exact h.leads.before_lt r hr heligible
  · rcases List.mem_cons.mp hr with rfl | hr
    · exact Std.Refl.refl _
    · exact h.leads.le_after r hr heligible

/-- A record ranks at least as high as another one precisely when the other one neither scores
higher nor as high in a later run. -/
theorem outranks_iff {r s : ArtifactVersionRecord} :
  Outranks host req r s ↔
    ¬ ((candidateOf host req r).score < (candidateOf host req s).score ∨
      (candidateOf host req r).score = (candidateOf host req s).score ∧ r.runID < s.runID)
  := by
  rw [Outranks, betterFirst]
  by_cases h : (candidateOf host req r).score = (candidateOf host req s).score
  · simp [h, Int64.lt_irrefl]
  · rw [if_neg h]
    simp only [h, false_and, or_false, Int64.not_lt]

/-- Where runs have names of their own, two records that rank as high as each other are the
same. -/
theorem eq_of_outranks {records : List ArtifactVersionRecord} {r s : ArtifactVersionRecord}
    (hruns : (records.map (·.runID)).Nodup) (hr : r ∈ records) (hs : s ∈ records)
    (hrs : Outranks host req r s) (hsr : Outranks host req s r) :
  r = s
  := by
  apply List.inj_on_of_nodup_map hruns hr hs
  rw [outranks_iff, not_or, Int64.not_lt, not_and] at hrs hsr
  have hscore := Int64.le_antisymm hsr.1 hrs.1
  exact le_antisymm (not_lt.mp (hsr.2 hscore.symm)) (not_lt.mp (hrs.2 hscore))

/-- In another order of the records the same record is selected, where runs have names of their
own. -/
theorem selectedAt_of_perm {before after records : List ArtifactVersionRecord}
    {best : ArtifactVersionRecord} (h : SelectedAt host req before best after)
    (hperm : (before ++ best :: after).Perm records) (hruns : (records.map (·.runID)).Nodup) :
  ∃ before' after', records = before' ++ best :: after' ∧ SelectedAt host req before' best after'
  := by
  obtain ⟨result, hok, -⟩ := h.selected
  have hbest : best ∈ records := hperm.subset (by simp)
  obtain ⟨result', hok'⟩ :=
    exists_selectBestArtifactVersion (artifactName_of_ok hok) hbest h.leads.holds
  obtain ⟨before', best', after', rfl, -, hat⟩ := exists_selectedAt hok'
  have hbest' : best' ∈ before' ++ best' :: after' := by simp
  have hfirst : Outranks host req best best' :=
    outranks_of_selectedAt h (hperm.symm.subset hbest') hat.leads.holds
  have hsame : best = best' := by
    apply eq_of_outranks hruns hbest hbest' hfirst
    exact outranks_of_selectedAt hat hbest h.leads.holds
  subst hsame
  exact ⟨before', after', rfl, hat⟩

/-! ### The laws of selection -/

/-- The record at a place of a history is the one that is selected. -/
def SelectsAt (host : HostCapabilities) (req : SelectionRequest)
    (records : List ArtifactVersionRecord) (i : Nat) (best : ArtifactVersionRecord) : Prop :=
  records[i]? = some best ∧ SelectedAt host req (records.take i) best (records.drop (i + 1))

/-- What is selected from a history is the best, whatever the order. -/
structure SelectionLaws (host : HostCapabilities) (req : SelectionRequest)
    (records : List ArtifactVersionRecord) : Prop where
  optimal : ∀ result, selectBestArtifactVersion records host req = .ok result →
    ∃ best ∈ records, result.selected = candidateOf host req best ∧ Eligible host req best ∧
      ∀ r ∈ records, Eligible host req r →
        ¬ ((candidateOf host req best).score < (candidateOf host req r).score ∨
          (candidateOf host req best).score = (candidateOf host req r).score ∧
            best.runID < r.runID)
  records_order : ∀ records', records.Perm records' → (records.map (·.runID)).Nodup →
    ∀ best, (∃ i, SelectsAt host req records i best) ↔ ∃ i, SelectsAt host req records' i best
  lists_order : ∀ records', List.Forall₂ Reordered records records' →
    ∀ i r r', records[i]? = some r → records'[i]? = some r' →
      (candidateOf host req r').score = (candidateOf host req r).score ∧
        (SelectsAt host req records i r ↔ SelectsAt host req records' i r')

omit [CaseTables] in
theorem split_of_getElem? {α : Type*} {l : List α} {i : Nat} {a : α} (h : l[i]? = some a) :
  l = l.take i ++ a :: l.drop (i + 1)
  := by
  obtain ⟨hlt, rfl⟩ := List.getElem?_eq_some_iff.mp h
  rw [← List.drop_eq_getElem_cons hlt, List.take_append_drop]

theorem selectsAt_of_append {before after : List ArtifactVersionRecord}
    {best : ArtifactVersionRecord} (h : SelectedAt host req before best after) :
  SelectsAt host req (before ++ best :: after) before.length best
  := by
  constructor
  · simp
  · simpa [List.drop_append, List.drop_eq_nil_of_le] using h

omit [CaseTables] in
theorem Reordered.symm {r r' : ArtifactVersionRecord} (h : Reordered r r') : Reordered r' r := by
  cases h with
  | lists supported failed codes hsupported hfailed hcodes =>
      exact .lists (r := { r with
        supportedProfiles := supported
        failedProfiles := failed
        classificationCode := codes }) _ _ _ hsupported.symm hfailed.symm hcodes.symm

/-- One order of the records selects what another one does. -/
theorem exists_selectsAt_of_perm {records records' : List ArtifactVersionRecord}
    {best : ArtifactVersionRecord} (hperm : records.Perm records')
    (hruns : (records'.map (·.runID)).Nodup) (h : ∃ i, SelectsAt host req records i best) :
  ∃ i, SelectsAt host req records' i best
  := by
  obtain ⟨i, hget, hat⟩ := h
  have hsplit := split_of_getElem? hget
  rw [hsplit] at hperm
  obtain ⟨before, after, rfl, hat'⟩ := selectedAt_of_perm hat hperm hruns
  exact ⟨before.length, selectsAt_of_append hat'⟩

/-- One order of the lists selects at the place another one does. -/
theorem selectsAt_of_reordered {records records' : List ArtifactVersionRecord} {i : Nat}
    {r r' : ArtifactVersionRecord} (h : List.Forall₂ Reordered records records')
    (hget : records[i]? = some r) (hget' : records'[i]? = some r')
    (hat : SelectsAt host req records i r) :
  SelectsAt host req records' i r'
  := by
  use hget'
  have hsame : Reordered r r' := by
    obtain ⟨hlt, rfl⟩ := List.getElem?_eq_some_iff.mp hget
    obtain ⟨hlt', rfl⟩ := List.getElem?_eq_some_iff.mp hget'
    exact h.get hlt hlt'
  exact selectedAt_of_reordered hat.2 (List.forall₂_take i h) hsame (List.forall₂_drop (i + 1) h)

theorem selectionLaws (host : HostCapabilities) (req : SelectionRequest)
    (records : List ArtifactVersionRecord) :
  SelectionLaws host req records
  := by
  constructor
  · intro result h
    obtain ⟨before, best, after, rfl, hselected, hat⟩ := exists_selectedAt h
    refine ⟨best, by simp, hselected, hat.leads.holds, ?_⟩
    intro r hr heligible
    exact outranks_iff.mp (outranks_of_selectedAt hat hr heligible)
  · intro records' hperm hruns best
    constructor
    · apply exists_selectsAt_of_perm hperm
      exact (hperm.map (·.runID)).nodup_iff.mp hruns
    · exact exists_selectsAt_of_perm hperm.symm hruns
  · intro records' h i r r' hget hget'
    have hsymm : List.Forall₂ Reordered records' records :=
      h.flip.imp fun _ _ hsame => Reordered.symm hsame
    have hsame : Reordered r r' := by
      obtain ⟨hlt, rfl⟩ := List.getElem?_eq_some_iff.mp hget
      obtain ⟨hlt', rfl⟩ := List.getElem?_eq_some_iff.mp hget'
      exact h.get hlt hlt'
    use score_of_reordered hsame
    constructor
    · exact selectsAt_of_reordered h hget hget'
    · exact selectsAt_of_reordered hsymm hget' hget

/-- How many times the exact score of a record for a request runs through the range of the
machine. -/
def overflows (host : HostCapabilities) (req : SelectionRequest) (r : ArtifactVersionRecord) :
    Int :=
  (exactScore r (hostProfileHint host) (trimSpace req.targetProfileID) host + 2 ^ 63) / 2 ^ 64

/-- Selection is optimal and does not depend on any order, and a record that gets better does not
score lower, precisely when its exact scores before and after overflow equally often. -/
theorem selection_laws_iff (records : List ArtifactVersionRecord) (host : HostCapabilities)
    (req : SelectionRequest) (r r' : ArtifactVersionRecord) (h : Improves r r') :
  SelectionLaws host req records ∧
      (candidateOf host req r).score ≤ (candidateOf host req r').score
    ↔ overflows host req r = overflows host req r'
  := by
  obtain ⟨hle, hlt⟩ :=
    exactScore_of_improves h (hostProfileHint host) (trimSpace req.targetProfileID) host
  rw [and_iff_right (selectionLaws host req records), candidateOf, candidateOf]
  dsimp only
  rw [scoreRecord_eq_ofInt, scoreRecord_eq_ofInt, ofInt_le_ofInt_iff hle hlt, overflows, overflows]

end

/-! ### A score that overflows -/

/-- A request for a profile. -/
def nobleRequest : SelectionRequest where
  artifactName := str "probe"
  targetProfileID := str "ubuntu-24.04-6.8"

/-- A record of many required runs that passed. -/
def manyPassed (requiredPassed : Int64) (supported : List Str) : ArtifactVersionRecord where
  artifactName := str "probe"
  artifactVersion := str "v1"
  runID := str "run-1"
  requiredPassed := requiredPassed
  supportedProfiles := supported

theorem improves_manyPassed (requiredPassed : Int64) :
  Improves (manyPassed requiredPassed []) (manyPassed requiredPassed [str "ubuntu-24.04-6.8"])
  := .supports [] [] _ rfl

section

attribute [local instance] asciiCaseTables

theorem selection_laws_noble :
  SelectionLaws {} nobleRequest [manyPassed 3 []] ∧
    (candidateOf {} nobleRequest (manyPassed 3 [])).score
      ≤ (candidateOf {} nobleRequest (manyPassed 3 [str "ubuntu-24.04-6.8"])).score
  := by
  apply (selection_laws_iff _ _ _ _ _ (improves_manyPassed 3)).mpr
  decide

/-- With enough runs that passed, the profile that is supported makes the score negative. -/
theorem supported_profile_lowers_score :
  ¬ ∀ (records : List ArtifactVersionRecord) (host : HostCapabilities) (req : SelectionRequest)
      (r r' : ArtifactVersionRecord), Improves r r' →
    SelectionLaws host req records ∧
      (candidateOf host req r).score ≤ (candidateOf host req r').score
  := by
  intro h
  have hscore := (h [] {} nobleRequest _ _ (improves_manyPassed 922337203685477580)).2
  rw [candidateOf, candidateOf] at hscore
  dsimp only at hscore
  revert hscore
  decide

end

end Runtime
