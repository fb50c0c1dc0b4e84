import BpfCompat.Go.Collections
import BpfCompat.Schema.Verdict

/-!
# Comparing two reports

`Build` compares the report of a base with that of a head, profile by profile.  A status has a
score, and a profile is improved or regressed where its score went up or down.  A profile is
required where the head says so, and where the base says so if the head does not have it.

Every loss of a required profile is counted, and no profile without an answer on one side is
counted as improved or regressed, exactly if the head keeps the profiles the base required and
passed, and requires those that fail, and a side that gave no answer has the status of the other
one, or neither has a status with a score of its own (`compare_sound_iff`).
-/

namespace Compare

open Go Schema

/-! ### The comparison -/

inductive Change where
  | added
  | removed
  | unknown
  | unchanged
  | classificationChanged
  | improved
  | regressed
  | changed
deriving DecidableEq

structure ProfileDiff where
  profileID : Str
  required : Bool
  change : Change
  baseStatus : Str := []
  headStatus : Str := []
  baseClassification : Str := []
  headClassification : Str := []
  baseConfidence : Str := []
  headConfidence : Str := []
  classificationDelta : Str := []
deriving DecidableEq

structure DiffSummary where
  totalProfiles : Nat := 0
  changedProfiles : Nat := 0
  improvedProfiles : Nat := 0
  regressedProfiles : Nat := 0
  requiredRegressions : Nat := 0
  baseRequiredFailed : Nat := 0
  headRequiredFailed : Nat := 0
deriving DecidableEq

def pickRequired : Option Target → Option Target → Bool
  | _, some head => head.required
  | some base, none => base.required
  | none, none => false

def statusScore (status : Str) : Nat :=
  if status = str "pass" then 3
  else if status = str "fail" then 2
  else if status = str "infra_error" then 1
  else 0

def inferChange : Option Target → Option Target → Change
  | none, some _ => .added
  | some _, none => .removed
  | none, none => .unknown
  | some base, some head =>
    if base.status = head.status then
      if trimSpace base.classificationCode = trimSpace head.classificationCode then .unchanged
      else .classificationChanged
    else if statusScore base.status < statusScore head.status then .improved
    else if statusScore head.status < statusScore base.status then .regressed
    else .changed

def classificationDelta (base head : Str) : Str :=
  let base := trimSpace base
  let head := trimSpace head
  if base = [] ∧ head = [] then []
  else if base = head then str "unchanged"
  else if base = [] then str "new:" ++ head
  else if head = [] then str "cleared:" ++ base
  else base ++ str "->" ++ head

/-- What is said of one profile; a side that does not have it counts as a target without contents. -/
def diffProfile (id : Str) (base head : Option Target) : ProfileDiff where
  profileID := id
  required := pickRequired base head
  change := inferChange base head
  baseStatus := (base.getD {}).status
  headStatus := (head.getD {}).status
  baseClassification := (base.getD {}).classificationCode
  headClassification := (head.getD {}).classificationCode
  baseConfidence := (base.getD {}).classificationConfidence
  headConfidence := (head.getD {}).classificationConfidence
  classificationDelta :=
    Compare.classificationDelta (base.getD {}).classificationCode (head.getD {}).classificationCode

/-- The profiles of both reports, in order. -/
def profileIDs (base head : ReportV01) : List Str :=
  sortKeys (collect [] ((base.targets ++ head.targets).map (·.profileID)))

def makeDiffProfiles (base head : ReportV01) : List ProfileDiff :=
  let baseByProfile := indexBy Target.profileID base.targets
  let headByProfile := indexBy Target.profileID head.targets
  (profileIDs base head).map fun id =>
    diffProfile id (baseByProfile.lookup id) (headByProfile.lookup id)

def summarizeDiff (base head : ReportV01) (profiles : List ProfileDiff) : DiffSummary where
  totalProfiles := profiles.length
  changedProfiles := profiles.countP fun diff => diff.change ≠ .unchanged
  improvedProfiles := profiles.countP fun diff => diff.change = .improved
  regressedProfiles := profiles.countP fun diff => diff.change = .regressed
  requiredRegressions := profiles.countP fun diff => diff.change = .regressed ∧ diff.required = true
  baseRequiredFailed := base.targets.countP fun t => t.required ∧ t.status ≠ str "pass"
  headRequiredFailed := head.targets.countP fun t => t.required ∧ t.status ≠ str "pass"

structure ReportRef where
  path : Str
  runID : Str
  summaryStatus : Str
deriving DecidableEq

structure ReportDiff where
  schemaVersion : Str
  generatedAt : Str
  base : ReportRef
  head : ReportRef
  summary : DiffSummary
  profiles : List ProfileDiff
deriving DecidableEq

/-- The comparison of two reports; `now` is the time as it is written. -/
def build (base head : ReportV01) (basePath headPath now : Str) : ReportDiff where
  schemaVersion := str "compat_diff.v0.1"
  generatedAt := now
  base := ⟨basePath, base.run.id, base.summary.status⟩
  head := ⟨headPath, head.run.id, head.summary.status⟩
  summary := summarizeDiff base head (makeDiffProfiles base head)
  profiles := makeDiffProfiles base head

/-! ### What is counted -/

/-- The reports have no two targets of one profile. -/
def Unique (report : ReportV01) : Prop := (report.targets.map (·.profileID)).Nodup

instance (report : ReportV01) : Decidable (Unique report) :=
  inferInstanceAs (Decidable (List.Nodup _))

/-- The target of a report for a profile. -/
def targetOf (report : ReportV01) (id : Str) : Option Target := find Target.profileID report.targets id

theorem mem_makeDiffProfiles {base head : ReportV01} (hbase : Unique base) (hhead : Unique head)
    {diff : ProfileDiff} :
  diff ∈ makeDiffProfiles base head ↔ ∃ id ∈ profileIDs base head,
    diff = diffProfile id (targetOf base id) (targetOf head id)
  := by
  simp only [makeDiffProfiles, List.mem_map, lookup_indexBy hbase, lookup_indexBy hhead]
  constructor
  · rintro ⟨id, hid, rfl⟩
    exact ⟨id, hid, rfl⟩
  · rintro ⟨id, hid, rfl⟩
    exact ⟨id, hid, rfl⟩

theorem mem_profileIDs {base head : ReportV01} {id : Str} :
  id ∈ profileIDs base head ↔ ∃ t ∈ base.targets ++ head.targets, t.profileID = id
  := by
  rw [profileIDs, mem_sortKeys, mem_collect, List.mem_map]
  simp

/-- The profile is one of those a count of the summary counts. -/
def Counted (base head : ReportV01) (p : ProfileDiff → Prop) (id : Str) : Prop :=
  ∃ diff ∈ makeDiffProfiles base head, diff.profileID = id ∧ p diff

theorem counted_iff {base head : ReportV01} (hbase : Unique base) (hhead : Unique head)
    {p : ProfileDiff → Prop} {id : Str} :
  Counted base head p id ↔ id ∈ profileIDs base head ∧
    p (diffProfile id (targetOf base id) (targetOf head id))
  := by
  simp only [Counted, mem_makeDiffProfiles hbase hhead]
  constructor
  · rintro ⟨diff, ⟨id', hid, rfl⟩, rfl, hp⟩
    exact ⟨hid, hp⟩
  · rintro ⟨hid, hp⟩
    exact ⟨_, ⟨id, hid, rfl⟩, rfl, hp⟩

/-- A required regression. -/
def RequiredRegression (diff : ProfileDiff) : Prop := diff.change = .regressed ∧ diff.required = true

/-- A change for better or worse. -/
def Judged (diff : ProfileDiff) : Prop := diff.change = .improved ∨ diff.change = .regressed

/-- The target says nothing about the software. -/
def NoAnswer (t : Target) : Prop :=
  verdictForStatus t.status = verdictInfraError ∨ verdictForStatus t.status = verdictUnsupported

/-- The target says that the software does not work. -/
def Fails (t : Target) : Prop := verdictForStatus t.status = verdictIncompatible

/-- The profile was required and passed in the base, and fails in the head or is not there. -/
structure Lost (base head : ReportV01) (b : Target) : Prop where
  mem : b ∈ base.targets
  required : b.required = true
  passed : b.status = str "pass"
  gone : ∀ h, targetOf head b.profileID = some h → Fails h

/-- What the comparison is for: every loss of a required profile is counted as a required
regression, and no profile without an answer on one side is counted as improved or regressed. -/
structure Sound (base head : ReportV01) : Prop where
  regressions : ∀ b, Lost base head b → Counted base head RequiredRegression b.profileID
  judged : ∀ t ∈ base.targets ++ head.targets, NoAnswer t → ¬ Counted base head Judged t.profileID

/-- The head has the profiles the base required and passed, and requires those that fail. -/
def KeepsRequired (base head : ReportV01) : Prop :=
  ∀ b ∈ base.targets, b.required = true → b.status = str "pass" →
    ∃ h ∈ head.targets, h.profileID = b.profileID ∧ (Fails h → h.required = true)

/-- A status that is not a pass, a failure or an infrastructure error. -/
def Unranked (status : Str) : Prop :=
  status ≠ str "pass" ∧ status ≠ str "fail" ∧ status ≠ str "infra_error"

instance (status : Str) : Decidable (Unranked status) :=
  inferInstanceAs (Decidable (_ ∧ _ ∧ _))

/-- Where one side gave no answer, the two sides have one status, or both an unranked one. -/
def SameRanks (base head : ReportV01) : Prop :=
  ∀ b ∈ base.targets, ∀ h ∈ head.targets, b.profileID = h.profileID → NoAnswer b ∨ NoAnswer h →
    b.status = h.status ∨ Unranked b.status ∧ Unranked h.status

theorem statusScore_eq_zero_iff {status : Str} :
  statusScore status = 0 ↔ Unranked status
  := by
  unfold statusScore Unranked
  split_ifs <;> simp_all

theorem statusScore_eq_iff {s t : Str} :
  statusScore s = statusScore t ↔ s = t ∨ Unranked s ∧ Unranked t
  := by
  constructor
  · intro h
    rw [← statusScore_eq_zero_iff, ← statusScore_eq_zero_iff]
    unfold statusScore at h ⊢
    split_ifs at h ⊢ <;> simp_all
  · rintro (rfl | ⟨hs, ht⟩)
    · rfl
    · rw [statusScore_eq_zero_iff.mpr hs, statusScore_eq_zero_iff.mpr ht]

/-- A profile of both sides is improved or regressed exactly if the scores differ. -/
theorem judged_diffProfile {id : Str} {b h : Target} :
  Judged (diffProfile id (some b) (some h)) ↔ statusScore b.status ≠ statusScore h.status
  := by
  simp only [Judged, diffProfile, inferChange]
  split_ifs with hstatus hcode hup hdown
  · simp [hstatus]
  · simp [hstatus]
  · simp [hup.ne]
  · simp [hdown.ne']
  · simp
    omega

theorem Fails.status {t : Target} (h : Fails t) :
  t.status = str "fail" ∨ t.status = str "partial"
  := by
  unfold Fails verdictForStatus at h
  split_ifs at h with h₁ h₂ h₃ h₄
  · cases h
  · cases h
  · cases h
  · exact h₄
  · cases h

/-- A profile that passed and fails is a required regression exactly if the head requires it. -/
theorem requiredRegression_diffProfile {id : Str} {b h : Target} (hb : b.status = str "pass")
    (hh : Fails h) :
  RequiredRegression (diffProfile id (some b) (some h)) ↔ h.required = true
  := by
  have hne : b.status ≠ h.status := by
    rw [hb]
    obtain hf | hf := hh.status
    · rw [hf]
      decide
    · rw [hf]
      decide
  have hscore : statusScore h.status < statusScore b.status := by
    rw [hb]
    obtain hf | hf := hh.status
    · rw [hf]
      decide
    · rw [hf]
      decide
  simp only [RequiredRegression, diffProfile, inferChange, pickRequired, if_neg hne,
    if_neg hscore.not_gt, if_pos hscore, true_and]

section Unique

variable {base head : ReportV01} (hbase : Unique base) (hhead : Unique head)

include hbase hhead

theorem regressions_iff :
  (∀ b, Lost base head b → Counted base head RequiredRegression b.profileID)
    ↔ KeepsRequired base head
  := by
  constructor
  · intro hsound b hb hrequired hpassed
    have hbfind : targetOf base b.profileID = some b := (find_eq_some_iff hbase).mpr ⟨hb, rfl⟩
    cases hfind : targetOf head b.profileID with
    | none =>
        have hlost : Lost base head b := ⟨hb, hrequired, hpassed, by simp [hfind]⟩
        have hcounted := ((counted_iff hbase hhead).mp (hsound b hlost)).2
        rw [hbfind, hfind] at hcounted
        cases hcounted.1
    | some h =>
        obtain ⟨hmem, hid⟩ := find_eq_some hfind
        use h, hmem, hid
        intro hfails
        have hgone : ∀ h', targetOf head b.profileID = some h' → Fails h' := by
          intro h' hh'
          rw [hfind] at hh'
          cases hh'
          exact hfails
        have hcounted := ((counted_iff hbase hhead).mp (hsound b ⟨hb, hrequired, hpassed, hgone⟩)).2
        rw [hbfind, hfind] at hcounted
        exact (requiredRegression_diffProfile hpassed hfails).mp hcounted
  · intro hkeeps b hlost
    obtain ⟨h, hmem, hid, hrequired⟩ := hkeeps b hlost.mem hlost.required hlost.passed
    have hfind : targetOf head b.profileID = some h := (find_eq_some_iff hhead).mpr ⟨hmem, hid⟩
    have hbfind : targetOf base b.profileID = some b :=
      (find_eq_some_iff hbase).mpr ⟨hlost.mem, rfl⟩
    have hfails := hlost.gone h hfind
    rw [counted_iff hbase hhead, hfind, hbfind]
    constructor
    · exact mem_profileIDs.mpr ⟨b, List.mem_append_left _ hlost.mem, rfl⟩
    · exact (requiredRegression_diffProfile hlost.passed hfails).mpr (hrequired hfails)

/-- A profile counted as improved or regressed is on both sides, with different scores. -/
theorem counted_judged_iff {id : Str} :
  Counted base head Judged id ↔ ∃ b ∈ base.targets, ∃ h ∈ head.targets,
    b.profileID = id ∧ h.profileID = id ∧ statusScore b.status ≠ statusScore h.status
  := by
  rw [counted_iff hbase hhead]
  constructor
  · rintro ⟨-, hjudged⟩
    cases hb : targetOf base id with
    | none =>
        rw [hb] at hjudged
        cases hh : targetOf head id with
        | none => simp [hh, Judged, diffProfile, inferChange] at hjudged
        | some h => simp [hh, Judged, diffProfile, inferChange] at hjudged
    | some b =>
        cases hh : targetOf head id with
        | none => simp [hb, hh, Judged, diffProfile, inferChange] at hjudged
        | some h =>
            rw [hb, hh, judged_diffProfile] at hjudged
            obtain ⟨hbmem, hbid⟩ := find_eq_some hb
            obtain ⟨hhmem, hhid⟩ := find_eq_some hh
            exact ⟨b, hbmem, h, hhmem, hbid, hhid, hjudged⟩
  · rintro ⟨b, hb, h, hh, hbid, hhid, hscore⟩
    have hbfind : targetOf base id = some b := (find_eq_some_iff hbase).mpr ⟨hb, hbid⟩
    have hhfind : targetOf head id = some h := (find_eq_some_iff hhead).mpr ⟨hh, hhid⟩
    rw [hbfind, hhfind, judged_diffProfile]
    exact ⟨mem_profileIDs.mpr ⟨b, List.mem_append_left _ hb, hbid⟩, hscore⟩

theorem judged_iff :
  (∀ t ∈ base.targets ++ head.targets, NoAnswer t → ¬ Counted base head Judged t.profileID)
    ↔ SameRanks base head
  := by
  simp only [counted_judged_iff hbase hhead]
  constructor
  · intro hsound b hb h hh hid hanswer
    by_contra hranks
    rw [← statusScore_eq_iff] at hranks
    obtain hanswer | hanswer := hanswer
    · exact hsound b (List.mem_append_left _ hb) hanswer ⟨b, hb, h, hh, rfl, hid.symm, hranks⟩
    · exact hsound h (List.mem_append_right _ hh) hanswer ⟨b, hb, h, hh, hid, rfl, hranks⟩
  · rintro hranks t ht hanswer ⟨b, hb, h, hh, hbid, hhid, hscore⟩
    have hone : NoAnswer b ∨ NoAnswer h := by
      obtain ht | ht := List.mem_append.mp ht
      · rw [List.inj_on_of_nodup_map hbase hb ht hbid]
        exact .inl hanswer
      · rw [List.inj_on_of_nodup_map hhead hh ht hhid]
        exact .inr hanswer
    exact hscore (statusScore_eq_iff.mpr (hranks b hb h hh (hbid.trans hhid.symm) hone))

/-- The number of required regressions is the number of profiles counted as such. -/
theorem requiredRegressions_eq (basePath headPath now : Str) :
  (build base head basePath headPath now).summary.requiredRegressions
    = {id | Counted base head RequiredRegression id}.ncard
  := by
  have hnodup : (profileIDs base head).Nodup :=
    (List.perm_insertionSort _ _).nodup_iff.mpr (nodup_collect List.nodup_nil)
  let p : Str → Bool := fun id =>
    let diff := diffProfile id (targetOf base id) (targetOf head id)
    diff.change = .regressed ∧ diff.required = true
  have hset : {id | Counted base head RequiredRegression id}
      = ((profileIDs base head).filter p).toFinset := by
    ext id
    simp [p, counted_iff hbase hhead, RequiredRegression]
  rw [hset, Set.ncard_coe_finset, List.toFinset_card_of_nodup (hnodup.filter p),
    ← List.countP_eq_length_filter]
  simp only [build, summarizeDiff, makeDiffProfiles, lookup_indexBy hbase, lookup_indexBy hhead,
    List.countP_map]
  rfl

/-- The comparison counts every loss of a required profile and judges no profile without an
answer exactly if the head keeps what the base required, and a side without an answer has the
status of the other, or neither a ranked one. -/
theorem compare_sound_iff :
  Sound base head ↔ KeepsRequired base head ∧ SameRanks base head
  := by
  rw [← regressions_iff hbase hhead, ← judged_iff hbase hhead]
  constructor
  · rintro ⟨hregressions, hjudged⟩
    exact ⟨hregressions, hjudged⟩
  · rintro ⟨hregressions, hjudged⟩
    exact ⟨hregressions, hjudged⟩

end Unique

/-- A report of one profile. -/
def oneProfile (required : Bool) (status : Str) : ReportV01 where
  targets := [{ profileID := str "debian-12-6.1", required := required, status := status }]

theorem unique_empty :
  Unique {}
  := List.nodup_nil

theorem unique_oneProfile (required : Bool) (status : Str) :
  Unique (oneProfile required status)
  := List.nodup_singleton _

/-- A required profile that passed and fails is counted. -/
theorem failing_profile_counted :
  Sound (oneProfile true (str "pass")) (oneProfile true (str "fail"))
  := by
  apply (compare_sound_iff (unique_oneProfile _ _) (unique_oneProfile _ _)).mpr
  constructor
  · intro b hb _ _
    cases List.mem_singleton.mp hb
    exact ⟨_, List.mem_singleton_self _, rfl, fun _ => rfl⟩
  · intro b hb h hh _ hanswer
    cases List.mem_singleton.mp hb
    cases List.mem_singleton.mp hh
    exfalso
    unfold NoAnswer at hanswer
    revert hanswer
    decide

/-- The head does not require a profile any more that passed and fails, or does not have it, or
the base could not run it. -/
theorem demoted_removed_recovered :
  ¬ Sound (oneProfile true (str "pass")) (oneProfile false (str "fail"))
  ∧ ¬ Sound (oneProfile true (str "pass")) {}
  ∧ ¬ Sound (oneProfile true (str "infra_error")) (oneProfile true (str "pass"))
  := by
  have hmem := List.mem_singleton_self
    ({ profileID := str "debian-12-6.1", required := true, status := str "pass" } : Target)
  refine ⟨?_, ?_, ?_⟩
  · intro hsound
    obtain ⟨h, hh, -, hrequired⟩ :=
      (regressions_iff (unique_oneProfile _ _) (unique_oneProfile _ _)).mp hsound.regressions
        _ hmem rfl rfl
    cases List.mem_singleton.mp hh
    cases hrequired rfl
  · intro hsound
    obtain ⟨h, hh, -⟩ :=
      (regressions_iff (unique_oneProfile _ _) unique_empty).mp hsound.regressions _ hmem rfl rfl
    cases hh
  · intro hsound
    have hranks := (judged_iff (unique_oneProfile _ _) (unique_oneProfile _ _)).mp hsound.judged
      _ (List.mem_singleton_self _) _ (List.mem_singleton_self _) rfl (.inl (.inl rfl))
    revert hranks
    decide

end Compare
