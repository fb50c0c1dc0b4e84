import BpfCompat.Registry.Record
import BpfCompat.Schema.Verdict

/-!
# The record of a run

What the runner puts into the artifact history about the targets of a run: the profiles it
supports, those it failed on, and how many of the required targets passed.

The loop splits the targets by their status alone, a pass against everything else.
-/

namespace Runner

open Go Schema Registry

/-- What a record says about the targets. -/
structure TargetSummary where
  supportedProfiles : List Str := []
  failedProfiles : List Str := []
  requiredPassed : Int64 := 0
  requiredFailed : Int64 := 0
  classificationCodes : List Str := []

/-- The counters after one target. -/
def countTarget (s : TargetSummary) (t : Target) : TargetSummary :=
  if !t.required then s
  else if t.status = str "pass" then { s with requiredPassed := s.requiredPassed + 1 }
  else { s with requiredFailed := s.requiredFailed + 1 }

/-- The profiles after one target, which is listed under the given name. -/
def listTarget (s : TargetSummary) (t : Target) (name : Str) : TargetSummary :=
  if t.status = str "pass" then { s with supportedProfiles := s.supportedProfiles ++ [name] }
  else { s with failedProfiles := s.failedProfiles ++ [name] }

/-- One round of the loop. -/
def summarizeTarget (s : TargetSummary) (t : Target) : TargetSummary :=
  let s := listTarget (countTarget s t) t t.profileID
  let code := trimSpace t.classificationCode
  if code = [] ∨ code ∈ s.classificationCodes then s
  else { s with classificationCodes := s.classificationCodes ++ [code] }

def summarizeTargets (targets : List Target) : TargetSummary :=
  let s := targets.foldl summarizeTarget {}
  { s with
    supportedProfiles := sortKeys s.supportedProfiles
    failedProfiles := sortKeys s.failedProfiles
    classificationCodes := sortKeys s.classificationCodes }

/-- The record of a run, for what it says apart from the targets. -/
def persistedRecord (base : ArtifactVersionRecord) (targets : List Target) :
    ArtifactVersionRecord :=
  let s := summarizeTargets targets
  normalizeRecord
    { base with
      requiredPassed := s.requiredPassed
      requiredFailed := s.requiredFailed
      totalProfiles := Int64.ofNat targets.length
      supportedProfiles := s.supportedProfiles
      failedProfiles := s.failedProfiles
      classificationCode := s.classificationCodes }

/-! ### What the loops compute -/

/-- The contribution of a target to a counter. -/
def tally (p : Prop) [Decidable p] : Int64 := if p then 1 else 0

/-- The targets a loop has gone through, from their names and counters. -/
structure Splits (name : Target → Str) (s s' : TargetSummary) (targets : List Target) : Prop where
  supported : s'.supportedProfiles
    = s.supportedProfiles ++ (targets.filter (·.status = str "pass")).map name
  failed : s'.failedProfiles
    = s.failedProfiles ++ (targets.filter (·.status ≠ str "pass")).map name
  passed : s'.requiredPassed = s.requiredPassed +
    (targets.map fun t => tally (t.required = true ∧ t.status = str "pass")).sum
  unpassed : s'.requiredFailed = s.requiredFailed +
    (targets.map fun t => tally (t.required = true ∧ t.status ≠ str "pass")).sum

theorem Splits.nil (name : Target → Str) (s : TargetSummary) :
  Splits name s s []
  := by
  constructor <;> simp

/-- A round counts a target once and lists it once. -/
theorem Splits.round (name : Target → Str) (s : TargetSummary) (t : Target) :
  Splits name s (listTarget (countTarget s t) t (name t)) [t]
  := by
  rw [listTarget, countTarget]
  cases hrequired : t.required <;> by_cases hpass : t.status = str "pass" <;>
    constructor <;> simp [tally, hpass, hrequired]

theorem Splits.cons {name : Target → Str} {s s₁ s₂ : TargetSummary} {t : Target}
    {targets : List Target} (h : Splits name s s₁ [t]) (h' : Splits name s₁ s₂ targets) :
  Splits name s s₂ (t :: targets)
  := by
  rw [← List.singleton_append]
  constructor
  · rw [h'.supported, h.supported, List.filter_append, List.map_append, List.append_assoc]
  · rw [h'.failed, h.failed, List.filter_append, List.map_append, List.append_assoc]
  · rw [h'.passed, h.passed, List.map_append, List.sum_append, Int64.add_assoc]
  · rw [h'.unpassed, h.unpassed, List.map_append, List.sum_append, Int64.add_assoc]

/-- A loop whose rounds count and list one target each does so for all of them. -/
theorem Splits.foldl {name : Target → Str} {round : TargetSummary → Target → TargetSummary}
    (h : ∀ s t, Splits name s (round s t) [t]) (s : TargetSummary) (targets : List Target) :
  Splits name s (targets.foldl round s) targets
  := by
  induction targets generalizing s with
  | nil => exact .nil name s
  | cons t targets ih => exact (h s t).cons (ih (round s t))

/-- The codes are not part of what is split. -/
theorem Splits.codes {name : Target → Str} {s s' : TargetSummary} {targets : List Target}
    (h : Splits name s s' targets) (codes : List Str) :
  Splits name s { s' with classificationCodes := codes } targets
  := ⟨h.supported, h.failed, h.passed, h.unpassed⟩

theorem splits_summarizeTarget (s : TargetSummary) (t : Target) :
  Splits (·.profileID) s (summarizeTarget s t) [t]
  := by
  have hround := Splits.round (·.profileID) s t
  rw [summarizeTarget]
  split_ifs
  · exact hround
  · exact hround.codes _

/-- How a record depends on the targets it is about: a pass is support, anything else is
failure. -/
structure SplitsByStatus (record : List Target → ArtifactVersionRecord) : Prop where
  mem_supported : ∀ targets p, p ∈ (record targets).supportedProfiles ↔
    p ≠ [] ∧ ∃ t ∈ targets, t.status = str "pass" ∧ trimSpace t.profileID = p
  mem_failed : ∀ targets p, p ∈ (record targets).failedProfiles ↔
    p ≠ [] ∧ ∃ t ∈ targets, t.status ≠ str "pass" ∧ trimSpace t.profileID = p
  requiredPassed : ∀ targets, (record targets).requiredPassed
    = (targets.map fun t => tally (t.required = true ∧ t.status = str "pass")).sum
  requiredFailed : ∀ targets, (record targets).requiredFailed
    = (targets.map fun t => tally (t.required = true ∧ t.status ≠ str "pass")).sum

theorem splitsByStatus_persistedRecord (base : ArtifactVersionRecord) :
  SplitsByStatus (persistedRecord base)
  := by
  have hsplits := Splits.foldl splits_summarizeTarget {}
  constructor
  · intro targets p
    show p ∈ dedupeSorted (sortKeys (targets.foldl summarizeTarget {}).supportedProfiles) ↔ _
    rw [mem_dedupeSorted, (hsplits targets).supported]
    simp [and_assoc]
  · intro targets p
    show p ∈ dedupeSorted (sortKeys (targets.foldl summarizeTarget {}).failedProfiles) ↔ _
    rw [mem_dedupeSorted, (hsplits targets).failed]
    simp [and_assoc]
  · intro targets
    exact (hsplits targets).passed.trans (Int64.zero_add _)
  · intro targets
    exact (hsplits targets).unpassed.trans (Int64.zero_add _)

end Runner
