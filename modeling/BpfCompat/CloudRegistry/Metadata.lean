import BpfCompat.Runner.Summary

/-!
# What a record claims about an artifact

The compatibility metadata of an upload: given with the form, or taken from a report.  The loop
over the targets of a report is the one of the runner with the names trimmed.

Both loops advertise support for every target that passed and failure for every other.  What
they advertise was established exactly when every target that passed has the verdict compatible
for the environment its profile asked for, and every other one the verdict incompatible
(`advertised_iff`).
-/

namespace CloudRegistry

open Go Schema Registry Runner

section

variable [UnicodeTables]

structure CompatibilityMetadata where
  summaryStatus : Str := []
  requiredPassed : Int64 := 0
  requiredFailed : Int64 := 0
  totalProfiles : Int64 := 0
  supportedProfiles : List Str := []
  failedProfiles : List Str := []
  classificationCode : List Str := []
  matrixPath : Str := []
  matrixName : Str := []
  markdownPath : Str := []

/-- The text, or a word for a missing one. -/
def orUnknown (status : Str) : Str := if status = [] then str "unknown" else status

def normalizeCompatibility (m : CompatibilityMetadata) : CompatibilityMetadata :=
  { m with
    summaryStatus := orUnknown (trimSpace (toLower m.summaryStatus))
    supportedProfiles := dedupeSorted m.supportedProfiles
    failedProfiles := dedupeSorted m.failedProfiles
    classificationCode := dedupeSorted m.classificationCode
    matrixPath := trimSpace m.matrixPath
    matrixName := trimSpace m.matrixName
    markdownPath := trimSpace m.markdownPath }

/-- One round of the loop over the targets of a report. -/
def addTarget (s : TargetSummary) (t : Target) : TargetSummary :=
  let s := listTarget (countTarget s t) t (trimSpace t.profileID)
  let code := trimSpace t.classificationCode
  if code = [] then s else { s with classificationCodes := s.classificationCodes ++ [code] }

def metadataFromReport (report : ReportV01) : CompatibilityMetadata :=
  let s := report.targets.foldl addTarget {}
  { summaryStatus := orUnknown (trimSpace (toLower report.summary.status))
    requiredPassed := s.requiredPassed
    requiredFailed := s.requiredFailed
    totalProfiles := Int64.ofNat report.targets.length
    supportedProfiles := dedupeSorted s.supportedProfiles
    failedProfiles := dedupeSorted s.failedProfiles
    classificationCode := dedupeSorted s.classificationCodes
    matrixPath := trimSpace report.matrix.path
    matrixName := trimSpace report.matrix.name
    markdownPath := trimSpace report.paths.markdown }

/-- The metadata of an upload; a report takes precedence over the form. -/
def uploadCompatibility (m : CompatibilityMetadata) (report : Option ReportV01) :
    CompatibilityMetadata :=
  let compat := (report.map metadataFromReport).getD (normalizeCompatibility m)
  { compat with
    totalProfiles :=
      if compat.totalProfiles = 0 then compat.requiredPassed + compat.requiredFailed
      else compat.totalProfiles
    summaryStatus := orUnknown compat.summaryStatus }

/-- A record with the metadata of an upload. -/
def withCompatibility (base : ArtifactVersionRecord) (compat : CompatibilityMetadata) :
    ArtifactVersionRecord :=
  { base with
    matrixPath := compat.matrixPath
    matrixName := compat.matrixName
    summaryStatus := compat.summaryStatus
    requiredPassed := compat.requiredPassed
    requiredFailed := compat.requiredFailed
    totalProfiles := compat.totalProfiles
    supportedProfiles := compat.supportedProfiles
    failedProfiles := compat.failedProfiles
    classificationCode := compat.classificationCode
    markdownPath := compat.markdownPath }

/-- The record of an upload with a report, for what it says apart from the metadata. -/
def uploadedRecord (base : ArtifactVersionRecord) (m : CompatibilityMetadata) (report : ReportV01) :
    ArtifactVersionRecord :=
  normalizeRecord (withCompatibility base (uploadCompatibility m (some report)))

/-! ### What is advertised -/

omit [UnicodeTables] in
theorem splits_addTarget (s : TargetSummary) (t : Target) :
  Splits (fun t => trimSpace t.profileID) s (addTarget s t) [t]
  := by
  have hround := Splits.round (fun t => trimSpace t.profileID) s t
  rw [addTarget]
  split_ifs
  · exact hround
  · exact hround.codes _

omit [UnicodeTables] in
theorem mem_dedupeSorted_dedupeSorted {values : List Str} {value : Str} :
  value ∈ dedupeSorted (dedupeSorted values) ↔ value ∈ dedupeSorted values
  := by
  have htrim : ∀ v ∈ dedupeSorted values, trimSpace v = v := by
    intro v hv
    obtain ⟨-, v', -, rfl⟩ := mem_dedupeSorted.mp hv
    exact trimSpace_trimSpace v'
  rw [mem_dedupeSorted]
  constructor
  · rintro ⟨-, v, hv, rfl⟩
    rwa [htrim v hv]
  · intro h
    exact ⟨(mem_dedupeSorted.mp h).1, value, h, htrim value h⟩

theorem splitsByStatus_uploadedRecord (base : ArtifactVersionRecord) (m : CompatibilityMetadata)
    (report : ReportV01) :
  SplitsByStatus fun targets => uploadedRecord base m { report with targets := targets }
  := by
  have hsplits := Splits.foldl splits_addTarget {}
  constructor
  · intro targets p
    show p ∈ dedupeSorted (dedupeSorted (targets.foldl addTarget {}).supportedProfiles) ↔ _
    rw [mem_dedupeSorted_dedupeSorted, mem_dedupeSorted, (hsplits targets).supported]
    simp [and_assoc]
  · intro targets p
    show p ∈ dedupeSorted (dedupeSorted (targets.foldl addTarget {}).failedProfiles) ↔ _
    rw [mem_dedupeSorted_dedupeSorted, mem_dedupeSorted, (hsplits targets).failed]
    simp [and_assoc]
  · intro targets
    exact (hsplits targets).passed.trans (Int64.zero_add _)
  · intro targets
    exact (hsplits targets).unpassed.trans (Int64.zero_add _)

/-- The target ran in the environment its profile asked for, and is compatible. -/
def Supports (t : Target) : Prop :=
  t.verdict = verdictCompatible ∧ establishedRequestedEnvironment t = true

/-- Whatever a record advertises was established: a target that put a profile into it, or that
it counts, has the verdict the record says.  What one target adds is in the record of that
target alone. -/
structure Advertised (record : List Target → ArtifactVersionRecord) (targets : List Target) :
    Prop where
  supported : ∀ p ∈ (record targets).supportedProfiles, ∀ t ∈ targets,
    p ∈ (record [t]).supportedProfiles → Supports t
  requiredPassed : ∀ t ∈ targets, (record [t]).requiredPassed ≠ 0 → Supports t
  failed : ∀ p ∈ (record targets).failedProfiles, ∀ t ∈ targets,
    p ∈ (record [t]).failedProfiles → t.verdict = verdictIncompatible
  requiredFailed : ∀ t ∈ targets, (record [t]).requiredFailed ≠ 0 → t.verdict = verdictIncompatible

/-- Every target that shows in a record either passed and supports its profile, or is
incompatible. -/
def Decided (targets : List Target) : Prop :=
  ∀ t ∈ targets, t.required = true ∨ trimSpace t.profileID ≠ [] →
    if t.status = str "pass" then Supports t else t.verdict = verdictIncompatible

omit [UnicodeTables] in
/-- What the record of one target says of it. -/
theorem shown_by_single {record : List Target → ArtifactVersionRecord}
    (h : SplitsByStatus record) (t : Target) :
  ((record [t]).requiredPassed ≠ 0 ↔ t.required = true ∧ t.status = str "pass") ∧
    ((record [t]).requiredFailed ≠ 0 ↔ t.required = true ∧ t.status ≠ str "pass") ∧
    (∀ p, p ∈ (record [t]).supportedProfiles ↔
      p ≠ [] ∧ t.status = str "pass" ∧ trimSpace t.profileID = p) ∧
    (∀ p, p ∈ (record [t]).failedProfiles ↔
      p ≠ [] ∧ t.status ≠ str "pass" ∧ trimSpace t.profileID = p)
  := by
  refine ⟨?_, ?_, ?_, ?_⟩
  · rw [h.requiredPassed]
    simp [tally]
  · rw [h.requiredFailed]
    simp [tally]
  · intro p
    rw [h.mem_supported]
    simp
  · intro p
    rw [h.mem_failed]
    simp

omit [UnicodeTables] in
theorem advertised_iff_decided {record : List Target → ArtifactVersionRecord}
    (h : SplitsByStatus record) (targets : List Target) :
  Advertised record targets ↔ Decided targets
  := by
  constructor
  · intro hadvertised t ht hshown
    obtain ⟨hpassed, hunpassed, hsupported, hfailed⟩ := shown_by_single h t
    split_ifs with hpass
    · rcases hshown with hrequired | hname
      · exact hadvertised.requiredPassed t ht (hpassed.mpr ⟨hrequired, hpass⟩)
      · have hown := (hsupported (trimSpace t.profileID)).mpr ⟨hname, hpass, rfl⟩
        apply hadvertised.supported (trimSpace t.profileID) _ t ht hown
        exact (h.mem_supported targets _).mpr ⟨hname, t, ht, hpass, rfl⟩
    · rcases hshown with hrequired | hname
      · exact hadvertised.requiredFailed t ht (hunpassed.mpr ⟨hrequired, hpass⟩)
      · have hown := (hfailed (trimSpace t.profileID)).mpr ⟨hname, hpass, rfl⟩
        apply hadvertised.failed (trimSpace t.profileID) _ t ht hown
        exact (h.mem_failed targets _).mpr ⟨hname, t, ht, hpass, rfl⟩
  · intro hdecided
    have supports : ∀ t ∈ targets, t.required = true ∨ trimSpace t.profileID ≠ [] →
        t.status = str "pass" → Supports t := by
      intro t ht hshown hpass
      have hif := hdecided t ht hshown
      rwa [if_pos hpass] at hif
    have incompatible : ∀ t ∈ targets, t.required = true ∨ trimSpace t.profileID ≠ [] →
        t.status ≠ str "pass" → t.verdict = verdictIncompatible := by
      intro t ht hshown hpass
      have hif := hdecided t ht hshown
      rwa [if_neg hpass] at hif
    constructor
    · intro p _ t ht hp
      obtain ⟨hne, hpass, rfl⟩ := ((shown_by_single h t).2.2.1 p).mp hp
      exact supports t ht (.inr hne) hpass
    · intro t ht hcount
      obtain ⟨hrequired, hpass⟩ := (shown_by_single h t).1.mp hcount
      exact supports t ht (.inl hrequired) hpass
    · intro p _ t ht hp
      obtain ⟨hne, hpass, rfl⟩ := ((shown_by_single h t).2.2.2 p).mp hp
      exact incompatible t ht (.inr hne) hpass
    · intro t ht hcount
      obtain ⟨hrequired, hpass⟩ := (shown_by_single h t).2.1.mp hcount
      exact incompatible t ht (.inl hrequired) hpass

/-- What the registry advertises about the targets of a report was established exactly when
every target it shows passed and supports its profile, or is incompatible: both in the record of
the runner and in that of an upload. -/
theorem advertised_iff (base : ArtifactVersionRecord) (m : CompatibilityMetadata)
    (report : ReportV01) :
  (Advertised (persistedRecord base) report.targets ↔ Decided report.targets) ∧
    (Advertised (fun targets => uploadedRecord base m { report with targets := targets })
      report.targets ↔ Decided report.targets)
  := ⟨advertised_iff_decided (splitsByStatus_persistedRecord base) _,
    advertised_iff_decided (splitsByStatus_uploadedRecord base m report) _⟩

end

section

attribute [local instance] asciiTables

/-- A required profile the pipeline failed on. -/
def brokenTarget : Target where
  profileID := str "ubuntu-22.04"
  required := true
  status := str "infra_error"
  verdict := verdictInfraError

/-- A failure of the pipeline is advertised as a failure of the software. -/
theorem not_advertised_infra_error :
  ¬ Advertised (persistedRecord {}) [brokenTarget] ∧
    ¬ Advertised (fun targets => uploadedRecord {} {} { targets := targets }) [brokenTarget]
  := by
  have hdecided : ¬ Decided [brokenTarget] := by
    intro h
    have hverdict := h brokenTarget List.mem_cons_self (.inl rfl)
    rw [if_neg (by decide)] at hverdict
    exact absurd hverdict (by decide)
  have hrunner := advertised_iff_decided (splitsByStatus_persistedRecord {}) [brokenTarget]
  have hupload := advertised_iff_decided (splitsByStatus_uploadedRecord {} {} {}) [brokenTarget]
  exact ⟨mt hrunner.mp hdecided, mt hupload.mp hdecided⟩

end

end CloudRegistry
