import BpfCompat.Go.Collections
import BpfCompat.Schema.Environment
import BpfCompat.Schema.Verdict

/-!
# Trustworthy evidence

The checks that decide whether a report can supply comparison keys at all.  A report is
refused when it has no targets, when a target cannot be identified or shares its
identifier with another, when a target contradicts itself, when the summary contradicts
the targets, or when a target does not say whether it is required.

The refusals are messages; what matters to the comparison is when there is none.  Each
check is followed by the property it decides, and `validate_eq_ok_iff` says which reports
pass all of them.  The property mentions the targets as a set, so a report stays valid
when its targets are reordered.
-/

namespace RegressionDiff

open Go Schema

/-- Why two reports could not be compared. -/
inductive CompareError where
  | invalidEvidence (side reason : Str)
  | unsupportedSchema (side got want : Str)
  | unreadable (reason : Str)
deriving DecidableEq

/-- One side's report, and the facts only its raw document can answer: which targets
carried `required`, and whether a command carried `expected_exit_code`. -/
structure Evidence where
  report : ReportV01 := {}
  path : Str := []
  side : Str := []
  requiredPresent : List Bool := []
  commandExitCodePresent : Bool := false
deriving DecidableEq

/-- The evidence of a report that was never a document, where nothing can be absent. -/
def evidenceFromReport (r : ReportV01) (path side : Str) : Evidence where
  report := r
  path := path
  side := side
  requiredPresent := r.targets.map fun _ => true
  commandExitCodePresent := r.command.isSome

section

variable [UnicodeTables]

/-- The text of an error. -/
def CompareError.text : CompareError → Str
  | .invalidEvidence side reason => side ++ str " report cannot be compared: " ++ reason
  | .unsupportedSchema side got want =>
    side ++ str " report schema_version " ++ quote got ++
      str " is not supported (this differ understands " ++ quote want ++
      str "); refusing to compare structures whose semantics are unknown"
  | .unreadable reason => reason

/-! ### One target -/

/-- The text that introduces a target in a message. -/
def describeTarget (i : Nat) (id : Str) : Str :=
  str "target " ++ itoa i ++ str " (" ++ id ++ str ")"

/-- Status and verdict are two recordings of one execution. -/
def checkStatus (t : Target) (i : Nat) (id side : Str) : Except CompareError Unit :=
  let status := trimSpace t.status
  let verdict := trimSpace t.verdict
  if status ≠ [] ∧ verdict ≠ [] ∧ verdictForStatus status ≠ verdict then
    .error (.invalidEvidence side (describeTarget i id ++ str " records status " ++ quote status ++
      str " and verdict " ++ quote verdict ++ str ", which contradict each other (status " ++
      quote status ++ str " means " ++ quote (verdictForStatus status) ++
      str "); this report does not agree with itself"))
  else .ok ()

/-- A recorded kernel match is recomputed from the recorded family and kernel. -/
def checkKernelFamilyMatch (env : EnvironmentCheck) (i : Nat) (id side : Str) :
    Except CompareError Unit :=
  match env.kernelFamilyMatch with
  | none => .ok ()
  | some recorded =>
    if trimSpace env.requestedKernelFamily = [] ∨ trimSpace env.observedKernel = [] then
      .error (.invalidEvidence side (describeTarget i id ++
        str " states kernel_family_match without recording both the requested kernel family and the observed kernel, so the claim rests on nothing"))
    else
      match kernelFamilyMatch env.requestedKernelFamily env.observedKernel with
      | none =>
        .error (.invalidEvidence side (describeTarget i id ++
          str " states kernel_family_match, but no kernel series can be read from requested family " ++
          quote env.requestedKernelFamily ++ str " and observed kernel " ++
          quote env.observedKernel ++ str ", so that answer cannot have been derived"))
      | some derived =>
        if derived ≠ recorded then
          .error (.invalidEvidence side (describeTarget i id ++
            str " records kernel_family_match " ++ formatBool recorded ++
            str ", but requested family " ++ quote env.requestedKernelFamily ++
            str " against observed kernel " ++ quote env.observedKernel ++ str " is " ++
            formatBool derived ++ str "; this report does not agree with itself"))
        else .ok ()

/-- A distribution match is recorded exactly when it can be derived, and as derived. -/
def checkDistroMatch (env : EnvironmentCheck) (i : Nat) (id side : Str) :
    Except CompareError Unit :=
  match env.distroMatch, distroMatch env.requestedDistro env.requestedDistroVersion
      env.observedOSID env.observedOSVersionID with
  | none, none => .ok ()
  | none, some _ =>
    .error (.invalidEvidence side (describeTarget i id ++
      str " records requested distribution " ++ quote env.requestedDistro ++
      str " and observed os-release ID " ++ quote env.observedOSID ++
      str " but no distro_match, which bpfcompat always derives from them"))
  | some _, none =>
    .error (.invalidEvidence side (describeTarget i id ++
      str " states distro_match, but no answer can be derived from requested distribution " ++
      quote env.requestedDistro ++ str " and observed os-release ID " ++ quote env.observedOSID))
  | some recorded, some derived =>
    if derived ≠ recorded then
      .error (.invalidEvidence side (describeTarget i id ++ str " records distro_match " ++
        formatBool recorded ++ str ", but requested " ++ quote env.requestedDistro ++ str " " ++
        quote env.requestedDistroVersion ++ str " against observed os-release " ++
        quote env.observedOSID ++ str " " ++ quote env.observedOSVersionID ++ str " is " ++
        formatBool derived ++ str "; this report does not agree with itself"))
    else .ok ()

/-- A target that contradicts itself is refused. -/
def validateTarget (t : Target) (i : Nat) (id side : Str) : Except CompareError Unit := do
  checkStatus t i id side
  match t.environment with
  | none => pure ()
  | some env =>
    checkKernelFamilyMatch env i id side
    checkDistroMatch env i id side

/-- Two recordings of one execution agree, or one of them is absent. -/
def Agree (status verdict : Str) : Prop :=
  trimSpace status = [] ∨ trimSpace verdict = [] ∨
    verdictForStatus (trimSpace status) = trimSpace verdict

/-- The recorded matches are those the recorded identities give. -/
structure EnvironmentConsistent (env : EnvironmentCheck) : Prop where
  kernel : ∀ m, env.kernelFamilyMatch = some m →
    kernelFamilyMatch env.requestedKernelFamily env.observedKernel = some m
  distro : env.distroMatch = distroMatch env.requestedDistro env.requestedDistroVersion
    env.observedOSID env.observedOSVersionID

/-- The target agrees with itself. -/
structure TargetConsistent (t : Target) : Prop where
  agree : Agree t.status t.verdict
  environment : ∀ env, t.environment = some env → EnvironmentConsistent env

omit [UnicodeTables] in
theorem checkStatus_condition {t : Target} :
  ¬ (trimSpace t.status ≠ [] ∧ trimSpace t.verdict ≠ [] ∧
      verdictForStatus (trimSpace t.status) ≠ trimSpace t.verdict) ↔ Agree t.status t.verdict
  := by
  rw [Agree]
  tauto

theorem checkStatus_eq_ok_iff {t : Target} {i : Nat} {id side : Str} :
  checkStatus t i id side = .ok () ↔ Agree t.status t.verdict
  := by
  rw [← checkStatus_condition, checkStatus]
  split_ifs with h
  · simp [h]
  · simp [h]

theorem checkKernelFamilyMatch_eq_ok_iff {env : EnvironmentCheck} {i : Nat} {id side : Str} :
  checkKernelFamilyMatch env i id side = .ok () ↔
    ∀ m, env.kernelFamilyMatch = some m →
      kernelFamilyMatch env.requestedKernelFamily env.observedKernel = some m
  := by
  rw [checkKernelFamilyMatch]
  cases hm : env.kernelFamilyMatch with
  | none => simp
  | some recorded =>
      simp only [Option.some.injEq, forall_eq']
      split_ifs with hblank
      · -- a blank side carries no series, so nothing can be derived
        have hnone : kernelFamilyMatch env.requestedKernelFamily env.observedKernel = none := by
          rw [kernelFamilyMatch]
          obtain h | h := hblank
          · rw [kernelSeries_blank h]
          · rw [kernelSeries_blank h]
            cases kernelSeries env.requestedKernelFamily <;> rfl
        simp [hnone]
      · cases kernelFamilyMatch env.requestedKernelFamily env.observedKernel with
        | none => simp
        | some derived =>
            by_cases h : derived = recorded
            · simp [h]
            · simp [h]

theorem checkDistroMatch_eq_ok_iff {env : EnvironmentCheck} {i : Nat} {id side : Str} :
  checkDistroMatch env i id side = .ok () ↔
    env.distroMatch = distroMatch env.requestedDistro env.requestedDistroVersion
      env.observedOSID env.observedOSVersionID
  := by
  rw [checkDistroMatch]
  cases env.distroMatch with
  | none =>
      cases distroMatch env.requestedDistro env.requestedDistroVersion env.observedOSID
        env.observedOSVersionID <;> simp
  | some recorded =>
      cases distroMatch env.requestedDistro env.requestedDistroVersion env.observedOSID
        env.observedOSVersionID with
      | none => simp
      | some derived =>
          by_cases h : derived = recorded
          · simp [h]
          · simp [h, Ne.symm h]

theorem validateTarget_eq_ok_iff {t : Target} {i : Nat} {id side : Str} :
  validateTarget t i id side = .ok () ↔ TargetConsistent t
  := by
  rw [validateTarget, check_bind_eq_ok_iff, checkStatus_eq_ok_iff]
  cases he : t.environment with
  | none =>
      constructor
      · rintro ⟨hagree, -⟩
        use hagree
        intro env henv
        rw [he] at henv
        cases henv
      · intro h
        use h.agree
        rfl
  | some env =>
      simp only
      rw [check_bind_eq_ok_iff, checkKernelFamilyMatch_eq_ok_iff, checkDistroMatch_eq_ok_iff]
      constructor
      · rintro ⟨hagree, hkernel, hdistro⟩
        use hagree
        intro env' henv
        rw [he] at henv
        cases henv
        use hkernel, hdistro
      · intro h
        obtain ⟨hkernel, hdistro⟩ := h.environment env he
        use h.agree, hkernel, hdistro

/-! ### All targets -/

/-- The key under which a target is compared. -/
def targetID (t : Target) : Str := trimSpace t.profileID

/-- The loop over the targets from index `i` on; `seen` holds the index of every key read
so far. -/
def validateTargets (side : Str) (i : Nat) (seen : Map Str Nat) :
    List Target → Except CompareError Unit
  | [] => .ok ()
  | t :: targets =>
    if targetID t = [] then
      .error (.invalidEvidence side (str "target " ++ itoa i ++
        str " has an empty profile_id, so the obligation it represents is unidentifiable"))
    else
      match seen.lookup (targetID t) with
      | some first =>
        .error (.invalidEvidence side (str "profile_id " ++ quote (targetID t) ++
          str " appears at targets " ++ itoa first ++ str " and " ++ itoa i ++
          str "; which result represents that obligation is ambiguous"))
      | none => do
        validateTarget t i (targetID t) side
        validateTargets side (i + 1) (seen.insert (targetID t) i) targets

/-- Every target can be identified, no two share a key, and each agrees with itself. -/
structure TargetsConsistent (targets : List Target) : Prop where
  identified : ∀ t ∈ targets, targetID t ≠ []
  distinct : (targets.map targetID).Nodup
  consistent : ∀ t ∈ targets, TargetConsistent t

theorem targetsConsistent_nil :
  TargetsConsistent []
  := by
  constructor <;> simp

theorem targetsConsistent_cons {t : Target} {targets : List Target} :
  TargetsConsistent (t :: targets) ↔
    targetID t ≠ [] ∧ targetID t ∉ targets.map targetID ∧ TargetConsistent t ∧
      TargetsConsistent targets
  := by
  constructor
  · rintro ⟨hid, hdistinct, hcons⟩
    rw [List.forall_mem_cons] at hid hcons
    rw [List.map_cons, List.nodup_cons] at hdistinct
    use hid.1, hdistinct.1, hcons.1
    use hid.2, hdistinct.2, hcons.2
  · rintro ⟨hid, hnew, hcons, h⟩
    constructor
    · rw [List.forall_mem_cons]
      use hid, h.identified
    · rw [List.map_cons, List.nodup_cons]
      use hnew, h.distinct
    · rw [List.forall_mem_cons]
      use hcons, h.consistent

theorem validateTargets_eq_ok_iff {side : Str} {i : Nat} {seen : Map Str Nat}
    {targets : List Target} :
  validateTargets side i seen targets = .ok () ↔
    TargetsConsistent targets ∧ ∀ id ∈ targets.map targetID, id ∉ seen
  := by
  induction targets generalizing i seen with
  | nil => simp [validateTargets, targetsConsistent_nil]
  | cons t targets ih =>
      rw [validateTargets, refuse_if_eq_ok_iff, targetsConsistent_cons, List.map_cons,
        List.forall_mem_cons]
      cases hseen : seen.lookup (targetID t) with
      | some first =>
          have hmem : targetID t ∈ seen := by
            rw [← AList.lookup_isSome, hseen]
            rfl
          simp [hmem]
      | none =>
          rw [AList.lookup_eq_none] at hseen
          simp only
          rw [check_bind_eq_ok_iff, validateTarget_eq_ok_iff, ih]
          -- a later key is new after this one exactly when it was new before and differs from it
          have hnew : (∀ id ∈ targets.map targetID, id ∉ seen.insert (targetID t) i) ↔
              targetID t ∉ targets.map targetID ∧ ∀ id ∈ targets.map targetID, id ∉ seen := by
            constructor
            · intro h
              constructor
              · intro hmem
                simpa using h _ hmem
              · intro id hid hs
                apply h id hid
                rw [AList.mem_insert]
                exact .inr hs
            · rintro ⟨ht, h⟩ id hid hins
              rw [AList.mem_insert] at hins
              obtain rfl | hs := hins
              · exact ht hid
              · exact h id hid hs
          rw [hnew]
          tauto

/-! ### The whole report -/

/-- A recorded coverage flag is recomputed from the targets. -/
def checkComplete (r : ReportV01) (side : Str) : Except CompareError Unit :=
  match r.summary.complete with
  | none => .ok ()
  | some complete =>
    if complete ≠ runComplete r.targets then
      .error (.invalidEvidence side (str "summary.complete is " ++ formatBool complete ++
        str " but its own targets add up to " ++ formatBool (runComplete r.targets) ++
        str "; this report does not agree with itself"))
    else .ok ()

/-- A summary that contradicts its own targets is refused. -/
def validateSummary (r : ReportV01) (side : Str) : Except CompareError Unit :=
  let status := trimSpace r.summary.status
  let verdict := trimSpace r.summary.verdict
  if status ≠ [] ∧ verdict ≠ [] ∧ verdictForStatus status ≠ verdict then
    .error (.invalidEvidence side (str "summary.status is " ++ quote status ++
      str " and summary.verdict is " ++ quote verdict ++
      str ", which contradict each other; this report does not agree with itself"))
  else if verdict ≠ [] ∧ verdict ≠ runVerdict r.targets then
    .error (.invalidEvidence side (str "summary.verdict is " ++ quote verdict ++
      str " but its own required targets add up to " ++ quote (runVerdict r.targets) ++
      str "; this report does not agree with itself"))
  else checkComplete r side

/-- The summary says nothing the targets do not add up to. -/
structure SummaryConsistent (summary : SummaryInfo) (targets : List Target) : Prop where
  agree : Agree summary.status summary.verdict
  verdict : trimSpace summary.verdict = [] ∨ trimSpace summary.verdict = runVerdict targets
  complete : ∀ complete, summary.complete = some complete → complete = runComplete targets

omit [UnicodeTables] in
theorem checkComplete_eq_ok_iff {r : ReportV01} {side : Str} :
  checkComplete r side = .ok () ↔
    ∀ complete, r.summary.complete = some complete → complete = runComplete r.targets
  := by
  rw [checkComplete]
  cases r.summary.complete with
  | none => simp
  | some complete =>
      simp only [Option.some.injEq, forall_eq']
      rw [refuse_if_eq_ok_iff]
      simp

theorem validateSummary_eq_ok_iff {r : ReportV01} {side : Str} :
  validateSummary r side = .ok () ↔ SummaryConsistent r.summary r.targets
  := by
  rw [validateSummary, refuse_if_eq_ok_iff, refuse_if_eq_ok_iff, checkComplete_eq_ok_iff]
  constructor
  · rintro ⟨hagree, hverdict, hcomp⟩
    constructor
    · rw [Agree]
      tauto
    · tauto
    · exact hcomp
  · rintro ⟨hagree, hverdict, hcomp⟩
    rw [Agree] at hagree
    refine ⟨?_, ?_, hcomp⟩
    · tauto
    · tauto

/-- Evidence whose comparison keys cannot be trusted is refused. -/
def validate (r : ReportV01) (side : Str) : Except CompareError Unit :=
  if r.targets = [] then
    .error (.invalidEvidence side
      (str "it contains no targets, so it establishes nothing to compare"))
  else do
    validateTargets side 0 ∅ r.targets
    validateSummary r side

/-- A report the comparison can rely on. -/
structure ReportValid (r : ReportV01) : Prop extends TargetsConsistent r.targets where
  nonempty : r.targets ≠ []
  summary : SummaryConsistent r.summary r.targets

/-- The reports that pass are the valid ones. -/
theorem validate_eq_ok_iff {r : ReportV01} {side : Str} :
  validate r side = .ok () ↔ ReportValid r
  := by
  rw [validate, refuse_if_eq_ok_iff, check_bind_eq_ok_iff, validateTargets_eq_ok_iff,
    validateSummary_eq_ok_iff]
  constructor
  · rintro ⟨hne, ⟨htargets, -⟩, hsummary⟩
    exact ⟨htargets, hne, hsummary⟩
  · rintro ⟨htargets, hne, hsummary⟩
    refine ⟨hne, ⟨htargets, ?_⟩, hsummary⟩
    intro id _
    exact AList.notMem_empty id

/-- A report stays valid when its targets are reordered. -/
theorem ReportValid.perm {r : ReportV01} {targets : List Target} (hr : ReportValid r)
    (h : r.targets.Perm targets) :
  ReportValid { r with targets := targets }
  := by
  constructor
  · constructor
    · intro t ht
      exact hr.identified t (h.mem_iff.mpr ht)
    · exact (h.map targetID).nodup_iff.mp hr.distinct
    · intro t ht
      exact hr.consistent t (h.mem_iff.mpr ht)
  · rintro (rfl : targets = [])
    exact hr.nonempty h.eq_nil
  · constructor
    · exact hr.summary.agree
    · rw [← runVerdict_perm h]
      exact hr.summary.verdict
    · rw [← runComplete_perm h]
      exact hr.summary.complete

/-! ### What only the raw document says -/

/-- The loop over the targets from index `i` on, with the flags that remain. -/
def validatePresenceFrom (side : Str) (i : Nat) :
    List Target → List Bool → Except CompareError Unit
  | [], _ => .ok ()
  | _ :: targets, true :: present => validatePresenceFrom side (i + 1) targets present
  | t :: _, _ =>
    .error (.invalidEvidence side (describeTarget i (trimSpace t.profileID) ++
      str " does not record `required`, so whether this obligation gates a release is unknown"))

/-- Evidence that does not state the requiredness of a target is refused. -/
def validatePresence (e : Evidence) : Except CompareError Unit :=
  validatePresenceFrom e.side 0 e.report.targets e.requiredPresent

/-- Every target carried `required`. -/
def StatesRequired (targets : List Target) (present : List Bool) : Prop :=
  ∀ i < targets.length, present[i]? = some true

omit [UnicodeTables] in
theorem validatePresenceFrom_eq_ok_iff {side : Str} {i : Nat} {targets : List Target}
    {present : List Bool} :
  validatePresenceFrom side i targets present = .ok () ↔ StatesRequired targets present
  := by
  induction targets generalizing i present with
  | nil => simp [validatePresenceFrom, StatesRequired]
  | cons t targets ih =>
      cases present with
      | nil =>
          simp only [validatePresenceFrom, StatesRequired, reduceCtorEq, false_iff, not_forall]
          use 0
          simp
      | cons p present =>
          cases p with
          | false =>
              simp only [validatePresenceFrom, StatesRequired, reduceCtorEq, false_iff, not_forall]
              use 0
              simp
          | true =>
              rw [validatePresenceFrom, ih, StatesRequired, StatesRequired]
              constructor
              · intro h j hj
                cases j with
                | zero => rfl
                | succ j => exact h j (Nat.lt_of_succ_lt_succ hj)
              · intro h j hj
                exact h (j + 1) (Nat.succ_lt_succ hj)

omit [UnicodeTables] in
theorem validatePresence_eq_ok_iff {e : Evidence} :
  validatePresence e = .ok () ↔ StatesRequired e.report.targets e.requiredPresent
  := validatePresenceFrom_eq_ok_iff

/-! ### Both reports -/

/-- The only report schema the comparison understands. -/
def supportedReportSchema : Str := str "v0.1"

/-- A report of another schema is refused. -/
def checkSchemas (baseline candidate : ReportV01) : Except CompareError Unit :=
  if trimSpace baseline.schemaVersion ≠ supportedReportSchema then
    .error (.unsupportedSchema (str "baseline") baseline.schemaVersion supportedReportSchema)
  else if trimSpace candidate.schemaVersion ≠ supportedReportSchema then
    .error (.unsupportedSchema (str "candidate") candidate.schemaVersion supportedReportSchema)
  else .ok ()

/-- A report compared against itself is refused. -/
def checkDistinctRuns (baseline candidate : Evidence) : Except CompareError Unit :=
  let id := trimSpace baseline.report.run.id
  if id ≠ [] ∧ id = trimSpace candidate.report.run.id then
    .error (.invalidEvidence (str "candidate")
      (str "it is the same run as the baseline (run id " ++ quote id ++
        str "); comparing a run with itself cannot establish anything about a candidate release"))
  else if baseline.path ≠ [] ∧ baseline.path = candidate.path then
    .error (.invalidEvidence (str "candidate")
      (str "it is the same file as the baseline (" ++ baseline.path ++
        str "); a release diff needs the evidence of two runs"))
  else .ok ()

/-- Everything about one side that must hold before it is compared. -/
structure Accepted (e : Evidence) : Prop extends ReportValid e.report where
  schema : trimSpace e.report.schemaVersion = supportedReportSchema
  required : StatesRequired e.report.targets e.requiredPresent

/-- The two sides are the evidence of two runs. -/
def DistinctRuns (baseline candidate : Evidence) : Prop :=
  (trimSpace baseline.report.run.id ≠ [] →
    trimSpace baseline.report.run.id ≠ trimSpace candidate.report.run.id) ∧
  (baseline.path ≠ [] → baseline.path ≠ candidate.path)

omit [UnicodeTables] in
theorem checkSchemas_eq_ok_iff {baseline candidate : ReportV01} :
  checkSchemas baseline candidate = .ok () ↔
    trimSpace baseline.schemaVersion = supportedReportSchema ∧
      trimSpace candidate.schemaVersion = supportedReportSchema
  := by
  rw [checkSchemas, refuse_if_eq_ok_iff, refuse_if_eq_ok_iff]
  simp

theorem checkDistinctRuns_eq_ok_iff {baseline candidate : Evidence} :
  checkDistinctRuns baseline candidate = .ok () ↔ DistinctRuns baseline candidate
  := by
  rw [checkDistinctRuns, refuse_if_eq_ok_iff, refuse_if_eq_ok_iff, DistinctRuns]
  simp

end

end RegressionDiff
