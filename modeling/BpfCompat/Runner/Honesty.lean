import BpfCompat.Runner.Target

/-!
# Verdicts are honest

What the outcome of an executor establishes, as a statement about the outcome and the
document that was left behind, and that the runner's verdict about a target is exactly that
(`runTarget_honest`).  At the end stands what every target records about the profile it
stands for, whatever its status.
-/

namespace Runner

open Go Schema Matrices

section

variable [UnicodeTables]

/-! ### What was established -/

/-- The executor that runs a profile, if the transport of the run can run it at all. -/
def executorFor (world : World) (cfg : Config) (profile : Vm.Profile) : Option Executor :=
  if normalizedRunner cfg.runner = str "virtme-ng" then
    if equalFold (trimSpace profile.runner) (str "virtme-ng") then some .virtmeNG else none
  else if normalizedRunner cfg.runner = str "firecracker" then
    if equalFold (trimSpace profile.runner) (str "firecracker") then some .firecracker else none
  else if Vm.executionTransport world.rhcosSetting profile = .ssh then some .vm
  else none

omit [UnicodeTables] in
/-- A profile of the matrix was loaded. -/
def Loaded (world : World) (matrixProfile : MatrixProfile) (profile : Vm.Profile) : Prop :=
  ∃ path, world.profilePath matrixProfile.id = .ok path ∧ world.loadProfile path = .ok profile

/-- A profile of the matrix was loaded and run, with the given outcome. -/
def Executed (world : World) (cfg : Config) (staged : Staged) (matrixProfile : MatrixProfile)
    (exec : Vm.ExecutionResult) : Prop :=
  ∃ profile executor, Loaded world matrixProfile profile ∧
    executorFor world cfg profile = some executor ∧
    exec = world.execute executor (executionRequest world cfg staged profile)

/-- The validator left a document behind, and it can be read. -/
def Reads (world : World) (exec : Vm.ExecutionResult) (vr : ValidatorResult) : Prop :=
  exec.validatorResultPath ≠ [] ∧
    readValidatorResult world.files world.explain exec.validatorResultPath = .ok vr

/-- The kernel of the guest is known and the command did not exit as expected; without a
command, a document that could be read reports a failure. -/
def Fails (world : World) (cfg : Config) (exec : Vm.ExecutionResult) : Prop :=
  if commandMode cfg then
    trimSpace exec.hostRelease ≠ [] ∧ exec.commandExitCode ≠ cfg.commandExpectExit
  else
    ∃ vr, Reads world exec vr ∧ (vr.load.status = str "fail" ∨ vr.status = str "fail")

/-- The kernel of the guest is known and the command exited as expected; without a command,
a document that could be read reports success, for the load phase and overall. -/
def Passes (world : World) (cfg : Config) (exec : Vm.ExecutionResult) : Prop :=
  if commandMode cfg then
    trimSpace exec.hostRelease ≠ [] ∧ exec.commandExitCode = cfg.commandExpectExit
  else
    ∃ vr, Reads world exec vr ∧ vr.load.status = str "pass" ∧ vr.status = str "pass"

/-- The executor failed, the kernel of the guest is not known, or the document of the
validator is missing, cannot be read, or reports nothing that is recognised. -/
def Unestablished (world : World) (cfg : Config) (exec : Vm.ExecutionResult) : Prop :=
  exec.status = str "infra_error" ∨
    if commandMode cfg then trimSpace exec.hostRelease = []
    else
      exec.validatorResultPath = [] ∨
      (∃ err, readValidatorResult world.files world.explain exec.validatorResultPath
        = .error err) ∨
      ∃ vr, Reads world exec vr ∧
        ¬ (vr.load.status = str "pass" ∧ vr.status = str "pass") ∧
        vr.load.status ≠ str "fail" ∧ vr.status ≠ str "fail"

theorem selectExecutor_eq_ok_iff {world : World} {cfg : Config} {profile : Vm.Profile}
    {target : Target} {executor : Executor} :
  selectExecutor world cfg profile target = .ok executor ↔
    executorFor world cfg profile = some executor
  := by
  rw [selectExecutor, executorFor]
  by_cases hvirtme : normalizedRunner cfg.runner = str "virtme-ng"
  · cases equalFold (trimSpace profile.runner) (str "virtme-ng") <;> simp [hvirtme]
  · by_cases hfire : normalizedRunner cfg.runner = str "firecracker"
    · have hne : str "firecracker" ≠ str "virtme-ng" := by decide
      cases equalFold (trimSpace profile.runner) (str "firecracker") <;> simp [hfire, hne]
    · cases Vm.executionTransport world.rhcosSetting profile <;> simp [hvirtme, hfire]

/-- A transport that cannot run a profile says so, and nothing else. -/
theorem selectExecutor_eq_error {world : World} {cfg : Config} {profile : Vm.Profile}
    {target target' : Target} (h : selectExecutor world cfg profile target = .error target') :
  executorFor world cfg profile = none ∧
    ∃ reason notes, target' = unsupportedTarget target reason notes
  := by
  constructor
  · rw [Option.eq_none_iff_forall_ne_some]
    intro executor he
    rw [← selectExecutor_eq_ok_iff, h] at he
    cases he
  · simp only [selectExecutor] at h
    split_ifs at h
    · exact ⟨_, _, (Except.error.inj h).symm⟩
    · exact ⟨_, _, (Except.error.inj h).symm⟩
    · split at h
      · cases h
      · exact ⟨_, _, (Except.error.inj h).symm⟩

/-- The status that the outcome of an executor establishes. -/
def establishedStatus (world : World) (cfg : Config) (exec : Vm.ExecutionResult) : Str :=
  if exec.status = str "infra_error" then str "infra_error"
  else if commandMode cfg then
    if trimSpace exec.hostRelease = [] then str "infra_error"
    else if exec.commandExitCode = cfg.commandExpectExit then str "pass"
    else str "fail"
  else if exec.validatorResultPath = [] then str "infra_error"
  else
    match readValidatorResult world.files world.explain exec.validatorResultPath with
    | .error _ => str "infra_error"
    | .ok vr =>
      if vr.load.status = str "pass" ∧ vr.status = str "pass" then str "pass"
      else if vr.load.status = str "fail" ∨ vr.status = str "fail" then str "fail"
      else str "infra_error"

theorem status_evaluateResult (world : World) (matrixProfile : MatrixProfile)
    (vr : ValidatorResult) (target : Target) :
  (evaluateResult world matrixProfile vr target).target.status
    = if vr.load.status = str "pass" ∧ vr.status = str "pass" then str "pass"
      else if vr.load.status = str "fail" ∨ vr.status = str "fail" then str "fail"
      else str "infra_error"
  := by
  rw [evaluateResult]
  by_cases hpass : vr.load.status = str "pass" ∧ vr.status = str "pass"
  · rw [if_pos hpass, if_pos hpass]
  · rw [if_neg hpass, if_neg hpass]
    by_cases hload : vr.load.status = str "fail"
    · have hfailed : vr.load.status = str "fail" ∨ vr.status = str "fail" := .inl hload
      rw [if_pos hload, if_pos hfailed]
      rfl
    · by_cases hfail : vr.status = str "fail"
      · have hfailed : vr.load.status = str "fail" ∨ vr.status = str "fail" := .inr hfail
        rw [if_neg hload, if_pos hfail, if_pos hfailed]
        split_ifs <;> rfl
      · rw [if_neg hload, if_neg hfail, if_neg (not_or.mpr ⟨hload, hfail⟩)]
        rfl

theorem status_evaluateCommandTarget {cfg : Config} (hmode : commandMode cfg) (world : World)
    (target : Target) (exec : Vm.ExecutionResult) (matrixProfile : MatrixProfile)
    (profile : Vm.Profile) :
  (evaluateCommandTarget target exec matrixProfile cfg profile).target.status
    = establishedStatus world cfg exec
  := by
  rw [evaluateCommandTarget, establishedStatus]
  simp only [hmode, if_true]
  split_ifs <;> rfl

theorem status_evaluateArtifactTarget {cfg : Config} (hmode : ¬ commandMode cfg) (world : World)
    (matrixProfile : MatrixProfile) (profile : Vm.Profile) (exec : Vm.ExecutionResult)
    (target : Target) :
  (evaluateArtifactTarget world matrixProfile profile exec target).target.status
    = establishedStatus world cfg exec
  := by
  rw [evaluateArtifactTarget, establishedStatus]
  simp only [hmode]
  by_cases hinfra : exec.status = str "infra_error"
  · simp [hinfra]
  · by_cases hpath : exec.validatorResultPath = []
    · simp [hinfra, hpath, infraTarget]
    · simp only [hinfra, hpath, if_false]
      cases readValidatorResult world.files world.explain exec.validatorResultPath with
      | error err => rfl
      | ok vr => apply status_evaluateResult

/-- A profile that cannot be loaded is not run. -/
theorem executeTarget_of_not_loaded {world : World} {matrixProfile : MatrixProfile}
    (h : ∀ profile, ¬ Loaded world matrixProfile profile) (cfg : Config) (staged : Staged) :
  ∃ stage reason, (executeTarget world cfg staged matrixProfile).target =
    { profileID := matrixProfile.id
      required := matrixProfile.requiredBool
      status := str "infra_error"
      failedStage := stage
      infraError := reason }
  := by
  rw [executeTarget]
  cases hpath : world.profilePath matrixProfile.id with
  | error err => exact ⟨_, _, rfl⟩
  | ok path =>
      cases hload : world.loadProfile path with
      | error err =>
          simp only [hload]
          exact ⟨_, _, rfl⟩
      | ok profile => exact absurd ⟨path, hpath, hload⟩ (h profile)

/-- A profile that the transport of the run cannot run is not run. -/
theorem executeTarget_of_unsupported {world : World} {cfg : Config}
    {matrixProfile : MatrixProfile} {profile : Vm.Profile}
    (hload : Loaded world matrixProfile profile) (h : executorFor world cfg profile = none)
    (staged : Staged) :
  ∃ reason notes, (executeTarget world cfg staged matrixProfile).target
    = unsupportedTarget (pendingTarget matrixProfile profile) reason notes
  := by
  obtain ⟨path, hpath, hload⟩ := hload
  simp only [executeTarget, hpath, hload]
  cases hsel : selectExecutor world cfg profile (pendingTarget matrixProfile profile) with
  | error target => exact (selectExecutor_eq_error hsel).2
  | ok executor =>
      rw [selectExecutor_eq_ok_iff, h] at hsel
      cases hsel

/-- Any other profile is run, and its outcome evaluated. -/
theorem executeTarget_of_executed {world : World} {cfg : Config} {matrixProfile : MatrixProfile}
    {profile : Vm.Profile} {executor : Executor} (hload : Loaded world matrixProfile profile)
    (h : executorFor world cfg profile = some executor) (staged : Staged) :
  executeTarget world cfg staged matrixProfile =
    let target := pendingTarget matrixProfile profile
    let exec := world.execute executor (executionRequest world cfg staged profile)
    if commandMode cfg then evaluateCommandTarget target exec matrixProfile cfg profile
    else evaluateArtifactTarget world matrixProfile profile exec target
  := by
  have hsel : selectExecutor world cfg profile (pendingTarget matrixProfile profile)
      = .ok executor := selectExecutor_eq_ok_iff.mpr h
  obtain ⟨path, hpath, hload⟩ := hload
  simp only [executeTarget, hpath, hload, hsel]

/-! ### What each verdict is evidence of -/

section

variable {world : World} {cfg : Config} {staged : Staged} {matrixProfile : MatrixProfile}

omit [UnicodeTables] in
theorem Loaded.unique {profile profile' : Vm.Profile} (h : Loaded world matrixProfile profile)
    (h' : Loaded world matrixProfile profile') :
  profile = profile'
  := by
  obtain ⟨path, hpath, hload⟩ := h
  obtain ⟨path', hpath', hload'⟩ := h'
  rw [hpath] at hpath'
  cases hpath'
  rw [hload] at hload'
  cases hload'
  rfl

theorem Executed.unique {exec exec' : Vm.ExecutionResult}
    (h : Executed world cfg staged matrixProfile exec)
    (h' : Executed world cfg staged matrixProfile exec') :
  exec = exec'
  := by
  obtain ⟨profile, executor, hload, hexec, rfl⟩ := h
  obtain ⟨profile', executor', hload', hexec', rfl⟩ := h'
  obtain rfl := hload.unique hload'
  rw [hexec] at hexec'
  cases hexec'
  rfl

theorem status_of_executed {exec : Vm.ExecutionResult}
    (h : Executed world cfg staged matrixProfile exec) :
  (executeTarget world cfg staged matrixProfile).target.status = establishedStatus world cfg exec
  := by
  obtain ⟨profile, executor, hload, hexec, rfl⟩ := h
  rw [executeTarget_of_executed hload hexec]
  simp only
  split_ifs with hmode
  · apply status_evaluateCommandTarget hmode
  · apply status_evaluateArtifactTarget hmode

theorem establishedStatus_of_fails {exec : Vm.ExecutionResult}
    (hinfra : exec.status ≠ str "infra_error") (h : Fails world cfg exec) :
  establishedStatus world cfg exec = str "fail"
  := by
  by_cases hmode : commandMode cfg
  · simp only [Fails, hmode, if_true] at h
    simp only [establishedStatus, hinfra, hmode, h.1, h.2, if_true, if_false]
  · simp only [Fails, hmode, Bool.false_eq_true, if_false] at h
    obtain ⟨vr, ⟨hpath, hread⟩, hfail⟩ := h
    have hpass : ¬ (vr.load.status = str "pass" ∧ vr.status = str "pass") := by
      rintro ⟨hload, hstatus⟩
      rw [hload, hstatus] at hfail
      revert hfail
      decide
    simp only [establishedStatus, hinfra, hmode, hpath, hread, hpass, hfail, Bool.false_eq_true,
      if_true, if_false]

theorem establishedStatus_of_passes {exec : Vm.ExecutionResult}
    (hinfra : exec.status ≠ str "infra_error") (h : Passes world cfg exec) :
  establishedStatus world cfg exec = str "pass"
  := by
  by_cases hmode : commandMode cfg
  · simp only [Passes, hmode, if_true] at h
    simp only [establishedStatus, hinfra, hmode, h.1, h.2, if_true, if_false]
  · simp only [Passes, hmode, Bool.false_eq_true, if_false] at h
    obtain ⟨vr, ⟨hpath, hread⟩, hpass⟩ := h
    simp only [establishedStatus, hinfra, hmode, hpath, hread, if_pos hpass, Bool.false_eq_true,
      if_false]

theorem establishedStatus_of_unestablished {exec : Vm.ExecutionResult}
    (h : Unestablished world cfg exec) :
  establishedStatus world cfg exec = str "infra_error"
  := by
  by_cases hinfra : exec.status = str "infra_error"
  · rw [establishedStatus, if_pos hinfra]
  · replace h := h.resolve_left hinfra
    rw [establishedStatus, if_neg hinfra]
    by_cases hmode : commandMode cfg
    · simp only [hmode, if_true] at h ⊢
      rw [if_pos h]
    · simp only [hmode, Bool.false_eq_true, if_false] at h ⊢
      by_cases hpath : exec.validatorResultPath = []
      · simp only [hpath, if_true]
      · obtain ⟨err, herr⟩ | ⟨vr, ⟨-, hread⟩, hpass, hload, hstatus⟩ := h.resolve_left hpath
        · simp only [hpath, herr, if_false]
        · simp only [hpath, hread, hpass, hload, hstatus, if_false, or_false]

/-- What the outcome of an executor establishes is one of three things. -/
theorem unestablished_or (world : World) (cfg : Config) (exec : Vm.ExecutionResult) :
  Unestablished world cfg exec ∨
    exec.status ≠ str "infra_error" ∧ (Fails world cfg exec ∨ Passes world cfg exec)
  := by
  by_cases hinfra : exec.status = str "infra_error"
  · exact .inl (.inl hinfra)
  · rw [Unestablished, Fails, Passes]
    by_cases hmode : commandMode cfg
    · simp only [hmode, if_true]
      tauto
    · simp only [hmode, Bool.false_eq_true, if_false]
      by_cases hpath : exec.validatorResultPath = []
      · exact .inl (.inr (.inl hpath))
      · cases hread : readValidatorResult world.files world.explain exec.validatorResultPath with
        | error err => exact .inl (.inr (.inr (.inl ⟨err, rfl⟩)))
        | ok vr =>
            have hreads : Reads world exec vr := ⟨hpath, hread⟩
            by_cases hpass : vr.load.status = str "pass" ∧ vr.status = str "pass"
            · exact .inr ⟨hinfra, .inr ⟨vr, hreads, hpass⟩⟩
            · by_cases hfail : vr.load.status = str "fail" ∨ vr.status = str "fail"
              · exact .inr ⟨hinfra, .inl ⟨vr, hreads, hfail⟩⟩
              · obtain ⟨hload, hstatus⟩ := not_or.mp hfail
                exact .inl (.inr (.inr (.inr ⟨vr, hreads, hpass, hload, hstatus⟩)))

/-- What a verdict about a profile of the matrix stands for. -/
structure Honest (world : World) (cfg : Config) (staged : Staged) (matrixProfile : MatrixProfile)
    (verdict : Str) : Prop where
  incompatible_iff : verdict = verdictIncompatible ↔
    ∃ exec, Executed world cfg staged matrixProfile exec ∧
      exec.status ≠ str "infra_error" ∧ Fails world cfg exec
  compatible_iff : verdict = verdictCompatible ↔
    ∃ exec, Executed world cfg staged matrixProfile exec ∧
      exec.status ≠ str "infra_error" ∧ Passes world cfg exec
  infraError_iff : verdict = verdictInfraError ↔
    (∀ profile, ¬ Loaded world matrixProfile profile) ∨
      ∃ exec, Executed world cfg staged matrixProfile exec ∧ Unestablished world cfg exec
  unsupported_iff : verdict = verdictUnsupported ↔
    ∃ profile, Loaded world matrixProfile profile ∧ executorFor world cfg profile = none

/-- The profile cannot be loaded, or not be run, or it is run. -/
theorem situations (world : World) (cfg : Config) (staged : Staged)
    (matrixProfile : MatrixProfile) :
  (∀ profile, ¬ Loaded world matrixProfile profile) ∨
  (∃ profile, Loaded world matrixProfile profile ∧ executorFor world cfg profile = none) ∨
  ∃ exec, Executed world cfg staged matrixProfile exec
  := by
  by_cases hload : ∃ profile, Loaded world matrixProfile profile
  · right
    obtain ⟨profile, hload⟩ := hload
    cases hexec : executorFor world cfg profile with
    | none =>
        left
        use profile
    | some executor =>
        right
        exact ⟨_, profile, executor, hload, hexec, rfl⟩
  · left
    exact not_exists.mp hload

theorem honest_of_not_loaded (h : ∀ profile, ¬ Loaded world matrixProfile profile) :
  Honest world cfg staged matrixProfile verdictInfraError
  := by
  have hnot : ∀ exec, ¬ Executed world cfg staged matrixProfile exec := by
    rintro exec ⟨profile, executor, hload, -, -⟩
    exact h profile hload
  have hi : verdictInfraError ≠ verdictIncompatible := by decide
  have hc : verdictInfraError ≠ verdictCompatible := by decide
  have hu : verdictInfraError ≠ verdictUnsupported := by decide
  constructor <;> simp [h, hnot, hi, hc, hu]

theorem honest_of_unsupported {profile : Vm.Profile} (hload : Loaded world matrixProfile profile)
    (h : executorFor world cfg profile = none) :
  Honest world cfg staged matrixProfile verdictUnsupported
  := by
  have hnot : ∀ exec, ¬ Executed world cfg staged matrixProfile exec := by
    rintro exec ⟨profile', executor, hload', hexec, -⟩
    rw [← hload.unique hload', h] at hexec
    cases hexec
  have hi : verdictUnsupported ≠ verdictIncompatible := by decide
  have hc : verdictUnsupported ≠ verdictCompatible := by decide
  have he : verdictUnsupported ≠ verdictInfraError := by decide
  constructor
  · simp [hnot, hi]
  · simp [hnot, hc]
  · simp only [he, hnot, false_and, exists_false, or_false, false_iff, not_forall, not_not]
    use profile
  · simp only [true_iff]
    use profile

omit [UnicodeTables] in
/-- Where one of three situations holds and each has a verdict of its own, the verdict tells
which one it is. -/
theorem verdict_eq_iff {v a b c : Str} {A B C : Prop} (hab : a ≠ b) (hac : a ≠ c)
    (hA : A → v = a) (hB : B → v = b) (hC : C → v = c) (h : A ∨ B ∨ C) :
  v = a ↔ A
  := by
  constructor
  · rintro rfl
    obtain h | h | h := h
    · exact h
    · exact absurd (hB h) hab
    · exact absurd (hC h) hac
  · exact hA

/-- Of the three things an outcome can establish, each has a verdict of its own. -/
theorem honest_of_executed {exec : Vm.ExecutionResult}
    (h : Executed world cfg staged matrixProfile exec) :
  Honest world cfg staged matrixProfile (verdictForStatus (establishedStatus world cfg exec))
  := by
  have hexists : ∀ P : Vm.ExecutionResult → Prop,
      (∃ exec', Executed world cfg staged matrixProfile exec' ∧ P exec') ↔ P exec := by
    intro P
    constructor
    · rintro ⟨exec', h', hP⟩
      rwa [h.unique h']
    · intro hP
      use exec
  have hfails : exec.status ≠ str "infra_error" ∧ Fails world cfg exec →
      verdictForStatus (establishedStatus world cfg exec) = verdictIncompatible := by
    rintro ⟨hinfra, hfails⟩
    rw [establishedStatus_of_fails hinfra hfails]
    decide
  have hpasses : exec.status ≠ str "infra_error" ∧ Passes world cfg exec →
      verdictForStatus (establishedStatus world cfg exec) = verdictCompatible := by
    rintro ⟨hinfra, hpasses⟩
    rw [establishedStatus_of_passes hinfra hpasses]
    decide
  have hnothing : Unestablished world cfg exec →
      verdictForStatus (establishedStatus world cfg exec) = verdictInfraError := by
    intro hnothing
    rw [establishedStatus_of_unestablished hnothing]
    decide
  obtain ⟨profile, executor, hload, hexec, -⟩ := h
  have hloaded : ¬ ∀ profile, ¬ Loaded world matrixProfile profile := fun hn => hn profile hload
  have hsupported : ¬ ∃ profile, Loaded world matrixProfile profile ∧
      executorFor world cfg profile = none := by
    rintro ⟨profile', hload', hnone⟩
    rw [← hload.unique hload', hexec] at hnone
    cases hnone
  have hcases := unestablished_or world cfg exec
  rw [and_or_left] at hcases
  have hrotated := or_assoc.mp hcases.symm
  constructor
  · rw [hexists]
    exact verdict_eq_iff (by decide) (by decide) hfails hpasses hnothing hrotated
  · rw [hexists]
    exact verdict_eq_iff (by decide) (by decide) hpasses hfails hnothing
      (or_left_comm.mp hrotated)
  · rw [hexists, or_iff_right hloaded]
    exact verdict_eq_iff (by decide) (by decide) hnothing hfails hpasses hcases
  · rw [iff_false_intro hsupported, iff_false]
    obtain h | h | h := hcases
    · rw [hnothing h]
      decide
    · rw [hfails h]
      decide
    · rw [hpasses h]
      decide

/-- A target is declared incompatible or compatible exactly where the run of its profile says
so; whatever leaves that open is an infrastructure error, and a profile that the transport
cannot run is unsupported. -/
theorem runTarget_honest (world : World) (cfg : Config) (staged : Staged)
    (matrixProfile : MatrixProfile) :
  Honest world cfg staged matrixProfile (runTarget world cfg staged matrixProfile).verdict
  := by
  have hverdict : (runTarget world cfg staged matrixProfile).verdict
      = verdictForStatus (executeTarget world cfg staged matrixProfile).target.status := rfl
  rw [hverdict]
  obtain hload | ⟨profile, hload, hnone⟩ | ⟨exec, hexec⟩ :=
    situations world cfg staged matrixProfile
  · obtain ⟨stage, reason, ht⟩ := executeTarget_of_not_loaded hload cfg staged
    rw [ht]
    exact honest_of_not_loaded hload
  · obtain ⟨reason, notes, ht⟩ := executeTarget_of_unsupported hload hnone staged
    rw [ht]
    exact honest_of_unsupported hload hnone
  · rw [status_of_executed hexec]
    exact honest_of_executed hexec

end

/-! ### What a target records -/

/-- The target stands for its profile of the matrix, and what it records about the
environment that ran is about the profile it names. -/
structure Records (matrixProfile : MatrixProfile) (t : Target) : Prop where
  profileID : t.profileID = matrixProfile.id
  required : t.required = matrixProfile.requiredBool
  environment : ∀ env, t.environment = some env →
    ∃ profile observedKernel osID osVersionID, t.profile = some (profileBlock profile) ∧
      RecordedFrom profile observedKernel osID osVersionID env

theorem evaluateResult_records {world : World} {matrixProfile : MatrixProfile}
    {vr : ValidatorResult} {target : Target} (h : Records matrixProfile target) :
  Records matrixProfile (evaluateResult world matrixProfile vr target).target
  := by
  rw [evaluateResult]
  split_ifs <;> exact ⟨h.profileID, h.required, h.environment⟩

theorem evaluateArtifactTarget_records (world : World) (matrixProfile : MatrixProfile)
    (profile : Vm.Profile) (exec : Vm.ExecutionResult) :
  Records matrixProfile (evaluateArtifactTarget world matrixProfile profile exec
    (pendingTarget matrixProfile profile)).target
  := by
  rw [evaluateArtifactTarget]
  split_ifs
  · exact ⟨rfl, rfl, nofun⟩
  · exact ⟨rfl, rfl, nofun⟩
  · split
    · exact ⟨rfl, rfl, nofun⟩
    · apply evaluateResult_records
      refine ⟨rfl, rfl, ?_⟩
      intro env henv
      exact ⟨profile, _, _, _, rfl, environmentEvidence_eq_some henv⟩

theorem evaluateCommandTarget_records (matrixProfile : MatrixProfile) (profile : Vm.Profile)
    (exec : Vm.ExecutionResult) (cfg : Config) :
  Records matrixProfile (evaluateCommandTarget (pendingTarget matrixProfile profile) exec
    matrixProfile cfg profile).target
  := by
  have henvironment : ∀ env, environmentEvidence profile exec.hostRelease exec.guestOSID
      exec.guestOSVersionID = some env → ∃ profile' observedKernel osID osVersionID,
      some (profileBlock profile) = some (profileBlock profile') ∧
        RecordedFrom profile' observedKernel osID osVersionID env := by
    intro env henv
    exact ⟨profile, _, _, _, rfl, environmentEvidence_eq_some henv⟩
  simp only [evaluateCommandTarget]
  split_ifs
  · exact ⟨rfl, rfl, nofun⟩
  · exact ⟨rfl, rfl, nofun⟩
  · exact ⟨rfl, rfl, henvironment⟩
  · exact ⟨rfl, rfl, henvironment⟩

theorem runTarget_records (world : World) (cfg : Config) (staged : Staged)
    (matrixProfile : MatrixProfile) :
  Records matrixProfile (runTarget world cfg staged matrixProfile)
  := by
  have h : Records matrixProfile (executeTarget world cfg staged matrixProfile).target := by
    obtain hload | ⟨profile, hload, hnone⟩ | ⟨_, profile, executor, hload, hexec, rfl⟩ :=
      situations world cfg staged matrixProfile
    · obtain ⟨stage, reason, ht⟩ := executeTarget_of_not_loaded hload cfg staged
      rw [ht]
      exact ⟨rfl, rfl, nofun⟩
    · obtain ⟨reason, notes, ht⟩ := executeTarget_of_unsupported hload hnone staged
      rw [ht]
      exact ⟨rfl, rfl, nofun⟩
    · rw [executeTarget_of_executed hload hexec]
      simp only
      split_ifs
      · apply evaluateCommandTarget_records
      · apply evaluateArtifactTarget_records
  exact ⟨h.profileID, h.required, h.environment⟩

/-- The statuses a target can end up with. -/
def finalStatuses : List Str := [str "pass", str "fail", str "infra_error", str "unsupported"]

theorem status_runTarget (world : World) (cfg : Config) (staged : Staged)
    (matrixProfile : MatrixProfile) :
  (runTarget world cfg staged matrixProfile).status ∈ finalStatuses
  := by
  have h : (runTarget world cfg staged matrixProfile).status
      = (executeTarget world cfg staged matrixProfile).target.status := rfl
  rw [h]
  obtain hload | ⟨profile, hload, hnone⟩ | ⟨exec, hexec⟩ :=
    situations world cfg staged matrixProfile
  · obtain ⟨stage, reason, ht⟩ := executeTarget_of_not_loaded hload cfg staged
    rw [ht]
    simp [finalStatuses]
  · obtain ⟨reason, notes, ht⟩ := executeTarget_of_unsupported hload hnone staged
    rw [ht]
    simp [finalStatuses, unsupportedTarget]
  · rw [status_of_executed hexec]
    obtain h | ⟨hinfra, h | h⟩ := unestablished_or world cfg exec
    · simp [finalStatuses, establishedStatus_of_unestablished h]
    · simp [finalStatuses, establishedStatus_of_fails hinfra h]
    · simp [finalStatuses, establishedStatus_of_passes hinfra h]

end

end Runner
