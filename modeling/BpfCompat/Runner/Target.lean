import BpfCompat.Matrix
import BpfCompat.Runner.Environment
import BpfCompat.Runner.Notes
import BpfCompat.Schema.Verdict

/-!
# One target

How one profile of a matrix becomes a target of the report: its profile is loaded, a
transport is chosen, an executor runs, and its outcome is turned into a status.  In command
mode the outcome is the exit code of the command; otherwise it is the document the validator
left behind.

The status is first written as the executor reports it and then overwritten at many places,
so that no status string of an executor ends up in the report.
-/

namespace Runner

open Go Schema Matrices

/-- The settings of a run. -/
structure Config where
  artifactPath : Str := []
  artifactURI : Str := []
  artifactName : Str := []
  artifactVersion : Str := []
  artifactVariant : Str := []
  validationMode : Str := []
  command : Str := []
  commandBinary : Str := []
  commandExpectExit : Int64 := 0
  matrixPath : Str := []
  quick : Bool := false
  manifestPath : Str := []
  outPath : Str := []
  markdownPath : Str := []
  workDir : Str := []
  runner : Str := []
  concurrency : Int64 := 0
  timeout : Int := 0
  unsafeAllowHostRunner : Bool := false
deriving DecidableEq

/-- What a run has staged for its targets. -/
structure Staged where
  runDir : Str := []
  artifact : Str := []
  manifest : Str := []
  functionalPlanPath : Str := []
  validatorBinPath : Str := []
  attachMode : Str := []
deriving DecidableEq

/-- The ways to execute a profile. -/
inductive Executor where
  | vm
  | virtmeNG
  | firecracker
deriving DecidableEq

/-- What the classifier is asked about a failure. -/
structure ClassifierInput where
  loadStatus : Str
  loadErrorCode : Int64
  loadError : Str
  attachStatus : Str
  attachMode : Str
  kernelBTFAvailable : Bool
  artifactHasBTF : Bool
  artifactHasBTFExt : Bool
  libbpfLog : Str
  kernelRelease : Str
  programSections : List Str
  tracingProbeStatus : Str
  tracingProbeError : Int64

/-- What the classifier answers. -/
structure ClassifierResult where
  code : Str
  confidence : Str
  reason : Str
  remediation : Str

/-- What a target depends on besides the settings of the run: where the file of a profile
is and what it holds, the environment variable that enables RHEL CoreOS, the executors, the
files they leave behind, and the classifier of failures. -/
structure World where
  profilePath : Str → Except Str Str
  loadProfile : Str → Except Str Vm.Profile
  rhcosSetting : Str := []
  abs : Str → Except Str Str
  execute : Executor → Vm.ExecutionRequest → Vm.ExecutionResult
  files : Str → Except Str Str
  explain : Str → Str
  classify : ClassifierInput → ClassifierResult

/-- A target, and whether it failed for want of infrastructure or broke a required
profile. -/
structure TargetOutcome where
  target : Target
  hasInfraError : Bool := false
  hasRequiredCompatFailed : Bool := false

/-! ### The profile and its transport -/

/-- The runner of a run. -/
def normalizedRunner (value : Str) : Str :=
  let value := trimSpace value
  if value = [] then str "vm" else value

/-- The run executes a command instead of the validator. -/
def commandMode (cfg : Config) : Bool := trimSpace cfg.command ≠ []

/-- A target whose profile the chosen transport cannot run. -/
def unsupportedTarget (target : Target) (reason : Str) (notes : List Str) : Target :=
  { target with
    status := str "unsupported"
    failedStage := str "transport"
    classificationCode := str "UNSUPPORTED_TRANSPORT"
    classificationConfidence := str "high"
    classificationReason := reason
    notes := target.notes ++ notes }

section

variable [UnicodeTables]

/-- The executor of a profile, or the target that says why there is none. -/
def selectExecutor (world : World) (cfg : Config) (profile : Vm.Profile) (target : Target) :
    Except Target Executor :=
  let runnerName := normalizedRunner cfg.runner
  if runnerName = str "virtme-ng" then
    if !equalFold (trimSpace profile.runner) (str "virtme-ng") then
      .error (unsupportedTarget target
        (str "Profile is a QEMU/cloud-image target; use --runner vm for this profile or select an upstream-kernel virtme-ng matrix.")
        [str "execution transport: virtme-ng"])
    else .ok .virtmeNG
  else if runnerName = str "firecracker" then
    if !equalFold (trimSpace profile.runner) (str "firecracker") then
      .error (unsupportedTarget target
        (str "Profile is a QEMU/cloud-image target; use --runner vm for this profile or select a Firecracker profile.")
        [str "execution transport: firecracker"])
    else .ok .firecracker
  else
    match Vm.executionTransport world.rhcosSetting profile with
    | .ssh => .ok .vm
    | .unsupported reason =>
      .error (unsupportedTarget target (trimSpace reason)
        ((str "execution transport: " ++ (Vm.Transport.unsupported reason).name) ::
          (if reason = [] then []
            else [str "remediation: route this profile to a supported executor path (or mark as optional until that executor is implemented)."])))

/-! ### What the executor left behind -/

omit [UnicodeTables] in
/-- A target about which nothing could be established. -/
def infraTarget (target : Target) (reason : Str) : Target :=
  { target with
    status := str "infra_error"
    failedStage := str "infra"
    infraError := reason }

omit [UnicodeTables] in
/-- The classification of a failure is written into the target. -/
def classifyFailure (world : World) (vr : ValidatorResult) (target : Target) : Target :=
  let cl := world.classify
    { loadStatus := vr.load.status
      loadErrorCode := vr.load.errorCode
      loadError := vr.load.error
      attachStatus := vr.attach.status
      attachMode := vr.attach.mode
      kernelBTFAvailable := vr.btf.kernelBTFAvailable
      artifactHasBTF := vr.btf.artifactHasBTF
      artifactHasBTFExt := vr.btf.artifactHasBTFExt
      libbpfLog := vr.logs.libbpf
      kernelRelease := vr.host.release
      programSections := discoveredProgramSections vr
      tracingProbeStatus := vr.capabilities.programTypes.tracing.status
      tracingProbeError := vr.capabilities.programTypes.tracing.errorCode }
  { target with
    classificationCode := cl.code
    classificationConfidence := cl.confidence
    classificationReason := cl.reason
    notes := target.notes ++
      [str "classification: " ++ cl.code ++ str " (" ++ cl.confidence ++ str ")"] ++
      (if cl.remediation = [] then [] else [str "remediation: " ++ cl.remediation]) }

/-- What a readable validator result adds to a target, whatever its status. -/
def recordResult (profile : Vm.Profile) (exec : Vm.ExecutionResult) (vr : ValidatorResult)
    (target : Target) : Target :=
  let environment :=
    environmentEvidence profile vr.host.release exec.guestOSID exec.guestOSVersionID
  { target with
    notes := target.notes ++ resultNotes vr ++ (environmentMismatchNote environment).toList ++
      functionalNotes vr
    btf := some
      { kernelBTFAvailable := vr.btf.kernelBTFAvailable
        artifactHasBTF := vr.btf.artifactHasBTF
        artifactHasBTFExt := vr.btf.artifactHasBTFExt }
    host := some
      { distro := profile.distro
        version := profile.version
        kernelFamily := profile.kernelFamily
        kernel := vr.host.release
        arch := vr.host.machine }
    environment
    validation := some
      { loadStatus := vr.load.status
        loadErrorCode := vr.load.errorCode
        loadError := vr.load.error
        attachMode := vr.attach.mode
        attachStatus := vr.attach.status
        attachAttempted := vr.attach.attempted
        attachPassed := vr.attach.passed
        attachFailed := vr.attach.failed }
    functional := functionalFromValidator vr }

/-- The status of a target whose validator result could be read. -/
def evaluateResult (world : World) (matrixProfile : MatrixProfile) (vr : ValidatorResult)
    (target : Target) : TargetOutcome :=
  if vr.load.status = str "pass" ∧ vr.status = str "pass" then
    { target :=
        { target with
          status := str "pass"
          failedStage := []
          notes := target.notes ++ if vr.attach.attempted > 0 then [attachNote vr] else [] } }
  else if vr.load.status = str "fail" then
    { target := classifyFailure world vr
        { target with
          status := str "fail"
          failedStage := str "load"
          notes := target.notes ++
            [str "validator load error: code=" ++ itoa vr.load.errorCode.toInt ++
              str " message=" ++ vr.load.error] ++
            if vr.attach.attempted > 0 ∨ vr.attach.status ≠ [] then [attachNote vr] else [] }
      hasRequiredCompatFailed := matrixProfile.requiredBool }
  else if vr.status = str "fail" then
    if vr.functional.status = str "fail" then
      { target :=
          { target with
            status := str "fail"
            failedStage := str "functional"
            classificationCode := str "FUNCTIONAL_TEST_FAILURE"
            classificationConfidence := str "high"
            classificationReason := functionalFailureReason vr
            notes := target.notes ++
              [str "classification: FUNCTIONAL_TEST_FAILURE (high)",
                str "remediation: inspect the functional test command output and ship or fix the project-specific integration test assets."] }
        hasRequiredCompatFailed := matrixProfile.requiredBool }
    else
      { target := classifyFailure world vr
          { target with
            status := str "fail"
            failedStage := if vr.attach.status = str "fail" then str "attach" else str "validation"
            notes := target.notes ++ [str "validator reported failure after load phase"] ++
              if vr.attach.attempted > 0 ∨ vr.attach.status ≠ [] then [attachNote vr] else [] }
        hasRequiredCompatFailed := matrixProfile.requiredBool }
  else
    { target := infraTarget target
        (str "unrecognized validator status load=" ++ quote vr.load.status ++ str " status=" ++
          quote vr.status)
      hasInfraError := true }

/-- The status of a target on which the validator ran. -/
def evaluateArtifactTarget (world : World) (matrixProfile : MatrixProfile)
    (profile : Vm.Profile) (exec : Vm.ExecutionResult) (target : Target) : TargetOutcome :=
  let target :=
    { target with
      status := exec.status
      startedAt := exec.startedAt
      finishedAt := exec.finishedAt
      durationMs := exec.durationMs
      vmRunDir := exec.vmRunDir
      qemuCommand := exec.qemuCommand
      serialLog := exec.serialLogPath
      validatorResult := exec.validatorResultPath
      validatorExit := exec.validatorExitCode
      infraError := exec.infraError
      notes := exec.notes }
  if exec.status = str "infra_error" then
    { target := { target with failedStage := str "infra" }, hasInfraError := true }
  else if exec.validatorResultPath = [] then
    { target := infraTarget target (str "validator result path is empty"), hasInfraError := true }
  else
    match readValidatorResult world.files world.explain exec.validatorResultPath with
    | .error err =>
      { target := infraTarget target (str "read validator result: " ++ err), hasInfraError := true }
    | .ok vr => evaluateResult world matrixProfile vr (recordResult profile exec vr target)

/-- The status of a target on which the command ran: it passes if the command exited as
expected, and nothing is established unless the kernel of the guest is known. -/
def evaluateCommandTarget (target : Target) (exec : Vm.ExecutionResult)
    (matrixProfile : MatrixProfile) (cfg : Config) (profile : Vm.Profile) : TargetOutcome :=
  let target :=
    { target with
      startedAt := exec.startedAt
      finishedAt := exec.finishedAt
      durationMs := exec.durationMs
      vmRunDir := exec.vmRunDir
      qemuCommand := exec.qemuCommand
      serialLog := exec.serialLogPath
      notes := target.notes ++ exec.notes }
  if exec.status = str "infra_error" then
    { target := infraTarget target exec.infraError, hasInfraError := true }
  else if trimSpace exec.hostRelease = [] then
    { target := infraTarget target
        (str "command mode: guest kernel release was not recorded; the command result cannot be attributed to a kernel")
      hasInfraError := true }
  else
    let environment :=
      environmentEvidence profile exec.hostRelease exec.guestOSID exec.guestOSVersionID
    let expected := cfg.commandExpectExit
    let pass := exec.commandExitCode = expected
    let status := if pass then str "pass" else str "fail"
    let target :=
      { target with
        host := some
          { distro := profile.distro
            version := profile.version
            kernelFamily := profile.kernelFamily
            kernel := exec.hostRelease
            arch := exec.hostMachine }
        environment
        notes := target.notes ++ (environmentMismatchNote environment).toList
        validatorExit := exec.commandExitCode
        validation := some { loadStatus := str "skipped" }
        functional := some
          { status
            tests :=
              [{ name := str "command"
                 required := true
                 status
                 command := cfg.command
                 expectedExitCode := expected
                 exitCode := exec.commandExitCode
                 stdoutTail := exec.commandStdoutTail
                 stderrTail := exec.commandStderrTail }] } }
    if pass then
      { target :=
          { target with
            status := str "pass"
            failedStage := []
            notes := target.notes ++
              [str "command validation passed (exit code " ++ itoa exec.commandExitCode.toInt ++
                str ")"] } }
    else
      { target :=
          { target with
            status := str "fail"
            failedStage := str "command"
            classificationCode := str "COMMAND_VALIDATION_FAILURE"
            classificationConfidence := str "high"
            classificationReason :=
              str "Command exited " ++ itoa exec.commandExitCode.toInt ++ str " (expected " ++
                itoa expected.toInt ++ str ") on this kernel."
            notes := target.notes ++
              [str "classification: COMMAND_VALIDATION_FAILURE (high)",
                str "remediation: inspect the command stdout/stderr tails; the artifact's loader/command failed on this kernel."] }
        hasRequiredCompatFailed := matrixProfile.requiredBool }

/-! ### The whole target -/

/-- What the executor of a profile is asked to do. -/
def executionRequest (world : World) (cfg : Config) (staged : Staged) (profile : Vm.Profile) :
    Vm.ExecutionRequest :=
  { profile
    runDir := staged.runDir
    artifactPath := staged.artifact
    manifestPath := staged.manifest
    functionalPlanPath := staged.functionalPlanPath
    validatorBinary := staged.validatorBinPath
    attachMode := staged.attachMode
    timeout := cfg.timeout
    command := cfg.command
    commandBinary :=
      if commandMode cfg ∧ trimSpace cfg.commandBinary ≠ [] then
        match world.abs cfg.commandBinary with
        | .ok abs => abs
        | .error _ => cfg.commandBinary
      else [] }

omit [UnicodeTables] in
/-- What a target says about the profile it stands for. -/
def profileBlock (profile : Vm.Profile) : TargetEnv where
  distro := profile.distro
  version := profile.version
  kernelFamily := profile.kernelFamily
  arch := profile.arch

omit [UnicodeTables] in
/-- The target of a profile before it is run. -/
def pendingTarget (matrixProfile : MatrixProfile) (profile : Vm.Profile) : Target where
  profileID := matrixProfile.id
  required := matrixProfile.requiredBool
  profile := some (profileBlock profile)

/-- One profile of the matrix is executed. -/
def executeTarget (world : World) (cfg : Config) (staged : Staged)
    (matrixProfile : MatrixProfile) : TargetOutcome :=
  let target : Target :=
    { profileID := matrixProfile.id
      required := matrixProfile.requiredBool }
  match world.profilePath matrixProfile.id with
  | .error err =>
    { target :=
        { target with
          status := str "infra_error"
          infraError := str "resolve profile path: " ++ err }
      hasInfraError := true }
  | .ok profilePath =>
    match world.loadProfile profilePath with
    | .error err =>
      { target := infraTarget target (str "load profile: " ++ err), hasInfraError := true }
    | .ok profile =>
      let target := pendingTarget matrixProfile profile
      match selectExecutor world cfg profile target with
      | .error target => { target }
      | .ok executor =>
        let exec := world.execute executor (executionRequest world cfg staged profile)
        if commandMode cfg then evaluateCommandTarget target exec matrixProfile cfg profile
        else evaluateArtifactTarget world matrixProfile profile exec target

/-- The target of one profile of the matrix, with the verdict of its status. -/
def runTarget (world : World) (cfg : Config) (staged : Staged) (matrixProfile : MatrixProfile) :
    Target :=
  let target := (executeTarget world cfg staged matrixProfile).target
  { target with verdict := verdictForStatus target.status }

end

end Runner
