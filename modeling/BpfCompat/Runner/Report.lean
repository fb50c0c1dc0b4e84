import BpfCompat.Go.Collections
import BpfCompat.Go.Path
import BpfCompat.Runner.Honesty

/-!
# The report of a run

The profiles of a matrix are executed at the same time, and their results arrive in any
order; each is stored at the place of its profile.  The run is rolled up from the targets,
and the report is assembled.
-/

namespace Runner

open Go Schema Matrices

/-! ### Executing the targets -/

section

variable [UnicodeTables]

/-- What is said about the targets as a whole. -/
def targetNotes (targets : List Target) : List Str :=
  if runVerdict targets = verdictIncompatible then
    [str "Compatibility check failed on at least one required profile."]
  else if runVerdict targets = verdictInfraError then
    [str "bpfcompat could not establish the requested contract on at least one required target: it failed to run, could not be executed, or booted a kernel other than the one the profile requests. This is not a statement about the artifact. Check targets[].verdict, targets[].environment, infra_error, and serial logs."]
  else [str "All required profiles passed validator load checks."]

-- every profile may meet a world of its own, and the results arrive in any order
variable (worlds : MatrixProfile → World) (arrival : RangeOrder (MatrixProfile × Nat))

/-- The targets of a matrix, each at the place of its profile, and what is said about them. -/
def executeTargets (cfg : Config) (staged : Staged) (m : ProfileMatrix) :
    List Target × List Str :=
  let targets := fill (fun p => runTarget (worlds p) cfg staged p)
    (arrival.order m.profiles.zipIdx) (List.replicate m.profiles.length {})
  (targets, targetNotes targets)

/-- No result is lost, and none is stored at another's place. -/
theorem executeTargets_eq (cfg : Config) (staged : Staged) (m : ProfileMatrix) :
  executeTargets worlds arrival cfg staged m =
    let targets := m.profiles.map fun p => runTarget (worlds p) cfg staged p
    (targets, targetNotes targets)
  := by
  rw [executeTargets, fill_perm _ (arrival.perm _) (by simp)]

/-! ### Assembling the report -/

omit [UnicodeTables] in
/-- What is known about a file. -/
structure Metadata where
  absolutePath : Str := []
  baseName : Str := []
  sha256 : Str := []
  sizeBytes : Int64 := 0
deriving DecidableEq

/-- What a run has at hand before its targets are executed: its identity, the artifact and
the binaries it inspected, the matrix, and the function that digests a text. -/
structure Prepared where
  runID : Str := []
  startedAt : Str := []
  artifact : Option Metadata := none
  artifactSource : Str := []
  artifactSourceDigest : Str := []
  commandBinary : Option BinaryIdentity := none
  validator : BinaryIdentity := {}
  matrixPath : Str := []
  m : ProfileMatrix
  staged : Staged := {}
  digest : Str → Str := fun _ => []

/-- What a run that executes a command records about it. -/
def inspectCommandMetadata (prepared : Prepared) (cfg : Config) : CommandInfo where
  invocationSHA256 := prepared.digest (trimSpace cfg.command ++ [0] ++ str "expected-exit=" ++
    itoa cfg.commandExpectExit.toInt)
  expectedExitCode := cfg.commandExpectExit
  binary := prepared.commandBinary

/-- What stands for the artifact in a run that has none. -/
def commandArtifactMetadata (prepared : Prepared) (cfg : Config) (info : Option CommandInfo) :
    Metadata :=
  let seed := (info.map (·.invocationSHA256)).getD (trimSpace cfg.command)
  let size := Int64.ofNat (trimSpace cfg.command).length
  match info.bind (·.binary) with
  | none =>
    { absolutePath := str "command://" ++ str "command"
      baseName := str "command"
      sha256 := prepared.digest seed
      sizeBytes := size }
  | some binary =>
    { absolutePath := str "command://" ++ binary.baseName
      baseName := binary.baseName
      sha256 := prepared.digest (seed ++ [0] ++ binary.sha256)
      sizeBytes := binary.sizeBytes }

/-- The validation mode a setting stands for. -/
def normalizeValidationMode (mode : Str) : Str :=
  let mode := toLower (trimSpace mode)
  if mode ∈ [str "load_only", str "load-only", str "loadonly"] then str "load_only"
  else if mode ∈ [str "load_attach", str "load-attach", str "loadattach"] then str "load_attach"
  else if mode = str "behavior" then str "behavior"
  else []

/-- Why a configuration is refused. -/
inductive ConfigError where
  | artifactRequired
  | commandBinaryWithoutCommand
  | expectExitWithoutCommand
  | expectExitOutOfRange (got : Int64)
  | commandRunner (got : Str)
  | matrixRequired
  | outRequired
  | concurrencyNotPositive (got : Int64)
  | timeoutNotPositive (got : Int)
  | workDirEmpty
  | unknownValidationMode (got : Str)
  | hostRunnerDisabled
  | unknownRunner (got : Str)
  | outIsDirectory
  | markdownIsDirectory

/-- The runner of a configuration, as its checks see it. -/
def Config.runnerName (cfg : Config) : Str := if cfg.runner = [] then str "vm" else cfg.runner

def Config.validateCommand (cfg : Config) : Except ConfigError Unit :=
  if commandMode cfg then
    if cfg.commandExpectExit < 0 ∨ 255 < cfg.commandExpectExit then
      .error (.expectExitOutOfRange cfg.commandExpectExit)
    else if cfg.runnerName ≠ str "vm" then .error (.commandRunner cfg.runner)
    else .ok ()
  else if cfg.artifactPath = [] then .error .artifactRequired
  else if trimSpace cfg.commandBinary ≠ [] then .error .commandBinaryWithoutCommand
  else if cfg.commandExpectExit ≠ 0 then .error .expectExitWithoutCommand
  else .ok ()

def Config.validate (cfg : Config) : Except ConfigError Unit := do
  cfg.validateCommand
  if cfg.matrixPath = [] ∧ cfg.quick = false then .error .matrixRequired
  else if cfg.outPath = [] then .error .outRequired
  else if cfg.concurrency ≤ 0 then .error (.concurrencyNotPositive cfg.concurrency)
  else if cfg.timeout ≤ 0 then .error (.timeoutNotPositive cfg.timeout)
  else if cfg.workDir = [] then .error .workDirEmpty
  else if normalizeValidationMode cfg.validationMode = [] ∧ trimSpace cfg.validationMode ≠ [] then
    .error (.unknownValidationMode cfg.validationMode)
  else if cfg.runnerName = str "host" ∧ cfg.unsafeAllowHostRunner = false then
    .error .hostRunnerDisabled
  else if cfg.runnerName ∉ [str "vm", str "virtme-ng", str "firecracker", str "host"] then
    .error (.unknownRunner cfg.runner)
  else if clean cfg.outPath = str "." then .error .outIsDirectory
  else if cfg.markdownPath ≠ [] ∧ clean cfg.markdownPath = str "." then .error .markdownIsDirectory
  else .ok ()

/-- What is said about the validation mode. -/
def validationModeNotes (validationMode : Str) : List Str :=
  if validationMode = str "load_only" then
    [str "validation mode: load_only (libbpf load/verifier only; attach and behavior commands skipped)"]
  else if validationMode = str "load_attach" then
    [str "validation mode: load_attach (libbpf load plus attach evidence; behavior commands skipped)"]
  else if validationMode = str "behavior" then
    [str "validation mode: behavior (load, attach, and manifest functional commands)"]
  else []

/-- What is said about a run that executes a command. -/
def commandModeNote (cfg : Config) : Str :=
  str "validation mode: command (per-kernel verdict = command exit code == " ++
    itoa cfg.commandExpectExit.toInt ++ str "; libbpf load/attach skipped)"

/-- A path made absolute, where that can be done. -/
def absPathOrOriginal (abs : Str → Except Str Str) (path : Str) : Str :=
  if path = [] then []
  else
    match abs path with
    | .ok absPath => absPath
    | .error _ => path

/-- The outcome of a run. -/
structure RunResult where
  runDir : Str
  exitCode : Int
  report : ReportV01

/-- The status of a run with the given verdict. -/
def runStatus (verdict : Str) : Str :=
  if verdict = verdictIncompatible then str "fail"
  else if verdict = verdictInfraError then str "error"
  else str "pass"

/-- The exit code of a run with the given verdict. -/
def runExitCode (verdict : Str) : Int :=
  if verdict = verdictIncompatible then 2
  else if verdict = verdictInfraError then 1
  else 0

/-- A run that has been prepared is executed, and its report is assembled. -/
def executeBootstrap (abs : Str → Except Str Str) (cfg : Config) (prepared : Prepared) :
    RunResult :=
  let (targets, notes) := executeTargets worlds arrival cfg prepared.staged prepared.m
  let notes :=
    (if commandMode cfg then [commandModeNote cfg]
      else validationModeNotes (normalizeValidationMode cfg.validationMode)) ++ notes
  let verdict := runVerdict targets
  let complete := runComplete targets
  let notes := notes ++
    if !complete ∧ verdict = verdictCompatible then
      [str "coverage incomplete: at least one optional target produced no compatibility answer; required targets were all established. See targets[].verdict and targets[].environment."]
    else []
  let command := if commandMode cfg then some (inspectCommandMetadata prepared cfg) else none
  let metadata := prepared.artifact.getD (commandArtifactMetadata prepared cfg command)
  { runDir := prepared.staged.runDir
    exitCode := runExitCode verdict
    report :=
      { schemaVersion := str "v0.1"
        run := { id := prepared.runID, startedAt := prepared.startedAt }
        artifact :=
          { path := metadata.absolutePath
            source := prepared.artifactSource
            sourceDigest := prepared.artifactSourceDigest
            baseName := metadata.baseName
            sha256 := metadata.sha256
            sizeBytes := metadata.sizeBytes }
        command
        validator := if commandMode cfg then none else some prepared.validator
        matrix :=
          { path := prepared.matrixPath
            name := prepared.m.name
            profiles := prepared.m.profileIDs }
        targets
        summary :=
          { status := runStatus verdict
            verdict
            complete := some complete
            notes }
        paths :=
          { runDir := prepared.staged.runDir
            json := absPathOrOriginal abs cfg.outPath
            markdown := absPathOrOriginal abs cfg.markdownPath } } }

end

end Runner
