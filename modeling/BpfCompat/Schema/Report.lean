import BpfCompat.Go.Strings

/-!
# The run report

The report `v0.1` of a compatibility run, field by field.  A field that may be left out
of the document is an `Option` where the program keeps a pointer; every other field has
the zero value of its type when the document does not carry it.
-/

namespace Schema

open Go

/-- The identity of a run. -/
structure RunInfo where
  id : Str := []
  startedAt : Str := []
deriving DecidableEq

/-- The artifact a run tested. -/
structure Artifact where
  path : Str := []
  source : Str := []
  sourceDigest : Str := []
  baseName : Str := []
  sha256 : Str := []
  sizeBytes : Int64 := 0
deriving DecidableEq

/-- The identity of a binary a run used. -/
structure BinaryIdentity where
  baseName : Str := []
  sha256 : Str := []
  sizeBytes : Int64 := 0
deriving DecidableEq

/-- What a command-mode run executed, without the command text. -/
structure CommandInfo where
  invocationSHA256 : Str := []
  expectedExitCode : Int64 := 0
  binary : Option BinaryIdentity := none
deriving DecidableEq

/-- The matrix of a run. -/
structure MatrixInfo where
  path : Str := []
  name : Str := []
  profiles : List Str := []
deriving DecidableEq

/-- The run-level result. -/
structure SummaryInfo where
  status : Str := []
  verdict : Str := []
  complete : Option Bool := none
  notes : List Str := []
deriving DecidableEq

/-- Which environment was exercised, beside the one that was requested. -/
structure EnvironmentCheck where
  requestedKernelFamily : Str := []
  observedKernel : Str := []
  kernelFamilyMatch : Option Bool := none
  imageSourceURL : Str := []
  imageSHA256 : Str := []
  requestedDistro : Str := []
  requestedDistroVersion : Str := []
  observedOSID : Str := []
  observedOSVersionID : Str := []
  distroMatch : Option Bool := none
deriving DecidableEq

/-- The type information available to a target. -/
structure TargetBTF where
  kernelBTFAvailable : Bool := false
  artifactHasBTF : Bool := false
  artifactHasBTFExt : Bool := false
deriving DecidableEq

/-- An environment, as the profile names it or as the guest reports it. -/
structure TargetEnv where
  distro : Str := []
  version : Str := []
  kernelFamily : Str := []
  kernel : Str := []
  arch : Str := []
deriving DecidableEq

/-- The load and attach results of a target. -/
structure Validation where
  loadStatus : Str := []
  loadErrorCode : Int64 := 0
  loadError : Str := []
  attachMode : Str := []
  attachStatus : Str := []
  attachAttempted : Int64 := 0
  attachPassed : Int64 := 0
  attachFailed : Int64 := 0
deriving DecidableEq

/-- The result of one functional test. -/
structure FunctionalTest where
  name : Str := []
  required : Bool := false
  status : Str := []
  command : Str := []
  timeoutSeconds : Int64 := 0
  expectedExitCode : Int64 := 0
  exitCode : Int64 := 0
  timedOut : Bool := false
  stdoutTail : Str := []
  stderrTail : Str := []
  error : Str := []
deriving DecidableEq

/-- The results of the functional tests of a target. -/
structure Functional where
  status : Str := []
  tests : List FunctionalTest := []
deriving DecidableEq

/-- The result of one profile of the matrix. -/
structure Target where
  profileID : Str := []
  required : Bool := false
  status : Str := []
  verdict : Str := []
  environment : Option EnvironmentCheck := none
  profile : Option TargetEnv := none
  host : Option TargetEnv := none
  validation : Option Validation := none
  functional : Option Functional := none
  failedStage : Str := []
  btf : Option TargetBTF := none
  classificationCode : Str := []
  classificationConfidence : Str := []
  classificationReason : Str := []
  startedAt : Str := []
  finishedAt : Str := []
  durationMs : Int64 := 0
  vmRunDir : Str := []
  qemuCommand : Str := []
  serialLog : Str := []
  validatorResult : Str := []
  validatorExit : Int64 := 0
  infraError : Str := []
  notes : List Str := []
deriving DecidableEq

/-- Where a run wrote its files. -/
structure Paths where
  runDir : Str := []
  json : Str := []
  markdown : Str := []
deriving DecidableEq

/-- The report of a run. -/
structure ReportV01 where
  schemaVersion : Str := []
  run : RunInfo := {}
  artifact : Artifact := {}
  command : Option CommandInfo := none
  validator : Option BinaryIdentity := none
  matrix : MatrixInfo := {}
  targets : List Target := []
  summary : SummaryInfo := {}
  paths : Paths := {}
deriving DecidableEq

end Schema
