import BpfCompat.Go.Json.Codec

/-!
# The result of the validator

The document the validator leaves in the guest, field by field, and how it is read back.
Every field has to be of its type for the document to be readable, whether or not the
runner looks at it.
-/

namespace Runner

open Go Go.Json Go.Json.Fields

/-- The guest, as the validator saw it. -/
structure HostResult where
  sysname : Str := []
  nodename : Str := []
  release : Str := []
  version : Str := []
  machine : Str := []
deriving DecidableEq

/-- The outcome of a probe, or of the load phase. -/
structure ProbeStatus where
  status : Str := []
  errorCode : Int64 := 0
  error : Str := []
deriving DecidableEq

/-- The outcome of the attach phase. -/
structure AttachResult where
  mode : Str := []
  status : Str := []
  attempted : Int64 := 0
  passed : Int64 := 0
  failed : Int64 := 0
deriving DecidableEq

/-- The outcome of one functional test. -/
structure TestResult where
  name : Str := []
  required : Bool := false
  status : Str := []
  command : Str := []
  timeoutSeconds : Int64 := 0
  expectedExitCode : Int64 := 0
  exitCode : Int64 := 0
  timedOut : Bool := false
  stdoutTail : Str := []
  stderrTail : Str := []
  error : Str := []
deriving DecidableEq

/-- The outcome of the functional tests. -/
structure FunctionalResult where
  status : Str := []
  tests : List TestResult := []
deriving DecidableEq

/-- The type information the validator found. -/
structure BTFResult where
  kernelBTFAvailable : Bool := false
  artifactHasBTF : Bool := false
  artifactHasBTFExt : Bool := false
deriving DecidableEq

/-- Which map types the kernel supports. -/
structure MapTypes where
  ringbuf : ProbeStatus := {}
  perfEventArray : ProbeStatus := {}
  array : ProbeStatus := {}
  hash : ProbeStatus := {}
deriving DecidableEq

/-- Which program types the kernel supports. -/
structure ProgramTypes where
  tracepoint : ProbeStatus := {}
  kprobe : ProbeStatus := {}
  tracing : ProbeStatus := {}
  xdp : ProbeStatus := {}
deriving DecidableEq

/-- What attaching needs. -/
structure AttachPrereqs where
  tracefs : Str := []
  kprobeEvents : Str := []
  tracepointEvents : Str := []
deriving DecidableEq

/-- What the kernel is capable of. -/
structure Capabilities where
  bpftoolAvailable : Bool := false
  bpftoolProbeOK : Bool := false
  bpftoolProbeOutputPath : Str := []
  mapTypes : MapTypes := {}
  programTypes : ProgramTypes := {}
  attachPrereqs : AttachPrereqs := {}
deriving DecidableEq

/-- Which variant of a group of programs was chosen. -/
structure ProgramVariant where
  group : Str := []
  chosen : Str := []
  disabled : List Str := []
deriving DecidableEq

/-- What became of a map fixup. -/
structure MapFixup where
  name : Str := []
  maxEntries : Str := []
  innerRingbufBytes : UInt32 := 0
  innerMapType : UInt32 := 0
  innerKeySize : UInt32 := 0
  innerValueSize : UInt32 := 0
  innerMaxEntries : UInt32 := 0
  status : Str := []
  errno : Int64 := 0
  appliedEntries : UInt32 := 0
deriving DecidableEq

/-- A map that was given a size. -/
structure AutoSizedMap where
  name : Str := []
  mapType : UInt32 := 0
  maxEntries : UInt32 := 0
deriving DecidableEq

/-- A program that was given a type. -/
structure AutoTypedProgram where
  name : Str := []
  «section» : Str := []
  progType : UInt32 := 0
deriving DecidableEq

/-- What became of a program-type override. -/
structure ProgramTypeOverride where
  selector : Str := []
  progType : UInt32 := 0
  status : Str := []
deriving DecidableEq

/-- A program of the artifact. -/
structure DiscoveredProgram where
  name : Str := []
  «section» : Str := []
  attachStatus : Str := []
  attachError : Str := []
  loadStatus : Str := []
  loadErrno : Int64 := 0
  loadLog : Str := []
deriving DecidableEq

/-- The programs of the artifact. -/
structure Discovery where
  programs : List DiscoveredProgram := []
deriving DecidableEq

/-- What was logged. -/
structure Logs where
  libbpf : Str := []
deriving DecidableEq

/-- The result of the validator. -/
structure ValidatorResult where
  schemaVersion : Str := []
  status : Str := []
  host : HostResult := {}
  load : ProbeStatus := {}
  attach : AttachResult := {}
  functional : FunctionalResult := {}
  btf : BTFResult := {}
  capabilities : Capabilities := {}
  programVariants : List ProgramVariant := []
  mapFixups : List MapFixup := []
  autoSizedMaps : List AutoSizedMap := []
  autoTypedPrograms : List AutoTypedProgram := []
  programTypeOverrides : List ProgramTypeOverride := []
  discovery : Discovery := {}
  logs : Logs := {}
deriving DecidableEq

section

variable [UnicodeTables]

def hostResultJSON : Codec HostResult :=
  struct
    (.pair (field "sysname" string) <|
      .pair (field "nodename" string) <|
      .pair (field "release" string) <|
      .pair (field "version" string) <|
      field "machine" string)
    ⟨fun h => (h.sysname, h.nodename, h.release, h.version, h.machine),
      fun (sysname, nodename, release, version, machine) =>
        { sysname, nodename, release, version, machine },
      fun _ => rfl, fun _ => rfl⟩
    (by simp [str_inj])

def probeStatusJSON : Codec ProbeStatus :=
  struct
    (.pair (field "status" string) <|
      .pair (field "error_code" int64) <|
      field "error" string)
    ⟨fun p => (p.status, p.errorCode, p.error), fun (status, errorCode, error) =>
        { status, errorCode, error },
      fun _ => rfl, fun _ => rfl⟩
    (by simp [str_inj])

def attachResultJSON : Codec AttachResult :=
  struct
    (.pair (field "mode" string) <|
      .pair (field "status" string) <|
      .pair (field "attempted" int64) <|
      .pair (field "passed" int64) <|
      field "failed" int64)
    ⟨fun a => (a.mode, a.status, a.attempted, a.passed, a.failed),
      fun (mode, status, attempted, passed, failed) =>
        { mode, status, attempted, passed, failed },
      fun _ => rfl, fun _ => rfl⟩
    (by simp [str_inj])

def testResultJSON : Codec TestResult :=
  struct
    (.pair (field "name" string) <|
      .pair (field "required" bool) <|
      .pair (field "status" string) <|
      .pair (field "command" string) <|
      .pair (field "timeout_seconds" int64) <|
      .pair (field "expected_exit_code" int64) <|
      .pair (field "exit_code" int64) <|
      .pair (field "timed_out" bool) <|
      .pair (field "stdout_tail" string) <|
      .pair (field "stderr_tail" string) <|
      field "error" string)
    ⟨fun t => (t.name, t.required, t.status, t.command, t.timeoutSeconds, t.expectedExitCode,
        t.exitCode, t.timedOut, t.stdoutTail, t.stderrTail, t.error),
      fun (name, required, status, command, timeoutSeconds, expectedExitCode, exitCode, timedOut,
          stdoutTail, stderrTail, error) =>
        { name, required, status, command, timeoutSeconds, expectedExitCode, exitCode, timedOut,
          stdoutTail, stderrTail, error },
      fun _ => rfl, fun _ => rfl⟩
    (by simp [str_inj])

def functionalResultJSON : Codec FunctionalResult :=
  struct
    (.pair (field "status" string) <|
      field "tests" (slice testResultJSON))
    ⟨fun f => (f.status, f.tests), fun (status, tests) => { status, tests },
      fun _ => rfl, fun _ => rfl⟩
    (by simp [str_inj])

def btfResultJSON : Codec BTFResult :=
  struct
    (.pair (field "kernel_btf_available" bool) <|
      .pair (field "artifact_has_btf" bool) <|
      field "artifact_has_btf_ext" bool)
    ⟨fun b => (b.kernelBTFAvailable, b.artifactHasBTF, b.artifactHasBTFExt),
      fun (kernelBTFAvailable, artifactHasBTF, artifactHasBTFExt) =>
        { kernelBTFAvailable, artifactHasBTF, artifactHasBTFExt },
      fun _ => rfl, fun _ => rfl⟩
    (by simp [str_inj])

def mapTypesJSON : Codec MapTypes :=
  struct
    (.pair (field "ringbuf" probeStatusJSON) <|
      .pair (field "perf_event_array" probeStatusJSON) <|
      .pair (field "array" probeStatusJSON) <|
      field "hash" probeStatusJSON)
    ⟨fun m => (m.ringbuf, m.perfEventArray, m.array, m.hash),
      fun (ringbuf, perfEventArray, array, hash) => { ringbuf, perfEventArray, array, hash },
      fun _ => rfl, fun _ => rfl⟩
    (by simp [str_inj])

def programTypesJSON : Codec ProgramTypes :=
  struct
    (.pair (field "tracepoint" probeStatusJSON) <|
      .pair (field "kprobe" probeStatusJSON) <|
      .pair (field "tracing" probeStatusJSON) <|
      field "xdp" probeStatusJSON)
    ⟨fun p => (p.tracepoint, p.kprobe, p.tracing, p.xdp),
      fun (tracepoint, kprobe, tracing, xdp) => { tracepoint, kprobe, tracing, xdp },
      fun _ => rfl, fun _ => rfl⟩
    (by simp [str_inj])

def attachPrereqsJSON : Codec AttachPrereqs :=
  struct
    (.pair (field "tracefs" string) <|
      .pair (field "kprobe_events" string) <|
      field "tracepoint_events" string)
    ⟨fun a => (a.tracefs, a.kprobeEvents, a.tracepointEvents),
      fun (tracefs, kprobeEvents, tracepointEvents) =>
        { tracefs, kprobeEvents, tracepointEvents },
      fun _ => rfl, fun _ => rfl⟩
    (by simp [str_inj])

def capabilitiesJSON : Codec Capabilities :=
  struct
    (.pair (field "bpftool_available" bool) <|
      .pair (field "bpftool_probe_ok" bool) <|
      .pair (field "bpftool_probe_output_path" string) <|
      .pair (field "map_types" mapTypesJSON) <|
      .pair (field "program_types" programTypesJSON) <|
      field "attach_prereqs" attachPrereqsJSON)
    ⟨fun c => (c.bpftoolAvailable, c.bpftoolProbeOK, c.bpftoolProbeOutputPath, c.mapTypes,
        c.programTypes, c.attachPrereqs),
      fun (bpftoolAvailable, bpftoolProbeOK, bpftoolProbeOutputPath, mapTypes, programTypes,
          attachPrereqs) =>
        { bpftoolAvailable, bpftoolProbeOK, bpftoolProbeOutputPath, mapTypes, programTypes,
          attachPrereqs },
      fun _ => rfl, fun _ => rfl⟩
    (by simp [str_inj])

def programVariantJSON : Codec ProgramVariant :=
  struct
    (.pair (field "group" string) <|
      .pair (field "chosen" string) <|
      field "disabled" (slice string))
    ⟨fun p => (p.group, p.chosen, p.disabled), fun (group, chosen, disabled) =>
        { group, chosen, disabled },
      fun _ => rfl, fun _ => rfl⟩
    (by simp [str_inj])

def mapFixupJSON : Codec MapFixup :=
  struct
    (.pair (field "name" string) <|
      .pair (field "max_entries" string) <|
      .pair (field "inner_ringbuf_bytes" uint32) <|
      .pair (field "inner_map_type" uint32) <|
      .pair (field "inner_key_size" uint32) <|
      .pair (field "inner_value_size" uint32) <|
      .pair (field "inner_max_entries" uint32) <|
      .pair (field "status" string) <|
      .pair (field "errno" int64) <|
      field "applied_entries" uint32)
    ⟨fun f => (f.name, f.maxEntries, f.innerRingbufBytes, f.innerMapType, f.innerKeySize,
        f.innerValueSize, f.innerMaxEntries, f.status, f.errno, f.appliedEntries),
      fun (name, maxEntries, innerRingbufBytes, innerMapType, innerKeySize, innerValueSize,
          innerMaxEntries, status, errno, appliedEntries) =>
        { name, maxEntries, innerRingbufBytes, innerMapType, innerKeySize, innerValueSize,
          innerMaxEntries, status, errno, appliedEntries },
      fun _ => rfl, fun _ => rfl⟩
    (by simp [str_inj])

def autoSizedMapJSON : Codec AutoSizedMap :=
  struct
    (.pair (field "name" string) <|
      .pair (field "map_type" uint32) <|
      field "max_entries" uint32)
    ⟨fun m => (m.name, m.mapType, m.maxEntries), fun (name, mapType, maxEntries) =>
        { name, mapType, maxEntries },
      fun _ => rfl, fun _ => rfl⟩
    (by simp [str_inj])

def autoTypedProgramJSON : Codec AutoTypedProgram :=
  struct
    (.pair (field "name" string) <|
      .pair (field "section" string) <|
      field "prog_type" uint32)
    ⟨fun p => (p.name, p.section, p.progType), fun (name, s, progType) =>
        { name, «section» := s, progType },
      fun _ => rfl, fun _ => rfl⟩
    (by simp [str_inj])

def programTypeOverrideJSON : Codec ProgramTypeOverride :=
  struct
    (.pair (field "selector" string) <|
      .pair (field "prog_type" uint32) <|
      field "status" string)
    ⟨fun o => (o.selector, o.progType, o.status), fun (selector, progType, status) =>
        { selector, progType, status },
      fun _ => rfl, fun _ => rfl⟩
    (by simp [str_inj])

def discoveredProgramJSON : Codec DiscoveredProgram :=
  struct
    (.pair (field "name" string) <|
      .pair (field "section" string) <|
      .pair (omitempty "attach_status" string) <|
      .pair (omitempty "attach_error" string) <|
      .pair (omitempty "load_status" string) <|
      .pair (omitempty "load_errno" int64) <|
      omitempty "load_log" string)
    ⟨fun p => (p.name, p.section, p.attachStatus, p.attachError, p.loadStatus, p.loadErrno,
        p.loadLog),
      fun (name, s, attachStatus, attachError, loadStatus, loadErrno, loadLog) =>
        { name, «section» := s, attachStatus, attachError, loadStatus, loadErrno, loadLog },
      fun _ => rfl, fun _ => rfl⟩
    (by simp [str_inj])

def discoveryJSON : Codec Discovery :=
  struct (field "programs" (slice discoveredProgramJSON))
    ⟨fun d => d.programs, fun programs => { programs }, fun _ => rfl, fun _ => rfl⟩
    (by simp)

def logsJSON : Codec Logs :=
  struct (field "libbpf" string)
    ⟨fun l => l.libbpf, fun libbpf => { libbpf }, fun _ => rfl, fun _ => rfl⟩
    (by simp)

def validatorResultJSON : Codec ValidatorResult :=
  struct
    (.pair (field "schema_version" string) <|
      .pair (field "status" string) <|
      .pair (field "host" hostResultJSON) <|
      .pair (field "load" probeStatusJSON) <|
      .pair (field "attach" attachResultJSON) <|
      .pair (field "functional" functionalResultJSON) <|
      .pair (field "btf" btfResultJSON) <|
      .pair (field "capabilities" capabilitiesJSON) <|
      .pair (field "program_variants" (slice programVariantJSON)) <|
      .pair (field "map_fixups" (slice mapFixupJSON)) <|
      .pair (field "auto_sized_maps" (slice autoSizedMapJSON)) <|
      .pair (field "auto_typed_programs" (slice autoTypedProgramJSON)) <|
      .pair (field "program_type_overrides" (slice programTypeOverrideJSON)) <|
      .pair (field "discovery" discoveryJSON) <|
      field "logs" logsJSON)
    ⟨fun r => (r.schemaVersion, r.status, r.host, r.load, r.attach, r.functional, r.btf,
        r.capabilities, r.programVariants, r.mapFixups, r.autoSizedMaps, r.autoTypedPrograms,
        r.programTypeOverrides, r.discovery, r.logs),
      fun (schemaVersion, status, host, load, attach, functional, btf, capabilities,
          programVariants, mapFixups, autoSizedMaps, autoTypedPrograms, programTypeOverrides,
          discovery, logs) =>
        { schemaVersion, status, host, load, attach, functional, btf, capabilities,
          programVariants, mapFixups, autoSizedMaps, autoTypedPrograms, programTypeOverrides,
          discovery, logs },
      fun _ => rfl, fun _ => rfl⟩
    (by simp [str_inj])

/-- The validator result a document holds, if it is readable. -/
def parseValidatorResult (data : Str) : Option ValidatorResult :=
  (parseDocument (lexemes data)).bind validatorResultJSON.decode

/-- The validator result at a path.  The files say why one cannot be read, and `explain` is
the text with which the decoder refuses a document. -/
def readValidatorResult (files : Str → Except Str Str) (explain : Str → Str) (path : Str) :
    Except Str ValidatorResult :=
  match files path with
  | .error reason => .error (str "read validator result: " ++ reason)
  | .ok data =>
    match parseValidatorResult data with
    | none => .error (str "parse validator result: " ++ explain data)
    | some result => .ok result

/-- A validator result is read from a file that holds a readable document. -/
theorem readValidatorResult_eq_ok_iff {files : Str → Except Str Str} {explain : Str → Str}
    {path : Str} {result : ValidatorResult} :
  readValidatorResult files explain path = .ok result ↔
    ∃ data, files path = .ok data ∧ parseValidatorResult data = some result
  := by
  rw [readValidatorResult]
  cases files path with
  | error reason => simp
  | ok data =>
      cases hparse : parseValidatorResult data with
      | none => simp [hparse]
      | some r => simp [hparse]

end

end Runner
