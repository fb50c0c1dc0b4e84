import BpfCompat.Go.Json.Layout
import BpfCompat.Runner.ValidatorResult
import BpfCompat.Validator.Escape
import BpfCompat.Validator.Options
import BpfCompat.Validator.Plan

/-!
# The result document

The validator prints its result piece by piece, the runner parses it.  The strings the validator
holds are arbitrary bytes: names from an object file, ends of streams, messages of the verifier.

What the runner is to read is `reported`: numbers and truth values as they are, strings up to their
null byte, with stray bytes replaced.
-/

namespace Validator

open Go Go.Json

/-! ### The result -/

structure Utsname where
  sysname : Str := []
  nodename : Str := []
  release : Str := []
  version : Str := []
  machine : Str := []

structure ProbeStatus where
  status : Str := []
  errorCode : Int32 := 0
  error : Str := []

/-- A map fixup after the load. -/
structure FixupResult where
  fixup : Fixup
  status : Str := []
  err : Int32 := 0
  appliedEntries : UInt32 := 0
  unsigned : fixup.innerMapType < 2 ^ 32

structure AutosizedMap where
  name : Str
  mapType : UInt32
  maxEntries : UInt32

structure AutotypedProg where
  name : Str
  sectionName : Str
  progType : UInt32

/-- A type override after the load. -/
structure OverrideResult where
  override : TypeOverride
  status : Str := []
  unsigned : override.progType < 2 ^ 32

/-- A group of variants after one of them, or none, was chosen. -/
structure VariantResult where
  group : VariantGroup
  chosen : Option (Fin group.variants.length)

structure DiscoveredProgram where
  name : Str := []
  sectionName : Str := []
  attachStatus : Str := []
  attachError : Str := []
  loadStatus : Str := []
  loadErrno : Int32 := 0
  loadLog : Str := []

/-- The number is one of type `int`. -/
def FitsInt (n : Int) : Prop := -2 ^ 31 ≤ n ∧ n < 2 ^ 31

/-- The numbers of a test are of type `int`. -/
structure FitsTest (test : FunctionalTest) : Prop where
  timeoutSeconds : FitsInt test.timeoutSeconds
  expectExitCode : FitsInt test.expectExitCode
  exitCode : FitsInt test.exitCode

/-- What the validator knows when it writes its result. -/
structure Result where
  opts : Options
  host : Utsname := {}
  timestamp : Str := []
  mapFixups : List FixupResult := []
  autosized : List AutosizedMap := []
  autotyped : List AutotypedProg := []
  progTypeOverrides : List OverrideResult := []
  variantGroups : List VariantResult := []
  kernelBTFAvailable : Bool := false
  kernelBTFSize : Int64 := 0
  artifactHasBTF : Bool := false
  artifactHasBTFExt : Bool := false
  bpftoolAvailable : Bool := false
  bpftoolProbeOk : Bool := false
  bpftoolProbeOutputPath : Str := []
  mapProbeRingbuf : ProbeStatus := {}
  mapProbePerfEventArray : ProbeStatus := {}
  mapProbeArray : ProbeStatus := {}
  mapProbeHash : ProbeStatus := {}
  progProbeTracepoint : ProbeStatus := {}
  progProbeKprobe : ProbeStatus := {}
  progProbeTracing : ProbeStatus := {}
  progProbeXdp : ProbeStatus := {}
  tracefsAvailable : Bool := false
  kprobeEventsAvailable : Bool := false
  tracepointEventsAvailable : Bool := false
  mapCount : Int32 := 0
  /-- How many programs there are; the array holds the first ones only. -/
  programCount : Int32 := 0
  programs : Fin maxItems → DiscoveredProgram := fun _ => {}
  functionalTests : List FunctionalTest := []
  functionalStatus : Str := []
  loadOk : Bool := false
  loadErrno : Int32 := 0
  loadError : Str := []
  attachStatus : Str := []
  attachAttempted : Int32 := 0
  attachPassed : Int32 := 0
  attachFailed : Int32 := 0
  libbpfLog : Str := []
  fits : ∀ test ∈ functionalTests, FitsTest test

def Result.overallStatus (res : Result) : Str :=
  Validator.overallStatus res.loadOk (cString res.attachStatus) (cString res.functionalStatus)

/-- The programs that are listed, `max_items` of them. -/
def Result.listedPrograms (res : Result) : List DiscoveredProgram :=
  (List.ofFn res.programs).take
    (if res.programCount.toInt < maxItems then res.programCount.toInt.toNat else maxItems)

/-! ### Printing -/

/-- A string between quotes, with escapes. -/
def quote (s : Str) : Str := 34 :: (escapeJsonString (some s) ++ [34])

/-- A string between quotes as it is, `\"%s\"`. -/
def verbatim (s : Str) : Str := 34 :: (s ++ [34])

def formatInt (n : Int32) : Str := itoa n.toInt

def formatUnsigned (n : Nat) : Str := itoa n

def writeProbeStatusJson (status : ProbeStatus) : Str :=
  Layout.line.object
    [("status", quote status.status), ("error_code", formatInt status.errorCode),
      ("error", quote status.error)]

def hostText (host : Utsname) : Str :=
  (Layout.lines 1).object
    [("sysname", quote host.sysname), ("nodename", quote host.nodename),
      ("release", quote host.release), ("version", quote host.version),
      ("machine", quote host.machine)]

def inputText (opts : Options) : Str :=
  (Layout.lines 1).object
    [("artifact", quote (opts.artifact.getD [])), ("manifest", quote (opts.manifest.getD [])),
      ("functional_plan", quote (opts.functionalPlan.getD [])),
      ("attach_mode", quote opts.attachMode), ("probe_features", formatBool opts.probeFeatures)]

def fixupText (fx : FixupResult) : Str :=
  Layout.line.object
    [("name", quote fx.fixup.name), ("max_entries", quote fx.fixup.maxEntries),
      ("inner_ringbuf_bytes", formatUnsigned fx.fixup.innerRingbufBytes.toNat),
      ("inner_map_type", formatUnsigned fx.fixup.innerMapType),
      ("inner_key_size", formatUnsigned fx.fixup.innerKeySize.toNat),
      ("inner_value_size", formatUnsigned fx.fixup.innerValueSize.toNat),
      ("inner_max_entries", formatUnsigned fx.fixup.innerMaxEntries.toNat),
      ("status", quote fx.status), ("errno", formatInt fx.err),
      ("applied_entries", formatUnsigned fx.appliedEntries.toNat)]

def autosizedText (map : AutosizedMap) : Str :=
  Layout.line.object
    [("name", quote map.name), ("map_type", formatUnsigned map.mapType.toNat),
      ("max_entries", formatUnsigned map.maxEntries.toNat)]

def autotypedText (prog : AutotypedProg) : Str :=
  Layout.line.object
    [("name", quote prog.name), ("section", quote prog.sectionName),
      ("prog_type", formatUnsigned prog.progType.toNat)]

def overrideText (o : OverrideResult) : Str :=
  Layout.line.object
    [("selector", quote o.override.selector), ("prog_type", formatUnsigned o.override.progType),
      ("status", quote o.status)]

/-- The name of the variant that was chosen; nothing if none was. -/
def VariantResult.chosenName (grp : VariantResult) : Str :=
  match grp.chosen with
  | none => []
  | some i => (grp.group.variants.get i).name

/-- The names of the other variants. -/
def VariantResult.disabled (grp : VariantResult) : List Str :=
  (grp.group.variants.zipIdx.filter fun v => some v.2 ≠ grp.chosen.map Fin.val).map (·.1.name)

def variantText (grp : VariantResult) : Str :=
  Layout.line.object
    [("group", quote grp.group.group), ("chosen", quote grp.chosenName),
      ("disabled", Layout.line.array (grp.disabled.map quote))]

def btfText (res : Result) : Str :=
  (Layout.lines 1).object
    [("kernel_btf_available", formatBool res.kernelBTFAvailable),
      ("kernel_btf_path", verbatim (str "/sys/kernel/btf/vmlinux")),
      ("kernel_btf_size", itoa res.kernelBTFSize.toInt),
      ("artifact_has_btf", formatBool res.artifactHasBTF),
      ("artifact_has_btf_ext", formatBool res.artifactHasBTFExt)]

def present (available : Bool) : Str := if available then str "present" else str "missing"

def mapTypesText (res : Result) : Str :=
  (Layout.lines 2).object
    [("ringbuf", writeProbeStatusJson res.mapProbeRingbuf),
      ("perf_event_array", writeProbeStatusJson res.mapProbePerfEventArray),
      ("array", writeProbeStatusJson res.mapProbeArray),
      ("hash", writeProbeStatusJson res.mapProbeHash)]

def programTypesText (res : Result) : Str :=
  (Layout.lines 2).object
    [("tracepoint", writeProbeStatusJson res.progProbeTracepoint),
      ("kprobe", writeProbeStatusJson res.progProbeKprobe),
      ("tracing", writeProbeStatusJson res.progProbeTracing),
      ("xdp", writeProbeStatusJson res.progProbeXdp)]

def attachPrereqsText (res : Result) : Str :=
  (Layout.lines 2).object
    [("tracefs", verbatim (present res.tracefsAvailable)),
      ("kprobe_events", verbatim (present res.kprobeEventsAvailable)),
      ("tracepoint_events", verbatim (present res.tracepointEventsAvailable))]

def capabilitiesText (res : Result) : Str :=
  (Layout.lines 1).object
    [("bpftool_available", formatBool res.bpftoolAvailable),
      ("bpftool_probe_ok", formatBool res.bpftoolProbeOk),
      ("bpftool_probe_output_path", quote res.bpftoolProbeOutputPath),
      ("map_types", mapTypesText res), ("program_types", programTypesText res),
      ("attach_prereqs", attachPrereqsText res)]

def programText (prog : DiscoveredProgram) : Str :=
  Layout.line.object
    [("name", quote prog.name), ("section", quote prog.sectionName),
      ("attach_status", quote prog.attachStatus), ("attach_error", quote prog.attachError),
      ("load_status", quote prog.loadStatus), ("load_errno", formatInt prog.loadErrno),
      ("load_log", quote prog.loadLog)]

def discoveryText (res : Result) : Str :=
  (Layout.lines 1).object
    [("program_count", formatInt res.programCount), ("map_count", formatInt res.mapCount),
      ("programs", (Layout.lines 2).array (res.listedPrograms.map programText))]

def loadText (res : Result) : Str :=
  (Layout.lines 1).object
    [("status", verbatim (if res.loadOk then str "pass" else str "fail")),
      ("error_code", formatInt res.loadErrno), ("error", quote res.loadError)]

def attachText (res : Result) : Str :=
  (Layout.lines 1).object
    [("mode", quote res.opts.attachMode), ("status", quote res.attachStatus),
      ("attempted", formatInt res.attachAttempted), ("passed", formatInt res.attachPassed),
      ("failed", formatInt res.attachFailed)]

def testText (test : FunctionalTest) : Str :=
  Layout.line.object
    [("name", quote test.name), ("required", formatBool test.required),
      ("status", quote test.status), ("command", quote test.command),
      ("timeout_seconds", itoa test.timeoutSeconds), ("expected_exit_code", itoa test.expectExitCode),
      ("exit_code", itoa test.exitCode), ("timed_out", formatBool test.timedOut),
      ("stdout_tail", quote test.stdoutTail), ("stderr_tail", quote test.stderrTail),
      ("error", quote test.error)]

def functionalText (res : Result) : Str :=
  (Layout.lines 1).object
    [("status", quote res.functionalStatus),
      ("tests", (Layout.lines 2).array (res.functionalTests.map testText))]

def logsText (res : Result) : Str := (Layout.lines 1).object [("libbpf", quote res.libbpfLog)]

/-- The contents of the output file. -/
def writeResultJson (res : Result) : Str :=
  (Layout.lines 0).object
    [("schema_version", verbatim (str "validator.v0.4")), ("timestamp", quote res.timestamp),
      ("status", verbatim res.overallStatus), ("host", hostText res.host),
      ("input", inputText res.opts),
      ("map_fixups", Layout.line.array (res.mapFixups.map fixupText)),
      ("auto_sized_maps", Layout.line.array (res.autosized.map autosizedText)),
      ("auto_typed_programs", Layout.line.array (res.autotyped.map autotypedText)),
      ("program_type_overrides", Layout.line.array (res.progTypeOverrides.map overrideText)),
      ("program_variants", Layout.line.array (res.variantGroups.map variantText)),
      ("btf", btfText res), ("capabilities", capabilitiesText res),
      ("discovery", discoveryText res), ("load", loadText res), ("attach", attachText res),
      ("functional", functionalText res), ("logs", logsText res)]
    ++ [10]

/-- How `main` ends: with the exit code, and the document unless the output file cannot be opened. -/
def finish (opened : Bool) (res : Result) : Int × Option Str :=
  if opened then (if res.overallStatus = str "pass" then 0 else 2, some (writeResultJson res))
  else (1, none)

/-! ### What is reported -/

/-- A string as a reader sees it: up to its null byte, with stray bytes replaced. -/
def shown (s : Str) : Str := toValidUTF8 (cString s)

def reportedProbe (p : ProbeStatus) : Runner.ProbeStatus where
  status := shown p.status
  errorCode := p.errorCode.toInt64
  error := shown p.error

def reportedHost (h : Utsname) : Runner.HostResult where
  sysname := shown h.sysname
  nodename := shown h.nodename
  release := shown h.release
  version := shown h.version
  machine := shown h.machine

def reportedFixup (fx : FixupResult) : Runner.MapFixup where
  name := shown fx.fixup.name
  maxEntries := shown fx.fixup.maxEntries
  innerRingbufBytes := fx.fixup.innerRingbufBytes
  innerMapType := UInt32.ofNat fx.fixup.innerMapType
  innerKeySize := fx.fixup.innerKeySize
  innerValueSize := fx.fixup.innerValueSize
  innerMaxEntries := fx.fixup.innerMaxEntries
  status := shown fx.status
  errno := fx.err.toInt64
  appliedEntries := fx.appliedEntries

def reportedAutosized (map : AutosizedMap) : Runner.AutoSizedMap where
  name := shown map.name
  mapType := map.mapType
  maxEntries := map.maxEntries

def reportedAutotyped (prog : AutotypedProg) : Runner.AutoTypedProgram where
  name := shown prog.name
  «section» := shown prog.sectionName
  progType := prog.progType

def reportedOverride (o : OverrideResult) : Runner.ProgramTypeOverride where
  selector := shown o.override.selector
  progType := UInt32.ofNat o.override.progType
  status := shown o.status

def reportedVariant (grp : VariantResult) : Runner.ProgramVariant where
  group := shown grp.group.group
  chosen := shown grp.chosenName
  disabled := grp.disabled.map shown

def reportedProgram (prog : DiscoveredProgram) : Runner.DiscoveredProgram where
  name := shown prog.name
  «section» := shown prog.sectionName
  attachStatus := shown prog.attachStatus
  attachError := shown prog.attachError
  loadStatus := shown prog.loadStatus
  loadErrno := prog.loadErrno.toInt64
  loadLog := shown prog.loadLog

def reportedTest (test : FunctionalTest) : Runner.TestResult where
  name := shown test.name
  required := test.required
  status := shown test.status
  command := shown test.command
  timeoutSeconds := Int64.ofInt test.timeoutSeconds
  expectedExitCode := Int64.ofInt test.expectExitCode
  exitCode := Int64.ofInt test.exitCode
  timedOut := test.timedOut
  stdoutTail := shown test.stdoutTail
  stderrTail := shown test.stderrTail
  error := shown test.error

/-- What the runner is to know of the result. -/
def reported (res : Result) : Runner.ValidatorResult where
  schemaVersion := str "validator.v0.4"
  status := res.overallStatus
  host := reportedHost res.host
  load :=
    { status := if res.loadOk then str "pass" else str "fail"
      errorCode := res.loadErrno.toInt64
      error := shown res.loadError }
  attach :=
    { mode := shown res.opts.attachMode
      status := shown res.attachStatus
      attempted := res.attachAttempted.toInt64
      passed := res.attachPassed.toInt64
      failed := res.attachFailed.toInt64 }
  functional :=
    { status := shown res.functionalStatus
      tests := res.functionalTests.map reportedTest }
  btf :=
    { kernelBTFAvailable := res.kernelBTFAvailable
      artifactHasBTF := res.artifactHasBTF
      artifactHasBTFExt := res.artifactHasBTFExt }
  capabilities :=
    { bpftoolAvailable := res.bpftoolAvailable
      bpftoolProbeOK := res.bpftoolProbeOk
      bpftoolProbeOutputPath := shown res.bpftoolProbeOutputPath
      mapTypes :=
        { ringbuf := reportedProbe res.mapProbeRingbuf
          perfEventArray := reportedProbe res.mapProbePerfEventArray
          array := reportedProbe res.mapProbeArray
          hash := reportedProbe res.mapProbeHash }
      programTypes :=
        { tracepoint := reportedProbe res.progProbeTracepoint
          kprobe := reportedProbe res.progProbeKprobe
          tracing := reportedProbe res.progProbeTracing
          xdp := reportedProbe res.progProbeXdp }
      attachPrereqs :=
        { tracefs := present res.tracefsAvailable
          kprobeEvents := present res.kprobeEventsAvailable
          tracepointEvents := present res.tracepointEventsAvailable } }
  programVariants := res.variantGroups.map reportedVariant
  mapFixups := res.mapFixups.map reportedFixup
  autoSizedMaps := res.autosized.map reportedAutosized
  autoTypedPrograms := res.autotyped.map reportedAutotyped
  programTypeOverrides := res.progTypeOverrides.map reportedOverride
  discovery := { programs := res.listedPrograms.map reportedProgram }
  logs := { libbpf := shown res.libbpfLog }

end Validator
