import BpfCompat.Runner.ValidatorResult
import BpfCompat.Schema.Report

/-!
# What the runner says about a validator result

The notes a target carries into the report: what the guest could not do, how the artifact
was adapted before it was loaded, and which programs failed to load.
-/

namespace Runner

open Go Schema

variable [UnicodeTables]

/-! ### Functional tests -/

omit [UnicodeTables] in
/-- The functional results of a target; none, if nothing was run. -/
def functionalFromValidator (vr : ValidatorResult) : Option Functional :=
  if vr.functional.status = [] ∧ vr.functional.tests = [] then none
  else
    some
      { status := vr.functional.status
        tests := vr.functional.tests.map fun test =>
          { name := test.name
            required := test.required
            status := test.status
            command := test.command
            timeoutSeconds := test.timeoutSeconds
            expectedExitCode := test.expectedExitCode
            exitCode := test.exitCode
            timedOut := test.timedOut
            stdoutTail := test.stdoutTail
            stderrTail := test.stderrTail
            error := test.error } }

/-- The note about one functional test. -/
def functionalTestNote (test : TestResult) : Str :=
  if test.status = str "pass" then
    str "functional test " ++ quote test.name ++ str " passed"
  else
    let detail := trimSpace test.error
    str "functional test " ++ quote test.name ++ str " failed: " ++
      (if detail = [] then str "exit=" ++ itoa test.exitCode.toInt else detail)

/-- The notes about the functional tests. -/
def functionalNotes (vr : ValidatorResult) : List Str :=
  if vr.functional.status = [] ∨ vr.functional.status = str "skipped" then []
  else
    (str "functional status: " ++ vr.functional.status) ::
      vr.functional.tests.map functionalTestNote

/-- Why the functional tests failed: the first required test that did not pass. -/
def functionalFailureReason (vr : ValidatorResult) : Str :=
  match vr.functional.tests.find? fun test => test.required && test.status ≠ str "pass" with
  | some test =>
    if trimSpace test.error ≠ [] then
      str "Required functional test " ++ quote test.name ++ str " failed: " ++ test.error
    else
      str "Required functional test " ++ quote test.name ++ str " failed with exit code " ++
        itoa test.exitCode.toInt ++ str "."
  | none => str "At least one required functional test failed."

/-! ### Capabilities -/

omit [UnicodeTables] in
/-- The note about a probe that did not succeed. -/
def probeNote (heading : Str) (probe : ProbeStatus) : List Str :=
  if probe.status ∈ [[], str "unknown", str "supported", str "inconclusive"] then []
  else if probe.errorCode = 0 ∧ probe.error = [] then [heading ++ str ": " ++ probe.status]
  else
    [heading ++ str ": " ++ probe.status ++ str " (code=" ++ itoa probe.errorCode.toInt ++
      str " err=" ++ probe.error ++ str ")"]

omit [UnicodeTables] in
/-- The notes about what the guest is not capable of. -/
def capabilityProbeNotes (vr : ValidatorResult) : List Str :=
  let caps := vr.capabilities
  (if !caps.bpftoolAvailable then
      [str "bpftool unavailable; used custom capability probes"]
    else if !caps.bpftoolProbeOK then
      [str "bpftool feature probe failed; used custom capability probes"]
    else []) ++
  (if caps.attachPrereqs.tracefs = str "missing" then
      [str "attach prereq missing: tracefs"] else []) ++
  (if caps.attachPrereqs.kprobeEvents = str "missing" then
      [str "attach prereq missing: kprobe_events"] else []) ++
  (if caps.attachPrereqs.tracepointEvents = str "missing" then
      [str "attach prereq missing: tracepoint events"] else []) ++
  probeNote (str "capability map.ringbuf") caps.mapTypes.ringbuf ++
  probeNote (str "capability map.perf_event_array") caps.mapTypes.perfEventArray ++
  probeNote (str "capability map.array") caps.mapTypes.array ++
  probeNote (str "capability map.hash") caps.mapTypes.hash ++
  probeNote (str "capability prog.tracepoint") caps.programTypes.tracepoint ++
  probeNote (str "capability prog.kprobe") caps.programTypes.kprobe ++
  probeNote (str "capability prog.tracing") caps.programTypes.tracing ++
  probeNote (str "capability prog.xdp") caps.programTypes.xdp

/-! ### Map types -/

omit [UnicodeTables] in
/-- The numbers that follow `found type = ` in a text whose first `skip` bytes have been
consumed. -/
def mapTypeMatches : Nat → Str → List Str
  | _, [] => []
  | skip + 1, _ :: s => mapTypeMatches skip s
  | 0, b :: s =>
    let lead := str "found type = "
    let digits := ((b :: s).drop lead.length).takeWhile isDecimal
    if lead.isPrefixOf (b :: s) && digits ≠ [] then
      digits :: mapTypeMatches (lead.length + digits.length - 1) s
    else mapTypeMatches 0 s

omit [UnicodeTables] in
/-- The name of a map type, blank if it has none here. -/
def mapTypeName (id : Int) : Str :=
  if id = 1 then str "hash"
  else if id = 2 then str "array"
  else if id = 4 then str "perf_event_array"
  else if id = 27 then str "ringbuf"
  else []

omit [UnicodeTables] in
/-- The notes about the map types the log mentions, each once. -/
def mapTypeHintNotes (libbpfLog : Str) : List Str :=
  ((mapTypeMatches 0 libbpfLog).filterMap fun digits => atoi (trimSpace digits)).eraseDups.map
    fun id =>
      if mapTypeName id = [] then str "observed map type id: " ++ itoa id
      else str "observed map type: " ++ mapTypeName id ++ str " (id=" ++ itoa id ++ str ")"

/-! ### Programs -/

def maxProgramLoadFailureNotes : Nat := 8

def maxProgramLoadLogChars : Nat := 360

omit [UnicodeTables] in
/-- The words of a text. -/
def fields (s : Str) : List Str :=
  (((runes s).splitOnP fun r => isSpace r.value).filter (· ≠ [])).map ofRunes

omit [UnicodeTables] in
/-- The end of a text, on one line. -/
def compactSingleLineTail (text : Str) (maxChars : Nat) : Str :=
  let compact := join (str " ") (fields text)
  let rs := runes compact
  if compact = [] then []
  else if maxChars = 0 ∨ rs.length ≤ maxChars then compact
  else
    str "..." ++ ofRunes ((rs.drop (rs.length - maxChars)).map fun r => .char r.value)

omit [UnicodeTables] in
/-- The notes about one program that failed to load. -/
def programLoadNotes (program : DiscoveredProgram) : List Str :=
  let trimmed := trimSpace program.name
  let name := if trimmed = [] then str "<unnamed>" else trimmed
  let sectionName := trimSpace program.section
  let logTail := compactSingleLineTail program.loadLog maxProgramLoadLogChars
  (str "program load failure: name=" ++ name ++
      (if sectionName = [] then [] else str " section=" ++ sectionName) ++
      (if program.loadErrno = 0 then [] else str " errno=" ++ itoa program.loadErrno.toInt)) ::
    (if logTail = [] then []
      else [str "program load verifier tail (" ++ name ++ str "): " ++ logTail])

omit [UnicodeTables] in
/-- The notes about the programs that failed to load, in detail for the first ones. -/
def perProgramLoadNotes (vr : ValidatorResult) : List Str :=
  let failures := vr.discovery.programs.filter fun p => trimSpace p.loadStatus = str "fail"
  (failures.take maxProgramLoadFailureNotes).flatMap programLoadNotes ++
    (if failures.length > maxProgramLoadFailureNotes then
      [str "program load failure details truncated: " ++
        itoa (failures.length - maxProgramLoadFailureNotes : Nat) ++ str " additional program(s)"]
    else [])

omit [UnicodeTables] in
/-- The sections of the programs of the artifact. -/
def discoveredProgramSections (vr : ValidatorResult) : List Str :=
  (vr.discovery.programs.map fun p => trimSpace p.section).filter (· ≠ [])

/-! ### Adaptations -/

omit [UnicodeTables] in
/-- The notes about the variants that were chosen. -/
def progVariantNotes (vr : ValidatorResult) : List Str :=
  vr.programVariants.map fun group =>
    if group.chosen = [] then
      str "program variant group " ++ group.group ++
        str ": no variant satisfied on this kernel (disabled: " ++
        join (str ", ") group.disabled ++ str ")"
    else
      str "program variant group " ++ group.group ++ str ": selected " ++ group.chosen ++
        (if group.disabled = [] then []
          else str " (disabled: " ++ join (str ", ") group.disabled ++ str ")")

omit [UnicodeTables] in
/-- The number of a field of a map fixup. -/
def showUInt32 (n : UInt32) : Str := itoa n.toNat

/-- The notes about the map fixups; other outcomes than these three are passed over. -/
def mapFixupNotes (vr : ValidatorResult) : List Str :=
  vr.mapFixups.flatMap fun fixup =>
    if fixup.status = str "applied" then
      [str "map fixup applied: " ++ fixup.name ++
        (if fixup.appliedEntries > 0 then
          str " max_entries=" ++ showUInt32 fixup.appliedEntries else []) ++
        (if fixup.innerRingbufBytes > 0 then
          str " inner_ringbuf_bytes=" ++ showUInt32 fixup.innerRingbufBytes else []) ++
        (if fixup.innerMapType > 0 then
          str " inner_map=type" ++ showUInt32 fixup.innerMapType ++ str "/" ++
            showUInt32 fixup.innerKeySize ++ str "/" ++ showUInt32 fixup.innerValueSize ++
            str "/" ++ showUInt32 fixup.innerMaxEntries
        else [])]
    else if fixup.status = str "map_not_found" then
      [str "map fixup skipped: map " ++ quote fixup.name ++ str " not found in artifact"]
    else if fixup.status = str "error" then
      [str "map fixup failed: " ++ fixup.name ++ str " (errno=" ++ itoa fixup.errno.toInt ++
        str ")"]
    else []

/-- The notes about the maps that were given a size. -/
def autoSizedMapNotes (vr : ValidatorResult) : List Str :=
  vr.autoSizedMaps.map fun m =>
    str "auto-sized runtime map " ++ quote m.name ++ str " to max_entries=" ++
      showUInt32 m.maxEntries ++ str " (shipped 0; loader sizes it at runtime)"

/-- The notes about the programs that were given a type. -/
def autoTypedProgramNotes (vr : ValidatorResult) : List Str :=
  vr.autoTypedPrograms.map fun p =>
    str "auto-typed program " ++ quote p.name ++ str " (section " ++ quote p.section ++
      str ") — set BPF program type the loader assigns, since libbpf could not infer it from the section name"

/-- The notes about the program-type overrides; other outcomes than these three are passed
over. -/
def progTypeOverrideNotes (vr : ValidatorResult) : List Str :=
  vr.programTypeOverrides.flatMap fun o =>
    if o.status = str "applied" then
      [str "program type override applied: " ++ quote o.selector]
    else if o.status = str "program_not_found" then
      [str "program type override skipped: no program or section " ++ quote o.selector ++
        str " in artifact"]
    else if o.status = str "error" then
      [str "program type override failed: " ++ quote o.selector]
    else []

/-- What is said about every result that could be read. -/
def resultNotes (vr : ValidatorResult) : List Str :=
  capabilityProbeNotes vr ++ mapTypeHintNotes vr.logs.libbpf ++ mapFixupNotes vr ++
    autoSizedMapNotes vr ++ autoTypedProgramNotes vr ++ progTypeOverrideNotes vr ++
    progVariantNotes vr ++ perProgramLoadNotes vr

omit [UnicodeTables] in
/-- The note about the attach phase. -/
def attachNote (vr : ValidatorResult) : Str :=
  str "attach status: " ++ vr.attach.status ++ str " (mode=" ++ vr.attach.mode ++
    str " attempted=" ++ itoa vr.attach.attempted.toInt ++ str " passed=" ++
    itoa vr.attach.passed.toInt ++ str " failed=" ++ itoa vr.attach.failed.toInt ++ str ")"

end Runner
