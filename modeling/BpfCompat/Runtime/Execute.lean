import BpfCompat.Go.Json.Narrow
import BpfCompat.Runner.Honesty

/-!
# Execution on the host

The validator can be run on the host itself instead of in a guest.  Its result document is
then read by another structure, with fewer fields, and its status decided by another
cascade, which looks at the exit code too and does not mind white space.

Where the two ways give the same document the same meaning is `host_agrees_iff`.
-/

namespace Runtime

open Go Go.Json Go.Json.Fields Matrices Runner

/-- The result of the validator, as far as the host execution reads it. -/
structure RuntimeValidatorResult where
  status : Str := []
  hostRelease : Str := []
  load : ProbeStatus := {}
  attach : AttachResult := {}
  btf : BTFResult := {}
  /-- The status and the error code of the probe for tracing programs. -/
  tracing : Str × Int64 := ([], 0)
  /-- The sections of the programs. -/
  sections : List Str := []
  libbpfLog : Str := []
deriving DecidableEq

section

variable [UnicodeTables]

/-- A structure with one field. -/
def only {α : Type} (name : String) (c : Codec α) : Codec α :=
  struct (field name c) (Equiv.refl α) (by simp)

def tracingJSON : Codec (Str × Int64) :=
  struct (.pair (field "status" string) (field "error_code" int64)) (Equiv.refl _)
    (by simp [str_inj])

def runtimeValidatorResultJSON : Codec RuntimeValidatorResult :=
  struct
    (.pair (field "status" string) <|
      .pair (field "host" (only "release" string)) <|
      .pair (field "load" probeStatusJSON) <|
      .pair (field "attach" attachResultJSON) <|
      .pair (field "btf" btfResultJSON) <|
      .pair (field "capabilities" (only "program_types" (only "tracing" tracingJSON))) <|
      .pair (field "discovery" (only "programs" (slice (only "section" string)))) <|
      field "logs" (only "libbpf" string))
    ⟨fun r => (r.status, r.hostRelease, r.load, r.attach, r.btf, r.tracing, r.sections,
        r.libbpfLog),
      fun (status, hostRelease, load, attach, btf, tracing, sections, libbpfLog) =>
        { status, hostRelease, load, attach, btf, tracing, sections, libbpfLog },
      fun _ => rfl, fun _ => rfl⟩
    (by simp [str_inj])

def parseRuntimeValidatorResult (data : Str) : Option RuntimeValidatorResult :=
  (parseDocument (lexemes data)).bind runtimeValidatorResultJSON.decode

/-- The result at a path, given what the file there holds and the text with which the decoder
refuses a document. -/
def readRuntimeValidatorResult (explain : Str → Str) (file : Except Str Str) :
    Except Str RuntimeValidatorResult :=
  match file with
  | .error reason => .error (str "read validator result: " ++ reason)
  | .ok data =>
    match parseRuntimeValidatorResult data with
    | none => .error (str "parse validator result: " ++ explain data)
    | some result => .ok result

/-! ### The status -/

structure ExecuteValidatorSummary where
  status : Str := []
  loadStatus : Str := []
  loadErrorCode : Int64 := 0
  loadError : Str := []
  attachMode : Str := []
  attachStatus : Str := []
  attachAttempted : Int64 := 0
  attachPassed : Int64 := 0
  attachFailed : Int64 := 0
  kernelBTFAvailable : Bool := false
  artifactHasBTF : Bool := false
  artifactHasBTFExt : Bool := false
deriving DecidableEq

/-- What the execution comes to once the command has run. -/
structure ExecuteResult where
  status : Str := []
  exitCode : Int64
  stderr : Str
  validator : ExecuteValidatorSummary := {}
  classification : Option ClassifierResult := none
  notes : List Str := []

def summarize (vr : RuntimeValidatorResult) : ExecuteValidatorSummary where
  status := trimSpace vr.status
  loadStatus := trimSpace vr.load.status
  loadErrorCode := vr.load.errorCode
  loadError := trimSpace vr.load.error
  attachMode := trimSpace vr.attach.mode
  attachStatus := trimSpace vr.attach.status
  attachAttempted := vr.attach.attempted
  attachPassed := vr.attach.passed
  attachFailed := vr.attach.failed
  kernelBTFAvailable := vr.btf.kernelBTFAvailable
  artifactHasBTF := vr.btf.artifactHasBTF
  artifactHasBTFExt := vr.btf.artifactHasBTFExt

omit [UnicodeTables] in
/-- The status of an execution whose result could be read. -/
def executeStatus (validator : ExecuteValidatorSummary) (exitCode : Int64) : Str :=
  if validator.status = str "pass" ∧ validator.loadStatus = str "pass" ∧ exitCode = 0 then
    str "pass"
  else if validator.status = str "fail" ∨ validator.loadStatus = str "fail" ∨ exitCode = 2 then
    str "fail"
  else str "error"

def runtimeClassifierInput (vr : RuntimeValidatorResult) : ClassifierInput where
  loadStatus := vr.load.status
  loadErrorCode := vr.load.errorCode
  loadError := vr.load.error
  attachStatus := vr.attach.status
  attachMode := vr.attach.mode
  kernelBTFAvailable := vr.btf.kernelBTFAvailable
  artifactHasBTF := vr.btf.artifactHasBTF
  artifactHasBTFExt := vr.btf.artifactHasBTFExt
  libbpfLog := vr.libbpfLog
  kernelRelease := vr.hostRelease
  programSections := (vr.sections.map trimSpace).filter (· ≠ [])
  tracingProbeStatus := vr.tracing.1
  tracingProbeError := vr.tracing.2

/-- The end of `ExecuteArtifactOnHost`: what is made of the exit code of the command, of what it
said and of the result it left.  A command that exits with a code other than zero is an error of
the command, one that cannot be run at all does not come here. -/
def executeOutcome (classify : ClassifierInput → ClassifierResult) (explain : Str → Str)
    (exitCode : Int64) (stderr : Str) (file : Except Str Str) : ExecuteResult :=
  let stderr := trimSpace stderr
  match readRuntimeValidatorResult explain file with
  | .error err =>
    { status := str "error"
      exitCode
      stderr
      notes := [str "validator result unavailable: " ++ err] ++
        (if stderr ≠ [] then [str "validator stderr captured"] else []) ++
        if exitCode ≠ 0 then [str "validator command exited non-zero"] else [] }
  | .ok vr =>
    let validator := summarize vr
    let status := executeStatus validator exitCode
    let cl := classify (runtimeClassifierInput vr)
    { status
      exitCode
      stderr
      validator
      classification := if status = str "fail" then some cl else none
      notes :=
        (if status = str "fail" then
          [str "classification: " ++ cl.code ++ str " (" ++ cl.confidence ++ str ")"] else []) ++
        if status = str "error" ∧ stderr ≠ [] then
          [str "validator returned unexpected status; check stderr and result JSON"] else [] }

/-! ### The host reads less -/

omit [UnicodeTables] in
/-- What the host execution keeps of a validator result. -/
def hostView (vr : ValidatorResult) : RuntimeValidatorResult where
  status := vr.status
  hostRelease := vr.host.release
  load := vr.load
  attach := vr.attach
  btf := vr.btf
  tracing := (vr.capabilities.programTypes.tracing.status,
    vr.capabilities.programTypes.tracing.errorCode)
  sections := vr.discovery.programs.map (·.section)
  libbpfLog := vr.logs.libbpf

theorem standsAlone_singleton (name : Str) :
  StandsAlone [name] name
  := ⟨List.mem_singleton_self name, fun _ hn _ => List.mem_singleton.mp hn⟩

theorem narrows_release :
  Narrows hostResultJSON.read (only "release" string).read (·.release)
  := by
  have hrelease : StandsAlone
      [str "sysname", str "nodename", str "release", str "version", str "machine"]
      (str "release") := standsAlone_of_ascii (by decide) (by decide +kernel) (by decide)
  apply narrows_struct
  intro ms x y h
  simp only [pair_read_eq_some_iff] at h
  exact (Narrows.refl string.read).readField hrelease (standsAlone_singleton _) h.2.2.1

theorem narrows_tracing :
  Narrows probeStatusJSON.read tracingJSON.read fun p => (p.status, p.errorCode)
  := by
  have halone : ∀ name ∈ [str "status", str "error_code", str "error"],
      StandsAlone [str "status", str "error_code", str "error"] name :=
    fun _ => standsAlone_of_ascii (by decide) (by decide +kernel)
  have hstatus := halone (str "status") (by decide)
  have hcode := halone (str "error_code") (by decide)
  have hsub : [str "status", str "error_code"] ⊆ [str "status", str "error_code", str "error"] := by
    decide
  apply narrows_struct
  intro ms x y h
  simp only [pair_read_eq_some_iff] at h
  rw [pair_read_eq_some_iff]
  constructor
  · exact (Narrows.refl string.read).readField hstatus (hstatus.subset hsub (by decide)) h.1
  · exact (Narrows.refl int64.read).readField hcode (hcode.subset hsub (by decide)) h.2.1

theorem narrows_programTypes :
  Narrows programTypesJSON.read (only "tracing" tracingJSON).read
    fun p => (p.tracing.status, p.tracing.errorCode)
  := by
  have htracing : StandsAlone [str "tracepoint", str "kprobe", str "tracing", str "xdp"]
      (str "tracing") := standsAlone_of_ascii (by decide) (by decide +kernel) (by decide)
  apply narrows_struct
  intro ms x y h
  simp only [pair_read_eq_some_iff] at h
  exact narrows_tracing.readField htracing (standsAlone_singleton _) h.2.2.1

theorem narrows_capabilities :
  Narrows capabilitiesJSON.read (only "program_types" (only "tracing" tracingJSON)).read
    fun c => (c.programTypes.tracing.status, c.programTypes.tracing.errorCode)
  := by
  have htypes : StandsAlone [str "bpftool_available", str "bpftool_probe_ok",
      str "bpftool_probe_output_path", str "map_types", str "program_types", str "attach_prereqs"]
      (str "program_types") := standsAlone_of_ascii (by decide) (by decide +kernel) (by decide)
  apply narrows_struct
  intro ms x y h
  simp only [pair_read_eq_some_iff] at h
  exact narrows_programTypes.readField htypes (standsAlone_singleton _) h.2.2.2.2.1

theorem narrows_section :
  Narrows discoveredProgramJSON.read (only "section" string).read (·.section)
  := by
  have hsection : StandsAlone [str "name", str "section", str "attach_status", str "attach_error",
      str "load_status", str "load_errno", str "load_log"] (str "section") :=
    standsAlone_of_ascii (by decide) (by decide +kernel) (by decide)
  apply narrows_struct
  intro ms x y h
  simp only [pair_read_eq_some_iff] at h
  exact (Narrows.refl string.read).readField hsection (standsAlone_singleton _) h.2.1

theorem narrows_discovery :
  Narrows discoveryJSON.read (only "programs" (slice (only "section" string))).read
    fun d => d.programs.map (·.section)
  := by
  apply narrows_struct
  intro ms x y h
  exact (narrows_section.readSlice rfl).readField (standsAlone_singleton _)
    (standsAlone_singleton _) h

theorem narrows_logs :
  Narrows logsJSON.read (only "libbpf" string).read (·.libbpf)
  := by
  apply narrows_struct
  intro ms x y h
  exact (Narrows.refl string.read).readField (standsAlone_singleton _) (standsAlone_singleton _) h

omit [UnicodeTables] in
/-- The members of the document that are read in a guest. -/
def guestNames : List Str :=
  [str "schema_version", str "status", str "host", str "load", str "attach", str "functional",
    str "btf", str "capabilities", str "program_variants", str "map_fixups", str "auto_sized_maps",
    str "auto_typed_programs", str "program_type_overrides", str "discovery", str "logs"]

omit [UnicodeTables] in
/-- The members of the document that are read on the host. -/
def hostNames : List Str :=
  [str "status", str "host", str "load", str "attach", str "btf", str "capabilities",
    str "discovery", str "logs"]

theorem readField_guest {α β : Type} {read : Reader α} {read' : Reader β} {π : α → β}
    (h : Narrows read read' π) {name : Str} (hname : name ∈ hostNames) {ms : List (Str × Value)}
    {x y : α} (hy : readField guestNames ms name read x = some y) :
  readField hostNames ms name read' (π x) = some (π y)
  := by
  have hsub : hostNames ⊆ guestNames := by decide
  have halone : StandsAlone guestNames name :=
    standsAlone_of_ascii (by decide) (by decide +kernel) (hsub hname)
  exact h.readField halone (halone.subset hsub hname) hy

/-- A document that can be read in a guest can be read on the host, to the same effect. -/
theorem narrows_validatorResult :
  Narrows validatorResultJSON.read runtimeValidatorResultJSON.read hostView
  := by
  apply narrows_struct
  intro ms x y h
  simp only [pair_read_eq_some_iff] at h
  simp only [pair_read_eq_some_iff]
  obtain ⟨-, hstatus, hhost, hload, hattach, -, hbtf, hcapabilities, -, -, -, -, -, hdiscovery,
    hlogs⟩ := h
  refine ⟨readField_guest (Narrows.refl string.read) (by decide) hstatus,
    readField_guest narrows_release (by decide) hhost,
    readField_guest (Narrows.refl probeStatusJSON.read) (by decide) hload,
    readField_guest (Narrows.refl attachResultJSON.read) (by decide) hattach,
    readField_guest (Narrows.refl btfResultJSON.read) (by decide) hbtf,
    readField_guest narrows_capabilities (by decide) hcapabilities,
    readField_guest narrows_discovery (by decide) hdiscovery,
    readField_guest narrows_logs (by decide) hlogs⟩

theorem parseRuntimeValidatorResult_of_guest {data : Str} {vr : ValidatorResult}
    (h : parseValidatorResult data = some vr) :
  parseRuntimeValidatorResult data = some (hostView vr)
  := by
  rw [parseValidatorResult, Option.bind_eq_some_iff] at h
  obtain ⟨v, hv, hvr⟩ := h
  rw [parseRuntimeValidatorResult, hv, Option.bind_some]
  exact narrows_validatorResult v _ vr hvr

/-! ### Where they agree -/

omit [UnicodeTables] in
/-- Two statuses say pass together, and fail together. -/
def Agree (guest host : Str) : Prop :=
  (guest = str "pass" ↔ host = str "pass") ∧ (guest = str "fail" ↔ host = str "fail")

/-- The host execution makes neither a pass nor a failure of the statuses and the exit code. -/
def Undecided (status loadStatus : Str) (exitCode : Int64) : Prop :=
  trimSpace status ≠ str "fail" ∧ trimSpace loadStatus ≠ str "fail" ∧ exitCode ≠ 2
    ∧ ¬ (trimSpace status = str "pass" ∧ trimSpace loadStatus = str "pass" ∧ exitCode = 0)

/-- A document that says pass comes with exit code zero.  One that says neither pass nor fail to the
letter, or cannot be read in a guest, does not say so with white space or by the exit code. -/
def Unequivocal (data : Str) (exitCode : Int64) : Prop :=
  match parseValidatorResult data with
  | some vr =>
    if vr.load.status = str "pass" ∧ vr.status = str "pass" then exitCode = 0
    else vr.load.status = str "fail" ∨ vr.status = str "fail"
      ∨ Undecided vr.status vr.load.status exitCode
  | none =>
    ∀ vr, parseRuntimeValidatorResult data = some vr → Undecided vr.status vr.load.status exitCode

omit [UnicodeTables] in
theorem executeStatus_eq_pass_iff {validator : ExecuteValidatorSummary} {exitCode : Int64} :
  executeStatus validator exitCode = str "pass"
    ↔ validator.status = str "pass" ∧ validator.loadStatus = str "pass" ∧ exitCode = 0
  := by
  rw [executeStatus]
  split_ifs with hpass hfail
  · exact iff_of_true rfl hpass
  · exact iff_of_false (by decide) hpass
  · exact iff_of_false (by decide) hpass

omit [UnicodeTables] in
theorem executeStatus_eq_fail_iff {validator : ExecuteValidatorSummary} {exitCode : Int64} :
  executeStatus validator exitCode = str "fail"
    ↔ ¬ (validator.status = str "pass" ∧ validator.loadStatus = str "pass" ∧ exitCode = 0)
      ∧ (validator.status = str "fail" ∨ validator.loadStatus = str "fail" ∨ exitCode = 2)
  := by
  rw [executeStatus]
  split_ifs with hpass hfail
  · exact iff_of_false (by decide) fun h => h.1 hpass
  · exact iff_of_true rfl ⟨hpass, hfail⟩
  · exact iff_of_false (by decide) fun h => hfail h.2

omit [UnicodeTables] in
theorem undecided_iff {vr : RuntimeValidatorResult} {exitCode : Int64} :
  Undecided vr.status vr.load.status exitCode
    ↔ executeStatus (summarize vr) exitCode ≠ str "pass"
      ∧ executeStatus (summarize vr) exitCode ≠ str "fail"
  := by
  rw [Ne, Ne, executeStatus_eq_pass_iff, executeStatus_eq_fail_iff, Undecided, summarize]
  tauto

omit [UnicodeTables] in
/-- A status that says neither pass nor fail agrees with those that do not either. -/
theorem agree_infra_iff {host : Str} :
  Agree (str "infra_error") host ↔ host ≠ str "pass" ∧ host ≠ str "fail"
  := by
  have hpass : str "infra_error" ≠ str "pass" := by decide
  have hfail : str "infra_error" ≠ str "fail" := by decide
  rw [Agree]
  simp only [hpass, hfail, false_iff]

omit [UnicodeTables] in
/-- When the status of a readable document in a guest agrees with that on the host. -/
theorem agree_of_readable {vr : ValidatorResult} {exitCode : Int64} :
  Agree
      (if vr.load.status = str "pass" ∧ vr.status = str "pass" then str "pass"
        else if vr.load.status = str "fail" ∨ vr.status = str "fail" then str "fail"
        else str "infra_error")
      (executeStatus (summarize (hostView vr)) exitCode)
    ↔ if vr.load.status = str "pass" ∧ vr.status = str "pass" then exitCode = 0
      else vr.load.status = str "fail" ∨ vr.status = str "fail"
        ∨ Undecided vr.status vr.load.status exitCode
  := by
  have htrimPass : trimSpace (str "pass") = str "pass" := trimSpace_of_graphic (by decide)
  have htrimFail : trimSpace (str "fail") = str "fail" := trimSpace_of_graphic (by decide)
  have hne : str "pass" ≠ str "fail" := by decide
  by_cases hpass : vr.load.status = str "pass" ∧ vr.status = str "pass"
  · rw [if_pos hpass, if_pos hpass, Agree, executeStatus_eq_pass_iff, executeStatus_eq_fail_iff]
    simp only [summarize, hostView, hpass, htrimPass, hne, true_and, false_or, true_iff, false_iff]
    tauto
  · rw [if_neg hpass, if_neg hpass]
    by_cases hfail : vr.load.status = str "fail" ∨ vr.status = str "fail"
    · -- white space cannot hide a failure that is said to the letter
      have hhost : executeStatus (summarize (hostView vr)) exitCode = str "fail" := by
        rw [executeStatus_eq_fail_iff]
        simp only [summarize, hostView]
        rcases hfail with h | h
        · simp [h, htrimFail, hne.symm]
        · simp [h, htrimFail, hne.symm]
      rw [if_pos hfail, hhost, ← or_assoc]
      exact iff_of_true ⟨Iff.rfl, Iff.rfl⟩ (.inl hfail)
    · rw [if_neg hfail, agree_infra_iff, ← undecided_iff, ← or_assoc]
      exact (or_iff_right hfail).symm

/-- The two ways agree on a document and an exit code exactly when these are unequivocal. -/
theorem host_agrees_iff (world : Runner.World) (matrixProfile : MatrixProfile) (profile : Vm.Profile)
    (exec : Vm.ExecutionResult) (target : Schema.Target) (stderr data : Str)
    (hran : exec.status ≠ str "infra_error") (hpath : exec.validatorResultPath ≠ [])
    (hfile : world.files exec.validatorResultPath = .ok data) :
  Agree (evaluateArtifactTarget world matrixProfile profile exec target).target.status
      (executeOutcome world.classify world.explain exec.validatorExitCode stderr (.ok data)).status
    ↔ Unequivocal data exec.validatorExitCode
  := by
  simp only [evaluateArtifactTarget, hran, hpath, if_false, readValidatorResult, hfile,
    executeOutcome, readRuntimeValidatorResult, Unequivocal]
  cases hparse : parseValidatorResult data with
  | some vr =>
      rw [parseRuntimeValidatorResult_of_guest hparse]
      simp only [status_evaluateResult]
      exact agree_of_readable
  | none =>
      cases hhost : parseRuntimeValidatorResult data with
      | none =>
          simp only [infraTarget, agree_infra_iff]
          apply iff_of_true
          · decide
          · intro vr hvr
            cases hvr
      | some vr =>
          simp only [infraTarget, agree_infra_iff, Option.some.injEq, forall_eq', undecided_iff]

end

section

attribute [local instance] asciiTables

/-- The result of a validator that loaded the artifact. -/
def passing : Str := str "\x7b\"status\":\"pass\",\"load\":\x7b\"status\":\"pass\"\x7d\x7d"

/-- A world in which every file is such a result. -/
def passingWorld : Runner.World where
  profilePath := .ok
  loadProfile := .error
  abs := .ok
  execute := fun _ _ => {}
  files := fun _ => .ok passing
  explain := id
  classify := fun _ => ⟨[], [], [], []⟩

/-- A guest in which the validator left its result and exited with a code. -/
def exited (exitCode : Int64) : Vm.ExecutionResult :=
  { status := str "pass"
    validatorResultPath := str "validator-result.json"
    validatorExitCode := exitCode }

theorem unequivocal_passing :
  Unequivocal passing 0
  := by
  have hparse : parseValidatorResult passing
      = some { status := str "pass", load := { status := str "pass" } } := by decide +kernel
  simp [Unequivocal, hparse]

theorem host_agrees_passing :
  Agree (evaluateArtifactTarget passingWorld {} {} (exited 0) {}).target.status
    (executeOutcome passingWorld.classify passingWorld.explain 0 [] (.ok passing)).status
  := (host_agrees_iff passingWorld {} {} (exited 0) {} [] passing (by decide) (by decide) rfl).mpr
    unequivocal_passing

/-- A validator that reports a pass and then dies passes in a guest only. -/
theorem exit_code_overlooked :
  ¬ ∀ (world : Runner.World) (matrixProfile : MatrixProfile) (profile : Vm.Profile)
    (exec : Vm.ExecutionResult) (target : Schema.Target) (stderr data : Str),
    exec.status ≠ str "infra_error" → exec.validatorResultPath ≠ [] →
    world.files exec.validatorResultPath = .ok data →
    Agree (evaluateArtifactTarget world matrixProfile profile exec target).target.status
      (executeOutcome world.classify world.explain exec.validatorExitCode stderr (.ok data)).status
  := by
  intro h
  have hagree := h passingWorld {} {} (exited 1) {} [] passing (by decide +kernel) (by decide +kernel) rfl
  have hguest : (evaluateArtifactTarget passingWorld {} {} (exited 1) {}).target.status
      = str "pass" := by decide
  have hhost : (executeOutcome passingWorld.classify passingWorld.explain (exited 1).validatorExitCode
      [] (.ok passing)).status ≠ str "pass" := by decide +kernel
  exact hhost (hagree.1.mp hguest)

end

end Runtime
