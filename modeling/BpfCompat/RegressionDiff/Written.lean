import BpfCompat.RegressionDiff.Evidence

/-!
# Reports that were written

What becomes of a report that is written as a document and read back.  Stray bytes of its
texts are replaced, and nothing else changes: a valid report stays valid
(`ReportValid.canon`), and every field whose absence matters is there
(`presenceOf_writtenReport`).
-/

namespace RegressionDiff

open Go Go.Json Go.Json.Fields Schema

variable [UnicodeTables]

/-! ### What only the raw document says -/

/-- The fields of a target after its requiredness cannot be mistaken for it. -/
theorem write_targetJSON (t : Target) :
  ∃ (γ : Type) (rest : Fields γ) (x : γ), rest.Avoids [str "required"] (str "required") ∧
    targetJSON.write t = .object ((field "profile_id" string).write t.profileID ++
      ((field "required" bool).write t.required ++ rest.write x))
  := by
  refine ⟨_, _, _, ?_, rfl⟩
  apply avoids_of_ascii (by decide)
  simp only [names_pair, names_field, names_omitempty]
  decide +kernel

/-- What only the raw document says about a target that was written. -/
theorem decode_targetPresence (t : Target) :
  targetPresenceJSON.decode (targetJSON.write t) = some { required := some t.required }
  := by
  obtain ⟨γ, rest, x, hrest, hwrite⟩ := write_targetJSON t
  have hprofile : (field "profile_id" string).Avoids [str "required"] (str "required") := by
    apply avoids_of_ascii (by decide)
    rw [names_field]
    decide
  have hread : readField [str "required"] ((field "profile_id" string).write t.profileID ++
      ((field "required" bool).write t.required ++ rest.write x)) (str "required")
      (readPointer false readBool) none = some (some t.required) := by
    rw [hprofile.readField_append, hrest.append_readField,
      readField_field (List.mem_singleton_self _)]
    exact (pointer bool bool_ne_null).read_write (some t.required)
  rw [hwrite]
  exact congrArg (Option.map _) hread

theorem decode_commandPresence (c : CommandInfo) :
  commandPresenceJSON.decode (commandInfoJSON.write c)
    = some { expectedExitCode := some c.expectedExitCode }
  := by
  have hinvocation : (field "invocation_sha256" string).Avoids [str "expected_exit_code"]
      (str "expected_exit_code") := by
    apply avoids_of_ascii (by decide)
    rw [names_field]
    decide
  have hbinary : (omitempty "binary" (pointer binaryIdentityJSON binaryIdentityJSON_ne_null)).Avoids
      [str "expected_exit_code"] (str "expected_exit_code") := by
    apply avoids_of_ascii (by decide)
    rw [names_omitempty]
    decide
  have hread : readField [str "expected_exit_code"]
      ((field "invocation_sha256" string).write c.invocationSHA256 ++
        ((field "expected_exit_code" int64).write c.expectedExitCode ++
          (omitempty "binary" (pointer binaryIdentityJSON binaryIdentityJSON_ne_null)).write c.binary))
      (str "expected_exit_code") (readPointer 0 readInt64) none
      = some (some c.expectedExitCode) := by
    rw [hinvocation.readField_append, hbinary.append_readField,
      readField_field (List.mem_singleton_self _)]
    exact (pointer int64 int64_ne_null).read_write (some c.expectedExitCode)
  exact congrArg (Option.map _) hread

/-- The fields of a report before its command. -/
def beforeCommand : Fields (Str × RunInfo × Artifact) :=
  .pair (field "schema_version" string) <|
    .pair (field "run" runInfoJSON) <|
    field "artifact" artifactJSON

/-- The fields of a report between its command and its targets. -/
def beforeTargets : Fields (Option BinaryIdentity × MatrixInfo) :=
  .pair (omitempty "validator" (pointer binaryIdentityJSON binaryIdentityJSON_ne_null)) <|
    field "matrix" matrixInfoJSON

/-- The fields of a report after its targets. -/
def afterTargets : Fields (SummaryInfo × Paths) :=
  .pair (field "summary" summaryInfoJSON) <|
    field "paths" pathsJSON

theorem write_reportJSON (r : ReportV01) :
  reportJSON.write r = .object
    (beforeCommand.write (r.schemaVersion, r.run, r.artifact) ++
      ((omitempty "command" (pointer commandInfoJSON commandInfoJSON_ne_null)).write r.command ++
      (beforeTargets.write (r.validator, r.matrix) ++
      ((omitempty "targets" (slice targetJSON)).write r.targets ++
      afterTargets.write (r.summary, r.paths)))))
  := by
  have h : reportJSON.write r = .object
      ((field "schema_version" string).write r.schemaVersion ++
      ((field "run" runInfoJSON).write r.run ++
      ((field "artifact" artifactJSON).write r.artifact ++
      ((omitempty "command" (pointer commandInfoJSON commandInfoJSON_ne_null)).write r.command ++
      ((omitempty "validator" (pointer binaryIdentityJSON binaryIdentityJSON_ne_null)).write r.validator ++
      ((field "matrix" matrixInfoJSON).write r.matrix ++
      ((omitempty "targets" (slice targetJSON)).write r.targets ++
      afterTargets.write (r.summary, r.paths)))))))) := rfl
  rw [h]
  simp only [beforeCommand, beforeTargets, Fields.pair, List.append_assoc]

/-- The names of the fields that are looked for in the raw document. -/
def presenceNames : List Str := [str "targets", str "command"]

theorem avoids_presenceNames {α : Type} {f : Fields α}
    (h : ∀ key ∈ f.names, (∀ b ∈ key, b < 128) ∧ @bindsTo asciiTables presenceNames key = none)
    (name : Str) :
  f.Avoids presenceNames name
  := by
  apply avoids_of_ascii (by decide)
  intro key hkey
  rw [(h key hkey).2]
  exact ⟨(h key hkey).1, nofun⟩

theorem avoids_beforeCommand (name : Str) :
  beforeCommand.Avoids presenceNames name
  := by
  apply avoids_presenceNames
  simp only [beforeCommand, names_pair, names_field]
  decide

theorem avoids_beforeTargets (name : Str) :
  beforeTargets.Avoids presenceNames name
  := by
  apply avoids_presenceNames
  simp only [beforeTargets, names_pair, names_field, names_omitempty]
  decide

theorem avoids_afterTargets (name : Str) :
  afterTargets.Avoids presenceNames name
  := by
  apply avoids_presenceNames
  simp only [afterTargets, names_pair, names_field]
  decide

/-- What only the raw document says about a report that was written. -/
theorem decode_rawPresence (r : ReportV01) :
  rawPresenceJSON.decode (reportJSON.write r) = some
    { targets := r.targets.map fun t => { required := some t.required }
      command := r.command.map fun c => { expectedExitCode := some c.expectedExitCode } }
  := by
  have hcommandField : (omitempty "command" (pointer commandInfoJSON commandInfoJSON_ne_null)).Avoids
      presenceNames (str "targets") := by
    apply avoids_of_ascii (by decide)
    rw [names_omitempty]
    decide
  have htargetsField : (omitempty "targets" (slice targetJSON)).Avoids
      presenceNames (str "command") := by
    apply avoids_of_ascii (by decide)
    rw [names_omitempty]
    decide
  rw [write_reportJSON]
  generalize hms : beforeCommand.write _ ++ _ = ms
  have htargets : readField presenceNames ms (str "targets") (slice targetPresenceJSON).read []
      = some (r.targets.map fun t => { required := some t.required }) := by
    rw [← hms, (avoids_beforeCommand _).readField_append, hcommandField.readField_append,
      (avoids_beforeTargets _).readField_append, (avoids_afterTargets _).append_readField,
      readField_omitempty (by decide)]
    cases r.targets with
    | nil => rfl
    | cons t targets => exact readElements_map decode_targetPresence (t :: targets)
  have hcommand : readField presenceNames ms (str "command")
      (pointer commandPresenceJSON commandPresenceJSON_ne_null).read none
      = some (r.command.map fun c => { expectedExitCode := some c.expectedExitCode }) := by
    rw [← hms, (avoids_beforeCommand _).readField_append, ← List.append_assoc,
      ← List.append_assoc, (avoids_afterTargets _).append_readField,
      htargetsField.append_readField, (avoids_beforeTargets _).append_readField,
      readField_omitempty (by decide)]
    cases r.command with
    | none => rfl
    | some c => exact congrArg (Option.map some) (decode_commandPresence c)
  have hread : (Fields.pair (field "targets" (slice targetPresenceJSON))
      (field "command" (pointer commandPresenceJSON commandPresenceJSON_ne_null))).read presenceNames ms ([], none)
      = some (r.targets.map fun t => { required := some t.required },
          r.command.map fun c => { expectedExitCode := some c.expectedExitCode }) := by
    simp only [Fields.pair, field, htargets, hcommand]
    rfl
  exact congrArg (Option.map _) hread

/-- Nothing is absent from a report that was written. -/
theorem presenceOf_writtenReport (r : ReportV01) :
  presenceOf (rawPresenceJSON.decode (reportJSON.write r)) r.targets.length
    = (r.targets.map fun _ => true, r.command.isSome)
  := by
  rw [decode_rawPresence, presenceOf, Prod.mk.injEq]
  constructor
  · apply List.ext_getElem
    · simp
    · intro i hi hi'
      rw [List.length_map] at hi'
      simp [hi']
  · cases r.command <;> rfl

/-! ### Validity survives -/

omit [UnicodeTables] in
/-- A status is recognised through stray bytes. -/
theorem verdictForStatus_toValidUTF8 (s : Str) :
  verdictForStatus (toValidUTF8 s) = verdictForStatus s
  := by
  have hpass : toValidUTF8 s = str "pass" ↔ s = str "pass" := toValidUTF8_eq_iff (by decide)
  have hinfra : toValidUTF8 s = str "infra_error" ↔ s = str "infra_error" :=
    toValidUTF8_eq_iff (by decide)
  have hunsupported : toValidUTF8 s = str "unsupported" ↔ s = str "unsupported" :=
    toValidUTF8_eq_iff (by decide)
  have hfail : toValidUTF8 s = str "fail" ↔ s = str "fail" := toValidUTF8_eq_iff (by decide)
  have hpartial : toValidUTF8 s = str "partial" ↔ s = str "partial" :=
    toValidUTF8_eq_iff (by decide)
  simp only [verdictForStatus, hpass, hinfra, hunsupported, hfail, hpartial]

omit [UnicodeTables] in
theorem knownVerdict_verdictForStatus (s : Str) :
  KnownVerdict (verdictForStatus s)
  := by
  rw [verdictForStatus]
  split_ifs <;> simp [KnownVerdict]

omit [UnicodeTables] in
theorem ascii_of_knownVerdict {v : Str} (hv : KnownVerdict v) :
  ∀ b ∈ v, b < 128
  := by
  have h : ∀ v ∈ [verdictCompatible, verdictIncompatible, verdictInfraError, verdictUnsupported],
      ∀ b ∈ v, b < 128 := by decide
  exact h v hv

omit [UnicodeTables] in
/-- A verdict is recognised through stray bytes. -/
theorem toValidUTF8_eq_verdict {s v : Str} (hv : KnownVerdict v) :
  toValidUTF8 s = v ↔ s = v
  := toValidUTF8_eq_iff (ascii_of_knownVerdict hv)

omit [UnicodeTables] in
/-- Two recordings that agree still agree. -/
theorem Agree.toValidUTF8 {status verdict : Str} (h : Agree status verdict) :
  Agree (toValidUTF8 status) (toValidUTF8 verdict)
  := by
  rw [Agree, trimSpace_toValidUTF8, trimSpace_toValidUTF8, toValidUTF8_eq_nil, toValidUTF8_eq_nil,
    verdictForStatus_toValidUTF8, eq_comm (a := verdictForStatus _),
    toValidUTF8_eq_verdict (knownVerdict_verdictForStatus _)]
  rw [Agree, eq_comm (a := verdictForStatus _)] at h
  exact h

theorem canon_pointer_bool (m : Option Bool) :
  (pointer bool bool_ne_null).canon m = m
  := Option.map_id'

/-- What an environment check is after it went through a document. -/
theorem canon_environmentCheckJSON (env : EnvironmentCheck) :
  environmentCheckJSON.canon env =
    { requestedKernelFamily := toValidUTF8 env.requestedKernelFamily
      observedKernel := toValidUTF8 env.observedKernel
      kernelFamilyMatch := env.kernelFamilyMatch
      imageSourceURL := toValidUTF8 env.imageSourceURL
      imageSHA256 := toValidUTF8 env.imageSHA256
      requestedDistro := toValidUTF8 env.requestedDistro
      requestedDistroVersion := toValidUTF8 env.requestedDistroVersion
      observedOSID := toValidUTF8 env.observedOSID
      observedOSVersionID := toValidUTF8 env.observedOSVersionID
      distroMatch := env.distroMatch }
  := by
  conv_rhs => rw [← canon_pointer_bool env.kernelFamilyMatch, ← canon_pointer_bool env.distroMatch]
  rfl

theorem EnvironmentConsistent.canon {env : EnvironmentCheck} (h : EnvironmentConsistent env) :
  EnvironmentConsistent (environmentCheckJSON.canon env)
  := by
  rw [canon_environmentCheckJSON]
  constructor
  · intro m hm
    rw [kernelFamilyMatch_toValidUTF8]
    exact h.kernel m hm
  · rw [distroMatch_toValidUTF8]
    exact h.distro

theorem TargetConsistent.canon {t : Target} (h : TargetConsistent t) :
  TargetConsistent (targetJSON.canon t)
  := by
  constructor
  · exact h.agree.toValidUTF8
  · intro env henv
    have henvironment : (targetJSON.canon t).environment
        = t.environment.map environmentCheckJSON.canon := rfl
    rw [henvironment, Option.map_eq_some_iff] at henv
    obtain ⟨env', henv', rfl⟩ := henv
    exact (h.environment env' henv').canon

theorem established_canon (t : Target) :
  establishedRequestedEnvironment (targetJSON.canon t) = establishedRequestedEnvironment t
  := by
  have henvironment : (targetJSON.canon t).environment
      = t.environment.map environmentCheckJSON.canon := rfl
  rw [establishedRequestedEnvironment, establishedRequestedEnvironment, henvironment]
  cases t.environment with
  | none => rfl
  | some env => rw [Option.map_some, canon_environmentCheckJSON]

section

variable (t : Target)

theorem verdict_canon {v : Str} (hv : KnownVerdict v) :
  (targetJSON.canon t).verdict = v ↔ t.verdict = v
  := toValidUTF8_eq_verdict hv

/-- What a target counts for in the roll-up survives. -/
theorem provesIncompatible_canon :
  provesIncompatible (targetJSON.canon t) = provesIncompatible t
  := by
  have hrequired : (targetJSON.canon t).required = t.required := rfl
  simp only [provesIncompatible, hrequired,
    verdict_canon t (show KnownVerdict verdictIncompatible by simp [KnownVerdict])]

theorem cannotEstablish_canon :
  cannotEstablish (targetJSON.canon t) = cannotEstablish t
  := by
  have hrequired : (targetJSON.canon t).required = t.required := rfl
  simp only [cannotEstablish, hrequired, established_canon,
    verdict_canon t (show KnownVerdict verdictInfraError by simp [KnownVerdict]),
    verdict_canon t (show KnownVerdict verdictUnsupported by simp [KnownVerdict]),
    verdict_canon t (show KnownVerdict verdictCompatible by simp [KnownVerdict])]

theorem answers_canon :
  answers (targetJSON.canon t) = answers t
  := by
  simp only [answers, established_canon, ne_eq,
    verdict_canon t (show KnownVerdict verdictInfraError by simp [KnownVerdict]),
    verdict_canon t (show KnownVerdict verdictUnsupported by simp [KnownVerdict])]

end

theorem runVerdict_canon (targets : List Target) :
  runVerdict (targets.map targetJSON.canon) = runVerdict targets
  := by
  rw [runVerdict_eq, runVerdict_eq, List.any_map, List.any_map]
  simp only [Function.comp_def, provesIncompatible_canon, cannotEstablish_canon]

theorem runComplete_canon (targets : List Target) :
  runComplete (targets.map targetJSON.canon) = runComplete targets
  := by
  rw [runComplete_eq, runComplete_eq, List.all_map]
  simp only [Function.comp_def, answers_canon]

omit [UnicodeTables] in
theorem knownVerdict_runVerdict (targets : List Target) :
  KnownVerdict (runVerdict targets)
  := by
  rw [runVerdict_eq]
  split_ifs <;> simp [KnownVerdict]

/-- The targets of a report that was written and read back. -/
theorem targets_canon (r : ReportV01) :
  (reportJSON.canon r).targets = r.targets.map targetJSON.canon
  := rfl

/-- A valid report whose targets have ASCII keys stays valid. -/
theorem ReportValid.canon {r : ReportV01} (hr : ReportValid r)
    (hids : ∀ t ∈ r.targets, ∀ b ∈ targetID t, b < 128) :
  ReportValid (reportJSON.canon r)
  := by
  have hid : ∀ t ∈ r.targets, targetID (targetJSON.canon t) = targetID t := by
    intro t ht
    have hprofile : (targetJSON.canon t).profileID = toValidUTF8 t.profileID := rfl
    rw [targetID, hprofile, trimSpace_toValidUTF8]
    exact toValidUTF8_of_ascii (hids t ht)
  have hmap : (r.targets.map targetJSON.canon).map targetID = r.targets.map targetID := by
    rw [List.map_map]
    apply List.map_congr_left
    intro t ht
    rw [Function.comp_apply, hid t ht]
  constructor
  · rw [targets_canon]
    constructor
    · intro t ht
      obtain ⟨t', ht', rfl⟩ := List.mem_map.mp ht
      rw [hid t' ht']
      exact hr.identified t' ht'
    · rw [hmap]
      exact hr.distinct
    · intro t ht
      obtain ⟨t', ht', rfl⟩ := List.mem_map.mp ht
      exact (hr.consistent t' ht').canon
  · rw [targets_canon, ne_eq, List.map_eq_nil_iff]
    exact hr.nonempty
  · have hverdict : (reportJSON.canon r).summary.verdict = toValidUTF8 r.summary.verdict := rfl
    have hcomplete : (reportJSON.canon r).summary.complete
        = (pointer bool bool_ne_null).canon r.summary.complete := rfl
    constructor
    · exact hr.summary.agree.toValidUTF8
    · rw [targets_canon, runVerdict_canon, hverdict, trimSpace_toValidUTF8, toValidUTF8_eq_nil,
        toValidUTF8_eq_verdict (knownVerdict_runVerdict _)]
      exact hr.summary.verdict
    · intro complete hc
      rw [targets_canon, runComplete_canon]
      rw [hcomplete, canon_pointer_bool] at hc
      exact hr.summary.complete complete hc

/-- A valid report with ASCII keys, read back from its document, passes the checks of the
comparison. -/
theorem ReportValid.accepted_writeJSON {r : ReportV01} (hr : ReportValid r)
    (hids : ∀ t ∈ r.targets, ∀ b ∈ targetID t, b < 128) (path side : Str) :
  (parseDocument (lexemes (writeJSON r))).bind reportJSON.decode = some (reportJSON.canon r) ∧
    validate (reportJSON.canon r) side = .ok () ∧
    validatePresence
      { report := reportJSON.canon r
        path := path
        side := side
        requiredPresent := (rawPresence (writeJSON r) (reportJSON.canon r).targets.length).1
        commandExitCodePresent :=
          (rawPresence (writeJSON r) (reportJSON.canon r).targets.length).2 } = .ok ()
  := by
  obtain ⟨hparse, hdecode⟩ := parseDocument_writeJSON r
  have hpresence : rawPresence (writeJSON r) (reportJSON.canon r).targets.length
      = (r.targets.map fun _ => true, r.command.isSome) := by
    rw [rawPresence, hparse, targets_canon, List.length_map]
    exact presenceOf_writtenReport r
  refine ⟨?_, ?_, ?_⟩
  · rw [hparse, Option.bind_some, hdecode]
  · rw [validate_eq_ok_iff]
    exact hr.canon hids
  · rw [validatePresence_eq_ok_iff, hpresence]
    intro i hi
    rw [targets_canon, List.length_map] at hi
    simp [hi]

end RegressionDiff
