import BpfCompat.Go.Json.Codec
import BpfCompat.Schema.Report

/-!
# The run report as a document

The field tags of the report structures: under which name a field stands in a document, and
whether it is left out when it is empty.
-/

namespace Schema

open Go Go.Json Go.Json.Fields

variable [UnicodeTables]

def runInfoJSON : Codec RunInfo :=
  struct
    (.pair (field "id" string) <|
      field "started_at" string)
    ⟨fun r => (r.id, r.startedAt), fun (id, startedAt) => { id, startedAt },
      fun _ => rfl, fun _ => rfl⟩
    (by simp [str_inj])

def artifactJSON : Codec Artifact :=
  struct
    (.pair (field "path" string) <|
      .pair (omitempty "source" string) <|
      .pair (omitempty "source_digest" string) <|
      .pair (field "basename" string) <|
      .pair (field "sha256" string) <|
      field "size_bytes" int64)
    ⟨fun a => (a.path, a.source, a.sourceDigest, a.baseName, a.sha256, a.sizeBytes),
      fun (path, source, sourceDigest, baseName, sha256, sizeBytes) =>
        { path, source, sourceDigest, baseName, sha256, sizeBytes },
      fun _ => rfl, fun _ => rfl⟩
    (by simp [str_inj])

def binaryIdentityJSON : Codec BinaryIdentity :=
  struct
    (.pair (field "basename" string) <|
      .pair (field "sha256" string) <|
      field "size_bytes" int64)
    ⟨fun b => (b.baseName, b.sha256, b.sizeBytes),
      fun (baseName, sha256, sizeBytes) => { baseName, sha256, sizeBytes },
      fun _ => rfl, fun _ => rfl⟩
    (by simp [str_inj])

theorem binaryIdentityJSON_ne_null (x : BinaryIdentity) :
  binaryIdentityJSON.write x ≠ .null
  := struct_write_ne_null x

def commandInfoJSON : Codec CommandInfo :=
  struct
    (.pair (field "invocation_sha256" string) <|
      .pair (field "expected_exit_code" int64) <|
      omitempty "binary" (pointer binaryIdentityJSON binaryIdentityJSON_ne_null))
    ⟨fun c => (c.invocationSHA256, c.expectedExitCode, c.binary),
      fun (invocationSHA256, expectedExitCode, binary) =>
        { invocationSHA256, expectedExitCode, binary },
      fun _ => rfl, fun _ => rfl⟩
    (by simp [str_inj])

theorem commandInfoJSON_ne_null (x : CommandInfo) :
  commandInfoJSON.write x ≠ .null
  := struct_write_ne_null x

def matrixInfoJSON : Codec MatrixInfo :=
  struct
    (.pair (field "path" string) <|
      .pair (omitempty "name" string) <|
      field "profiles" (slice string))
    ⟨fun m => (m.path, m.name, m.profiles), fun (path, name, profiles) => { path, name, profiles },
      fun _ => rfl, fun _ => rfl⟩
    (by simp [str_inj])

def summaryInfoJSON : Codec SummaryInfo :=
  struct
    (.pair (field "status" string) <|
      .pair (omitempty "verdict" string) <|
      .pair (omitempty "complete" (pointer bool bool_ne_null)) <|
      omitempty "notes" (slice string))
    ⟨fun s => (s.status, s.verdict, s.complete, s.notes),
      fun (status, verdict, complete, notes) => { status, verdict, complete, notes },
      fun _ => rfl, fun _ => rfl⟩
    (by simp [str_inj])

def environmentCheckJSON : Codec EnvironmentCheck :=
  struct
    (.pair (omitempty "requested_kernel_family" string) <|
      .pair (omitempty "observed_kernel" string) <|
      .pair (omitempty "kernel_family_match" (pointer bool bool_ne_null)) <|
      .pair (omitempty "image_source_url" string) <|
      .pair (omitempty "image_sha256" string) <|
      .pair (omitempty "requested_distro" string) <|
      .pair (omitempty "requested_distro_version" string) <|
      .pair (omitempty "observed_os_id" string) <|
      .pair (omitempty "observed_os_version_id" string) <|
      omitempty "distro_match" (pointer bool bool_ne_null))
    ⟨fun e => (e.requestedKernelFamily, e.observedKernel, e.kernelFamilyMatch, e.imageSourceURL,
        e.imageSHA256, e.requestedDistro, e.requestedDistroVersion, e.observedOSID,
        e.observedOSVersionID, e.distroMatch),
      fun (requestedKernelFamily, observedKernel, kernelFamilyMatch, imageSourceURL, imageSHA256,
          requestedDistro, requestedDistroVersion, observedOSID, observedOSVersionID,
          distroMatch) =>
        { requestedKernelFamily, observedKernel, kernelFamilyMatch, imageSourceURL, imageSHA256,
          requestedDistro, requestedDistroVersion, observedOSID, observedOSVersionID,
          distroMatch },
      fun _ => rfl, fun _ => rfl⟩
    (by simp [str_inj])

theorem environmentCheckJSON_ne_null (x : EnvironmentCheck) :
  environmentCheckJSON.write x ≠ .null
  := struct_write_ne_null x

omit [UnicodeTables] in
theorem nodup_targetBTF :
  [str "kernel_btf_available", str "artifact_has_btf", str "artifact_has_btf_ext"].Nodup
  := by
  simp [str_inj]

def targetBTFJSON : Codec TargetBTF :=
  struct
    (.pair (field "kernel_btf_available" bool) <|
      .pair (field "artifact_has_btf" bool) <|
      field "artifact_has_btf_ext" bool)
    ⟨fun b => (b.kernelBTFAvailable, b.artifactHasBTF, b.artifactHasBTFExt),
      fun (kernelBTFAvailable, artifactHasBTF, artifactHasBTFExt) =>
        { kernelBTFAvailable, artifactHasBTF, artifactHasBTFExt },
      fun _ => rfl, fun _ => rfl⟩
    nodup_targetBTF

theorem targetBTFJSON_ne_null (x : TargetBTF) :
  targetBTFJSON.write x ≠ .null
  := struct_write_ne_null x

def targetEnvJSON : Codec TargetEnv :=
  struct
    (.pair (omitempty "distro" string) <|
      .pair (omitempty "version" string) <|
      .pair (omitempty "kernel_family" string) <|
      .pair (omitempty "kernel" string) <|
      omitempty "arch" string)
    ⟨fun e => (e.distro, e.version, e.kernelFamily, e.kernel, e.arch),
      fun (distro, version, kernelFamily, kernel, arch) =>
        { distro, version, kernelFamily, kernel, arch },
      fun _ => rfl, fun _ => rfl⟩
    (by simp [str_inj])

theorem targetEnvJSON_ne_null (x : TargetEnv) :
  targetEnvJSON.write x ≠ .null
  := struct_write_ne_null x

def validationJSON : Codec Validation :=
  struct
    (.pair (omitempty "load_status" string) <|
      .pair (omitempty "load_error_code" int64) <|
      .pair (omitempty "load_error" string) <|
      .pair (omitempty "attach_mode" string) <|
      .pair (omitempty "attach_status" string) <|
      .pair (omitempty "attach_attempted" int64) <|
      .pair (omitempty "attach_passed" int64) <|
      omitempty "attach_failed" int64)
    ⟨fun v => (v.loadStatus, v.loadErrorCode, v.loadError, v.attachMode, v.attachStatus,
        v.attachAttempted, v.attachPassed, v.attachFailed),
      fun (loadStatus, loadErrorCode, loadError, attachMode, attachStatus, attachAttempted,
          attachPassed, attachFailed) =>
        { loadStatus, loadErrorCode, loadError, attachMode, attachStatus, attachAttempted,
          attachPassed, attachFailed },
      fun _ => rfl, fun _ => rfl⟩
    (by simp [str_inj])

theorem validationJSON_ne_null (x : Validation) :
  validationJSON.write x ≠ .null
  := struct_write_ne_null x

omit [UnicodeTables] in
theorem nodup_functionalTest :
  [str "name", str "required", str "status", str "command", str "timeout_seconds",
    str "expected_exit_code", str "exit_code", str "timed_out", str "stdout_tail",
    str "stderr_tail", str "error"].Nodup
  := by
  simp [str_inj]

def functionalTestJSON : Codec FunctionalTest :=
  struct
    (.pair (omitempty "name" string) <|
      .pair (field "required" bool) <|
      .pair (omitempty "status" string) <|
      .pair (omitempty "command" string) <|
      .pair (omitempty "timeout_seconds" int64) <|
      .pair (field "expected_exit_code" int64) <|
      .pair (field "exit_code" int64) <|
      .pair (omitempty "timed_out" bool) <|
      .pair (omitempty "stdout_tail" string) <|
      .pair (omitempty "stderr_tail" string) <|
      omitempty "error" string)
    ⟨fun t => (t.name, t.required, t.status, t.command, t.timeoutSeconds, t.expectedExitCode,
        t.exitCode, t.timedOut, t.stdoutTail, t.stderrTail, t.error),
      fun (name, required, status, command, timeoutSeconds, expectedExitCode, exitCode, timedOut,
          stdoutTail, stderrTail, error) =>
        { name, required, status, command, timeoutSeconds, expectedExitCode, exitCode, timedOut,
          stdoutTail, stderrTail, error },
      fun _ => rfl, fun _ => rfl⟩
    nodup_functionalTest

omit [UnicodeTables] in
theorem nodup_functional :
  [str "status", str "tests"].Nodup
  := by
  simp [str_inj]

def functionalJSON : Codec Functional :=
  struct
    (.pair (omitempty "status" string) <|
      omitempty "tests" (slice functionalTestJSON))
    ⟨fun f => (f.status, f.tests), fun (status, tests) => { status, tests },
      fun _ => rfl, fun _ => rfl⟩
    nodup_functional

theorem functionalJSON_ne_null (x : Functional) :
  functionalJSON.write x ≠ .null
  := struct_write_ne_null x

def targetJSON : Codec Target :=
  struct
    (.pair (field "profile_id" string) <|
      .pair (field "required" bool) <|
      .pair (field "status" string) <|
      .pair (omitempty "verdict" string) <|
      .pair (omitempty "environment" (pointer environmentCheckJSON environmentCheckJSON_ne_null)) <|
      .pair (omitempty "profile" (pointer targetEnvJSON targetEnvJSON_ne_null)) <|
      .pair (omitempty "host" (pointer targetEnvJSON targetEnvJSON_ne_null)) <|
      .pair (omitempty "validation" (pointer validationJSON validationJSON_ne_null)) <|
      .pair (omitempty "functional" (pointer functionalJSON functionalJSON_ne_null)) <|
      .pair (omitempty "failed_stage" string) <|
      .pair (omitempty "btf" (pointer targetBTFJSON targetBTFJSON_ne_null)) <|
      .pair (omitempty "classification_code" string) <|
      .pair (omitempty "classification_confidence" string) <|
      .pair (omitempty "classification_reason" string) <|
      .pair (omitempty "started_at" string) <|
      .pair (omitempty "finished_at" string) <|
      .pair (omitempty "duration_ms" int64) <|
      .pair (omitempty "vm_run_dir" string) <|
      .pair (omitempty "qemu_command" string) <|
      .pair (omitempty "serial_log" string) <|
      .pair (omitempty "validator_result" string) <|
      .pair (field "validator_exit" int64) <|
      .pair (omitempty "infra_error" string) <|
      omitempty "notes" (slice string))
    ⟨fun t => (t.profileID, t.required, t.status, t.verdict, t.environment, t.profile, t.host,
        t.validation, t.functional, t.failedStage, t.btf, t.classificationCode,
        t.classificationConfidence, t.classificationReason, t.startedAt, t.finishedAt,
        t.durationMs, t.vmRunDir, t.qemuCommand, t.serialLog, t.validatorResult, t.validatorExit,
        t.infraError, t.notes),
      fun (profileID, required, status, verdict, environment, profile, host, validation,
          functional, failedStage, btf, classificationCode, classificationConfidence,
          classificationReason, startedAt, finishedAt, durationMs, vmRunDir, qemuCommand,
          serialLog, validatorResult, validatorExit, infraError, notes) =>
        { profileID, required, status, verdict, environment, profile, host, validation,
          functional, failedStage, btf, classificationCode, classificationConfidence,
          classificationReason, startedAt, finishedAt, durationMs, vmRunDir, qemuCommand,
          serialLog, validatorResult, validatorExit, infraError, notes },
      fun _ => rfl, fun _ => rfl⟩
    (by simp [str_inj])

def pathsJSON : Codec Paths :=
  struct
    (.pair (field "run_dir" string) <|
      .pair (field "json" string) <|
      omitempty "markdown" string)
    ⟨fun p => (p.runDir, p.json, p.markdown), fun (runDir, json, markdown) =>
        { runDir, json, markdown },
      fun _ => rfl, fun _ => rfl⟩
    (by simp [str_inj])

def reportJSON : Codec ReportV01 :=
  struct
    (.pair (field "schema_version" string) <|
      .pair (field "run" runInfoJSON) <|
      .pair (field "artifact" artifactJSON) <|
      .pair (omitempty "command" (pointer commandInfoJSON commandInfoJSON_ne_null)) <|
      .pair (omitempty "validator" (pointer binaryIdentityJSON binaryIdentityJSON_ne_null)) <|
      .pair (field "matrix" matrixInfoJSON) <|
      .pair (omitempty "targets" (slice targetJSON)) <|
      .pair (field "summary" summaryInfoJSON) <|
      field "paths" pathsJSON)
    ⟨fun r => (r.schemaVersion, r.run, r.artifact, r.command, r.validator, r.matrix, r.targets,
        r.summary, r.paths),
      fun (schemaVersion, run, artifact, command, validator, matrix, targets, summary, paths) =>
        { schemaVersion, run, artifact, command, validator, matrix, targets, summary, paths },
      fun _ => rfl, fun _ => rfl⟩
    (by simp [str_inj])

theorem depth_targetJSON :
  targetJSON.depth = 4
  := by
  have hstruct : targetJSON.depth = Fields.depth _ + 1 := rfl
  have henvironment : environmentCheckJSON.depth = 1 := rfl
  have henv : targetEnvJSON.depth = 1 := rfl
  have hvalidation : validationJSON.depth = 1 := rfl
  have hfunctional : functionalJSON.depth = 3 := rfl
  have hbtf : targetBTFJSON.depth = 1 := rfl
  simp [hstruct, pointer, slice, string, int64, Json.bool, henvironment, henv, hvalidation,
    hfunctional, hbtf]

theorem depth_reportJSON :
  reportJSON.depth = 6
  := by
  have hstruct : reportJSON.depth = Fields.depth _ + 1 := rfl
  have hrun : runInfoJSON.depth = 1 := rfl
  have hartifact : artifactJSON.depth = 1 := rfl
  have hcommand : commandInfoJSON.depth = 2 := rfl
  have hvalidator : binaryIdentityJSON.depth = 1 := rfl
  have hmatrix : matrixInfoJSON.depth = 2 := rfl
  have hsummary : summaryInfoJSON.depth = 2 := rfl
  have hpaths : pathsJSON.depth = 1 := rfl
  simp [hstruct, pointer, slice, string, hrun, hartifact, hcommand, hvalidator, hmatrix,
    depth_targetJSON, hsummary, hpaths]

/-- The document a report is written as. -/
def writeJSON (report : ReportV01) : Str := marshalIndent (reportJSON.write report) ++ [10]

/-- The document of a report is read back as the report, but for stray bytes. -/
theorem parseDocument_writeJSON (r : ReportV01) :
  parseDocument (lexemes (writeJSON r)) = some (reportJSON.write r) ∧
    reportJSON.decode (reportJSON.write r) = some (reportJSON.canon r)
  := by
  constructor
  · rw [writeJSON, parseDocument_marshalIndent (reportJSON.printable r)]
    rw [depth_reportJSON]
    decide
  · rw [Codec.decode, reportJSON.read_write]

end Schema
