import BpfCompat.CloudRegistry.Shelf

/-!
# Uploaded evidence

The handler of an upload takes the artifact, a report and the hash that is expected of the artifact
from one form.  The artifact is compared with the expected hash, where there is one, and the report
with nothing: it is about the bytes that are accepted with it when the form expects the hash that
the report states (`report_about_upload`).
-/

namespace CloudRegistry

open Go Go.Json Schema Registry

section

variable [UnicodeTables]

/-! ### The source -/

/-- The form of an upload: its values, the first one of each field and all, and its files. -/
structure RegistryForm where
  value : Str → Str
  values : Str → List Str
  artifactFile : Option Str := none
  reportFile : Option Str := none

/-- What is said of an upload once its caller was authorised. -/
inductive UploadReply where
  | badRequest (message : Str)
  | refused (e : UploadError)
  | accepted (result : UploadResult)

def decodeRegistryReportPayload (raw : Str) : Except Str ReportV01 :=
  match (parseDocument (lexemes raw)).bind reportJSON.decode with
  | some report => .ok report
  | none => .error (str "parse report JSON")

/-- The report of a form: the file, or the text, where there is one. -/
def extractRegistryReport (form : RegistryForm) : Except Str (Option ReportV01) :=
  match form.reportFile with
  | some raw => (decodeRegistryReportPayload raw).map some
  | none =>
    let reportText := trimSpace (form.value (str "report_json"))
    if reportText = [] then .ok none else (decodeRegistryReportPayload reportText).map some

/-- The parts of the texts at their commas, without blank and repeated ones, in order. -/
def collectMultiValues (values : List Str) : List Str :=
  dedupeSorted (values.flatMap fun value => value.splitOn ','.toUInt8)

def parseIntOrDefault (value : Str) (fallback : Int64) : Int64 :=
  ((atoi (trimSpace value)).map Int64.ofInt).getD fallback

/-- The input the handler makes of a form. -/
def uploadInputOf (form : RegistryForm) (report : Option ReportV01) : UploadInput where
  tenant := trimSpace (form.value (str "tenant"))
  project := trimSpace (form.value (str "project"))
  artifactName := trimSpace (form.value (str "artifact_name"))
  artifactVersion := trimSpace (form.value (str "artifact_version"))
  artifactVariant := trimSpace (form.value (str "artifact_variant"))
  artifactURI := trimSpace (form.value (str "artifact_uri"))
  manifestPath := trimSpace (form.value (str "manifest_path"))
  expectedSHA256 := trimSpace (form.value (str "artifact_sha256"))
  sourceRunID := trimSpace (form.value (str "source_run_id"))
  artifact := form.artifactFile
  compatibility :=
    { summaryStatus := trimSpace (form.value (str "summary_status"))
      requiredPassed := parseIntOrDefault (form.value (str "required_passed")) 0
      requiredFailed := parseIntOrDefault (form.value (str "required_failed")) 0
      totalProfiles := parseIntOrDefault (form.value (str "total_profiles")) 0
      matrixPath := trimSpace (form.value (str "matrix_path"))
      matrixName := trimSpace (form.value (str "matrix_name"))
      markdownPath := trimSpace (form.value (str "markdown_path"))
      supportedProfiles := collectMultiValues (form.values (str "supported_profiles"))
      failedProfiles := collectMultiValues (form.values (str "failed_profiles"))
      classificationCode := collectMultiValues (form.values (str "classification_codes")) }
  report := report

def handleRegistryArtifactUpload (c : Crypto) (limits : QuotaLimits) (env : Surroundings)
    (form : RegistryForm) (p : ProjectDir) : UploadReply × ProjectDir :=
  if form.artifactFile = none then (.badRequest (str "artifact_file is required"), p)
  else
    match extractRegistryReport form with
    | .error message => (.badRequest message, p)
    | .ok report =>
      match uploadArtifact c limits env (uploadInputOf form report) p with
      | (.error e, p) => (.refused e, p)
      | (.ok result, p) => (.accepted result, p)

/-! ### What the report of an accepted upload is about -/

/-- The form with other bytes as its artifact. -/
def RegistryForm.carrying (form : RegistryForm) (payload : Str) : RegistryForm :=
  { form with artifactFile := some payload }

/-- The bytes are accepted with the form. -/
def Accepts (c : Crypto) (limits : QuotaLimits) (env : Surroundings) (p : ProjectDir)
    (form : RegistryForm) (payload : Str) : Prop :=
  ∃ result, (handleRegistryArtifactUpload c limits env (form.carrying payload) p).1 = .accepted result

/-- The hash the form expects of the artifact. -/
def RegistryForm.statedHash (form : RegistryForm) : Str :=
  expectedHash (trimSpace (form.value (str "artifact_sha256")))

/-- Whatever bytes are accepted with the form, its report is about them. -/
def AboutBytes (c : Crypto) (limits : QuotaLimits) (env : Surroundings) (p : ProjectDir)
    (form : RegistryForm) : Prop :=
  ∀ report, extractRegistryReport form = .ok (some report) →
    ∀ payload, Accepts c limits env p form payload →
      report.artifact.sha256 = hexEncode (c.sha256 payload)

/-- The form expects the hash its report states. -/
def RegistryForm.Pinned (form : RegistryForm) : Prop :=
  ∀ report, extractRegistryReport form = .ok (some report) →
    form.statedHash ≠ [] ∧ report.artifact.sha256 = form.statedHash

/-- The project takes bytes with the form, and of more than one hash where the form expects
none. -/
def Receptive (c : Crypto) (limits : QuotaLimits) (env : Surroundings) (p : ProjectDir)
    (form : RegistryForm) : Prop :=
  ∃ payload payload', Accepts c limits env p form payload ∧ Accepts c limits env p form payload' ∧
    (form.statedHash = [] → hexEncode (c.sha256 payload) ≠ hexEncode (c.sha256 payload'))

section

variable {c : Crypto} {limits : QuotaLimits} {env : Surroundings} {p : ProjectDir}
  {form : RegistryForm} {payload : Str}

/-- An accepted artifact has the hash that was expected of it, where one was. -/
theorem expected_of_uploadArtifact (input : UploadInput) {result : UploadResult}
    (hartifact : input.artifact = some payload)
    (h : (uploadArtifact c limits env input p).1 = .ok result) :
  expectedHash input.expectedSHA256 = [] ∨
    expectedHash input.expectedSHA256 = hexEncode (c.sha256 payload)
  := by
  have hcases := uploadArtifact_cases c limits env input p
  generalize uploadArtifact c limits env input p = outcome at hcases h
  cases hcases with
  | early e q _ => cases h
  | placed name version payload' e q _ _ => cases h
  | persisted name version payload' q dir res appended haccepted =>
      obtain rfl : payload = payload' :=
        Option.some_inj.mp (hartifact.symm.trans haccepted.admitted.payload_eq)
      exact haccepted.checked.expected

theorem Accepts.statedHash (h : Accepts c limits env p form payload) :
  form.statedHash = [] ∨ form.statedHash = hexEncode (c.sha256 payload)
  := by
  obtain ⟨result, h⟩ := h
  rw [handleRegistryArtifactUpload] at h
  split_ifs at h with hfile
  split at h
  · cases h
  · split at h
    · cases h
    · rename_i hupload
      exact expected_of_uploadArtifact (uploadInputOf (form.carrying payload) _) rfl
        (congrArg Prod.fst hupload)

theorem accepts_of_uploadArtifact {report : Option ReportV01} {result : UploadResult}
    (hfile : form.carrying payload = form) (hreport : extractRegistryReport form = .ok report)
    (h : (uploadArtifact c limits env (uploadInputOf form report) p).1 = .ok result) :
  Accepts c limits env p form payload
  := by
  use result
  have hsome : form.artifactFile = some payload := congrArg RegistryForm.artifactFile hfile.symm
  rw [handleRegistryArtifactUpload, hfile, hsome, if_neg (Option.some_ne_none _), hreport]
  dsimp only
  cases hupload : uploadArtifact c limits env (uploadInputOf form report) p with
  | mk res q =>
      rw [hupload] at h
      dsimp only at h
      rw [h]

end

/-- The report of a form is about whatever bytes are accepted with it if the form expects the
hash that the report states, and where the project takes other bytes as well, only then. -/
theorem report_about_upload (c : Crypto) (limits : QuotaLimits) (env : Surroundings)
    (p : ProjectDir) (form : RegistryForm) :
  (form.Pinned → AboutBytes c limits env p form) ∧
    (Receptive c limits env p form → AboutBytes c limits env p form → form.Pinned)
  := by
  constructor
  · intro hpinned report hreport payload haccepts
    obtain ⟨hstated, hsame⟩ := hpinned report hreport
    rw [hsame]
    exact haccepts.statedHash.resolve_left hstated
  · rintro ⟨payload, payload', haccepts, haccepts', hother⟩ habout report hreport
    have hpayload := habout report hreport payload haccepts
    have hpayload' := habout report hreport payload' haccepts'
    have hstated : form.statedHash ≠ [] := by
      intro hnone
      exact hother hnone (hpayload.symm.trans hpayload')
    use hstated
    rw [hpayload, haccepts.statedHash.resolve_left hstated]

end

/-! ### A report about other bytes -/

attribute [local instance] asciiTables

/-- A passing report about an empty artifact. -/
def otherReport : ReportV01 where
  schemaVersion := str "0.1"
  artifact := { sha256 := str "e3b0c44298fc1c149afbf4c8996fb92427ae41e4649b934ca495991b7852b855" }
  targets := [{ profileID := str "ubuntu-22.04", required := true, status := str "pass",
                verdict := str "COMPATIBLE" }]
  summary := { status := str "pass" }

/-- A form with the report that expects no hash. -/
def otherForm : RegistryForm where
  value field :=
    ([(str "tenant", str "t"), (str "project", str "p"), (str "artifact_name", str "a"),
      (str "artifact_version", str "1")].lookup field).getD []
  values _ := []
  artifactFile := some (str "ELF")
  reportFile := some (writeJSON otherReport)

theorem extractRegistryReport_otherForm :
  extractRegistryReport otherForm = .ok (some (reportJSON.canon otherReport))
  := by
  obtain ⟨hparse, hdecode⟩ := parseDocument_writeJSON otherReport
  have hpayload : decodeRegistryReportPayload (writeJSON otherReport)
      = .ok (reportJSON.canon otherReport) := by
    rw [decodeRegistryReportPayload, hparse, Option.bind_some, hdecode]
  show (decodeRegistryReportPayload (writeJSON otherReport)).map some = _
  rw [hpayload]
  rfl

/-- The report about an empty artifact is accepted with three bytes. -/
theorem report_about_other_bytes :
  uploadCrypto.Lawful ∧ Fresh emptyProject.registry ∧
    Accepts uploadCrypto {} (newYear none) emptyProject otherForm (str "ELF") ∧
    ∃ report, extractRegistryReport otherForm = .ok (some report) ∧
      report.artifact.sha256 ≠ hexEncode (uploadCrypto.sha256 (str "ELF"))
  := by
  refine ⟨uploadCrypto_lawful, fresh_emptyProject, ?_, reportJSON.canon otherReport,
    extractRegistryReport_otherForm, by decide⟩
  have hempty : Shelved uploadCrypto projectRoot emptyProject.registry [] :=
    shelved_of_fresh fresh_emptyProject
  have htenant : (uploadInputOf otherForm (some (reportJSON.canon otherReport))).tenant = str "t" := by
    decide +kernel
  have hproject : (uploadInputOf otherForm (some (reportJSON.canon otherReport))).project
      = str "p" := by
    decide +kernel
  have hexpected : expectedHash
      (uploadInputOf otherForm (some (reportJSON.canon otherReport))).expectedSHA256 = [] := by
    decide +kernel
  have hname : uploadID (str "artifact_name")
      (uploadInputOf otherForm (some (reportJSON.canon otherReport))).artifactName
        = .ok (str "a") := by
    decide +kernel
  have hversion : uploadID (str "artifact_version")
      (uploadInputOf otherForm (some (reportJSON.canon otherReport))).artifactVersion
        = .ok (str "1") := by
    decide +kernel
  have hsmall : recordBytes (recordOf uploadCrypto (newYear none)
      (uploadInputOf otherForm (some (reportJSON.canon otherReport))) projectRoot (str "a")
        (str "1") (str "ELF")) < 100000 := by
    apply lt_of_le_of_lt (recordBytes_le _)
    decide +kernel
  obtain ⟨-, -, haccepted⟩ := hempty.upload_open uploadCrypto_lawful (.inl rfl) htenant hproject
    hexpected hname hversion rfl hsmall List.not_mem_nil
  obtain ⟨result, hresult⟩ := haccepted rfl
  exact accepts_of_uploadArtifact rfl extractRegistryReport_otherForm hresult

end CloudRegistry
