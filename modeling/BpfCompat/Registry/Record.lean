import BpfCompat.Go.Collections
import BpfCompat.Go.Encoding
import BpfCompat.Go.Json.Lines

/-!
# Artifact records

One row of the artifact history, as it is kept on a line of the index.  The canonical payload
of a record is its text without its own hash and signature; the hash of the payload is what
the next record refers to.

A record whose texts have no stray bytes is read back from its line as it was
(`decode_marshal_record`), so that the payload can be recomputed from the stored row.
-/

namespace Registry

open Go Go.Json Go.Json.Fields

/-- One row of the artifact history. -/
structure ArtifactVersionRecord where
  schemaVersion : Str := []
  runID : Str := []
  runStartedAt : Str := []
  createdAt : Str := []
  artifactName : Str := []
  artifactVersion : Str := []
  artifactVariant : Str := []
  artifactPath : Str := []
  artifactURI : Str := []
  artifactSHA256 : Str := []
  recordSHA256 : Str := []
  prevRecordSHA256 : Str := []
  signatureAlg : Str := []
  signatureKeyID : Str := []
  signaturePublicKey : Str := []
  signature : Str := []
  manifestPath : Str := []
  matrixPath : Str := []
  matrixName : Str := []
  summaryStatus : Str := []
  requiredPassed : Int64 := 0
  requiredFailed : Int64 := 0
  totalProfiles : Int64 := 0
  supportedProfiles : List Str := []
  failedProfiles : List Str := []
  classificationCode : List Str := []
  jsonReportPath : Str := []
  markdownPath : Str := []
deriving DecidableEq

/-! ### The record as JSON -/

section

variable [UnicodeTables]

/-- The members of a record. -/
@[reducible]
def artifactVersionRecordFields :=
  (Fields.field "schema_version" string).pair <|
    (Fields.field "run_id" string).pair <|
    (Fields.field "run_started_at" string).pair <|
    (Fields.field "created_at" string).pair <|
    (Fields.field "artifact_name" string).pair <|
    (Fields.field "artifact_version" string).pair <|
    (Fields.omitempty "artifact_variant" string).pair <|
    (Fields.field "artifact_path" string).pair <|
    (Fields.omitempty "artifact_uri" string).pair <|
    (Fields.field "artifact_sha256" string).pair <|
    (Fields.omitempty "record_sha256" string).pair <|
    (Fields.omitempty "prev_record_sha256" string).pair <|
    (Fields.omitempty "signature_alg" string).pair <|
    (Fields.omitempty "signature_key_id" string).pair <|
    (Fields.omitempty "signature_public_key" string).pair <|
    (Fields.omitempty "signature" string).pair <|
    (Fields.omitempty "manifest_path" string).pair <|
    (Fields.field "matrix_path" string).pair <|
    (Fields.omitempty "matrix_name" string).pair <|
    (Fields.field "summary_status" string).pair <|
    (Fields.field "required_passed" int64).pair <|
    (Fields.field "required_failed" int64).pair <|
    (Fields.field "total_profiles" int64).pair <|
    (Fields.omitempty "supported_profiles" (slice string)).pair <|
    (Fields.omitempty "failed_profiles" (slice string)).pair <|
    (Fields.omitempty "classification_codes" (slice string)).pair <|
    (Fields.field "json_report_path" string).pair <|
    Fields.omitempty "markdown_path" string

/-- A record as the values of its members. -/
def artifactVersionRecordEquiv :
    ArtifactVersionRecord ≃ Str × Str × Str × Str × Str × Str × Str × Str × Str × Str × Str × Str ×
      Str × Str × Str × Str × Str × Str × Str × Str × Int64 × Int64 × Int64 × List Str ×
      List Str × List Str × Str × Str :=
  ⟨fun r => (r.schemaVersion, r.runID, r.runStartedAt, r.createdAt, r.artifactName,
      r.artifactVersion, r.artifactVariant, r.artifactPath, r.artifactURI, r.artifactSHA256,
      r.recordSHA256, r.prevRecordSHA256, r.signatureAlg, r.signatureKeyID,
      r.signaturePublicKey, r.signature, r.manifestPath, r.matrixPath, r.matrixName,
      r.summaryStatus, r.requiredPassed, r.requiredFailed, r.totalProfiles,
      r.supportedProfiles, r.failedProfiles, r.classificationCode, r.jsonReportPath,
      r.markdownPath),
    fun (schemaVersion, runID, runStartedAt, createdAt, artifactName, artifactVersion,
        artifactVariant, artifactPath, artifactURI, artifactSHA256, recordSHA256,
        prevRecordSHA256, signatureAlg, signatureKeyID, signaturePublicKey, signature,
        manifestPath, matrixPath, matrixName, summaryStatus, requiredPassed, requiredFailed,
        totalProfiles, supportedProfiles, failedProfiles, classificationCode, jsonReportPath,
        markdownPath) =>
      { schemaVersion, runID, runStartedAt, createdAt, artifactName, artifactVersion,
        artifactVariant, artifactPath, artifactURI, artifactSHA256, recordSHA256,
        prevRecordSHA256, signatureAlg, signatureKeyID, signaturePublicKey, signature,
        manifestPath, matrixPath, matrixName, summaryStatus, requiredPassed, requiredFailed,
        totalProfiles, supportedProfiles, failedProfiles, classificationCode, jsonReportPath,
        markdownPath },
    fun _ => rfl, fun _ => rfl⟩

theorem nodup_artifactVersionRecord :
  artifactVersionRecordFields.names.Nodup
  := by
  simp [str_inj]

def artifactVersionRecordJSON : Codec ArtifactVersionRecord :=
  struct artifactVersionRecordFields artifactVersionRecordEquiv nodup_artifactVersionRecord

instance marshalsRecord : Marshals artifactVersionRecordJSON :=
  inferInstanceAs (Marshals (struct artifactVersionRecordFields artifactVersionRecordEquiv
    nodup_artifactVersionRecord))

instance settlesRecord : Settles artifactVersionRecordJSON :=
  inferInstanceAs (Settles (struct artifactVersionRecordFields artifactVersionRecordEquiv
    nodup_artifactVersionRecord))

theorem depth_record :
  artifactVersionRecordJSON.depth ≤ maxNestingDepth
  := by
  simp [artifactVersionRecordJSON, struct, maxNestingDepth, string, int64, slice]

/-- The text of a record. -/
def marshalRecord (r : ArtifactVersionRecord) : Str := marshal artifactVersionRecordJSON r

/-- The record a text denotes. -/
def unmarshalRecord (text : Str) : Option ArtifactVersionRecord :=
  (parseDocument (lexemes text)).bind artifactVersionRecordJSON.decode

/-! ### Normalisation and hashing -/

/-- The texts without white space around them, the blank and the repeated ones dropped, in
order. -/
def dedupeSorted (values : List Str) : List Str :=
  sortKeys (collect [] ((values.map trimSpace).filter (· ≠ [])))

omit [UnicodeTables] in
theorem mem_dedupeSorted {values : List Str} {value : Str} :
  value ∈ dedupeSorted values ↔ value ≠ [] ∧ ∃ v ∈ values, trimSpace v = value
  := by
  rw [dedupeSorted, mem_sortKeys, mem_collect]
  simp [and_comm]

/-- The schema version of the history. -/
def artifactHistorySchemaVersion : Str := str "artifact_history.v0.1"

/-- A record as it is put into the history, its provenance apart. -/
def normalizeRecord (r : ArtifactVersionRecord) : ArtifactVersionRecord :=
  { r with
    schemaVersion := if r.schemaVersion = [] then artifactHistorySchemaVersion else r.schemaVersion
    supportedProfiles := dedupeSorted r.supportedProfiles
    failedProfiles := dedupeSorted r.failedProfiles
    classificationCode := dedupeSorted r.classificationCode }

/-- A record without its own hash and signature. -/
def canonicalRecord (r : ArtifactVersionRecord) : ArtifactVersionRecord :=
  { r with
    recordSHA256 := []
    signatureAlg := []
    signatureKeyID := []
    signaturePublicKey := []
    signature := [] }

/-- What is hashed and signed of a record. -/
def canonicalPayload (r : ArtifactVersionRecord) : Str := marshalRecord (canonicalRecord r)

/-- The hash of a record, in hexadecimal. -/
def recordHash (sha256 : Str → Str) (r : ArtifactVersionRecord) : Str :=
  hexEncode (sha256 (canonicalPayload r))

/-! ### Records that survive -/

/-- The record is the same after it was written and read back. -/
def Survives (r : ArtifactVersionRecord) : Prop := artifactVersionRecordJSON.canon r = r

/-- The texts of a record, its provenance apart. -/
def ArtifactVersionRecord.texts (r : ArtifactVersionRecord) : List Str :=
  [r.schemaVersion, r.runID, r.runStartedAt, r.createdAt, r.artifactName, r.artifactVersion,
    r.artifactVariant, r.artifactPath, r.artifactURI, r.artifactSHA256, r.manifestPath,
    r.matrixPath, r.matrixName, r.summaryStatus, r.jsonReportPath, r.markdownPath] ++
    r.supportedProfiles ++ r.failedProfiles ++ r.classificationCode

/-- The texts of the provenance of a record. -/
def ArtifactVersionRecord.provenanceTexts (r : ArtifactVersionRecord) : List Str :=
  [r.recordSHA256, r.prevRecordSHA256, r.signatureAlg, r.signatureKeyID, r.signaturePublicKey,
    r.signature]

/-- A record without stray bytes survives. -/
theorem survives_iff {r : ArtifactVersionRecord} :
  Survives r ↔ ∀ s ∈ r.texts ++ r.provenanceTexts, toValidUTF8 s = s
  := by
  have hcanon : artifactVersionRecordEquiv (artifactVersionRecordJSON.canon r)
      = artifactVersionRecordFields.canon (artifactVersionRecordEquiv r) := rfl
  rw [Survives, ← artifactVersionRecordEquiv.injective.eq_iff, hcanon]
  simp only [artifactVersionRecordEquiv, Equiv.coe_fn_mk, Fields.pair, Fields.field,
    Fields.omitempty, Prod.mk.injEq, string, int64, slice, map_toValidUTF8_eq_iff,
    ArtifactVersionRecord.texts, ArtifactVersionRecord.provenanceTexts, List.forall_mem_append,
    List.forall_mem_cons]
  tauto

omit [UnicodeTables] in
/-- Normalisation brings in no stray bytes. -/
theorem texts_normalizeRecord {r : ArtifactVersionRecord} (h : ∀ s ∈ r.texts, toValidUTF8 s = s) :
  ∀ s ∈ (normalizeRecord r).texts, toValidUTF8 s = s
  := by
  have hdedupe : ∀ ss : List Str, (∀ s ∈ ss, toValidUTF8 s = s) →
      ∀ s ∈ dedupeSorted ss, toValidUTF8 s = s := by
    intro ss hss s hs
    obtain ⟨-, v, hv, rfl⟩ := mem_dedupeSorted.mp hs
    rw [← trimSpace_toValidUTF8, hss v hv]
  have hschema : ∀ s, toValidUTF8 s = s →
      toValidUTF8 (if s = [] then artifactHistorySchemaVersion else s)
        = if s = [] then artifactHistorySchemaVersion else s := by
    intro s hs
    split_ifs
    · apply toValidUTF8_str
    · exact hs
  simp only [ArtifactVersionRecord.texts, List.forall_mem_append, List.forall_mem_cons] at h ⊢
  obtain ⟨⟨⟨⟨hversion, hfields⟩, hsupported⟩, hfailed⟩, hcodes⟩ := h
  exact ⟨⟨⟨⟨hschema _ hversion, hfields⟩, hdedupe _ hsupported⟩, hdedupe _ hfailed⟩,
    hdedupe _ hcodes⟩

theorem Survives.canonicalRecord {r : ArtifactVersionRecord} (h : Survives r) :
  Survives (canonicalRecord r)
  := by
  rw [survives_iff] at h ⊢
  simp only [List.forall_mem_append, ArtifactVersionRecord.provenanceTexts,
    List.forall_mem_cons] at h ⊢
  exact ⟨h.1, rfl, h.2.2.1, rfl, rfl, rfl, rfl, by simp⟩

/-- A record is read back from its text as what survives of it. -/
theorem unmarshalRecord_marshalRecord (r : ArtifactVersionRecord) :
  unmarshalRecord (marshalRecord r) = some (artifactVersionRecordJSON.canon r)
  := decode_marshal artifactVersionRecordJSON depth_record r

theorem survives_of_unmarshalRecord {text : Str} {r : ArtifactVersionRecord}
    (h : unmarshalRecord text = some r) :
  Survives r
  := canon_of_decode artifactVersionRecordJSON h

theorem trimSpace_marshalRecord (r : ArtifactVersionRecord) :
  trimSpace (marshalRecord r) = marshalRecord r
  := trimSpace_marshal_struct artifactVersionRecordFields artifactVersionRecordEquiv
    nodup_artifactVersionRecord r

theorem marshalRecord_ne_nil (r : ArtifactVersionRecord) :
  marshalRecord r ≠ []
  := marshal_ne_nil artifactVersionRecordJSON depth_record r

/-- A scanner delivers the lines of records if each of them fits its buffer. -/
theorem scanLines_records (maxTokenSize : Nat) (records : List ArtifactVersionRecord) :
  scanLines maxTokenSize (unlines (records.map marshalRecord))
    = if ∀ r ∈ records, (marshalRecord r).length < maxTokenSize then
        some (records.map marshalRecord)
      else none
  := scanLines_unlines_marshal artifactVersionRecordJSON maxTokenSize records

/-! ### The length of a line -/

omit [UnicodeTables] in
theorem isPlain_hexEncode (s : Str) :
  ∀ b ∈ hexEncode s, isPlain b = true
  := by
  have hdigit : ∀ n < 16, isPlain (hexDigit n) = true := by decide
  intro b hb
  obtain ⟨n, hn, rfl⟩ := mem_hexEncode hb
  exact hdigit n hn

omit [UnicodeTables] in
theorem isPlain_base64Encode (s : Str) :
  ∀ b ∈ base64Encode s, isPlain b = true
  := by
  apply forall_mem_base64Encode
  · decide
  · decide

/-- A record without its provenance. -/
def ArtifactVersionRecord.stripped (r : ArtifactVersionRecord) : ArtifactVersionRecord :=
  { r with
    recordSHA256 := []
    prevRecordSHA256 := []
    signatureAlg := []
    signatureKeyID := []
    signaturePublicKey := []
    signature := [] }

/-- The bytes an optional text takes in the line of a record. -/
def optionalBytes (name : String) (s : Str) : Nat :=
  membersLength (MarshalsFields.raw (Fields.omitempty name string) s)

/-- The bytes of a plain text under its name. -/
theorem optionalBytes_plain (name : String) {s : Str} (hs : s ≠ []) (h : ∀ b ∈ s, isPlain b = true) :
  optionalBytes name s = (quoted (str name)).length + s.length + 4
  := by
  have hraw : MarshalsFields.raw (Fields.omitempty name string) s = [(str name, .string s)] := by
    have hempty : string.isEmpty s = false := by
      cases s with
      | nil => exact absurd rfl hs
      | cons b s => rfl
    show (if string.isEmpty s = true then [] else _) = _
    rw [hempty]
    rfl
  have hquoted : (Value.string s).compact.length = s.length + 2 := length_quoted_plain h
  rw [optionalBytes, hraw, membersLength, List.map_singleton, List.sum_singleton, hquoted]
  exact Nat.add_assoc _ (s.length + 2) 2

theorem optionalBytes_nil (name : String) :
  optionalBytes name [] = 0
  := rfl

/-- The line of a record is longer than without provenance by what the provenance takes. -/
theorem length_marshalRecord (r : ArtifactVersionRecord) :
  (marshalRecord r).length
    = (marshalRecord r.stripped).length + optionalBytes "record_sha256" r.recordSHA256 +
      optionalBytes "prev_record_sha256" r.prevRecordSHA256 +
      optionalBytes "signature_alg" r.signatureAlg +
      optionalBytes "signature_key_id" r.signatureKeyID +
      optionalBytes "signature_public_key" r.signaturePublicKey +
      optionalBytes "signature" r.signature
  := by
  have hlength : ∀ r : ArtifactVersionRecord, (marshalRecord r).length
      = membersLength (MarshalsFields.raw artifactVersionRecordFields
          (artifactVersionRecordEquiv r)) + 1 := by
    intro r
    apply length_compact_object
    apply List.append_ne_nil_of_left_ne_nil
    apply List.cons_ne_nil
  rw [hlength, hlength]
  simp only [membersLength_pair, artifactVersionRecordEquiv, Equiv.coe_fn_mk,
    ArtifactVersionRecord.stripped, optionalBytes]
  have hnil : ∀ name : String,
      membersLength (MarshalsFields.raw (Fields.omitempty name string) []) = 0 := fun _ => rfl
  rw [hnil, hnil, hnil, hnil, hnil, hnil]
  ring

end

end Registry
