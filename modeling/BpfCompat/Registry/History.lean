import BpfCompat.Registry.Signing

/-!
# The artifact history

Appending a record to the history, and verifying the history.  A record carries the hash of
the record before it, its own hash and a signature; verification recomputes them from the
stored lines, and the chain goes on from the computed hash.

A history that was written by the local signer, one call after the other, verifies
(`history_verifies`) provided no record has a stray byte and every line fits the buffer of the
reader.  A stray byte is escaped when the payload is hashed, but is U+FFFD after the line was
read back, and the payload of that is another one.
-/

namespace Registry

open Go Go.Json

section

variable [UnicodeTables]

/-! ### Reading -/

/-- The buffer of the reader. -/
def maxLineBytes : Nat := 16 * 1024 * 1024

/-- The lines of a file without the blank ones; a missing file has none. -/
def readJSONLLines (file : Option Str) : Option (List Str) :=
  match file with
  | none => some []
  | some text =>
    (scanLines maxLineBytes text).map fun lines => (lines.map trimSpace).filter (· ≠ [])

def readArtifactVersionRecords (file : Option Str) : Option (List ArtifactVersionRecord) := do
  let lines ← readJSONLLines file
  lines.mapM unmarshalRecord

/-! ### Appending -/

inductive PersistError where
  | required (field : Str)
  | historyUnreadable
  | signingKeyUndecodable
deriving DecidableEq

/-- The hash the next record refers to. -/
def previousArtifactRecordHash (c : Crypto) (dir : WorkDir) : Option Str := do
  let records ← readArtifactVersionRecords dir.index
  match records.getLast? with
  | none => some []
  | some last =>
    if trimSpace last.recordSHA256 ≠ [] then some (trimSpace last.recordSHA256)
    else some (recordHash c.sha256 last)

/-- A record with its own hash and signature. -/
def withSignature (c : Crypto) (key : Str) (r : ArtifactVersionRecord) : ArtifactVersionRecord :=
  let envelope := localSign c key (canonicalPayload r)
  { r with
    recordSHA256 := recordHash c.sha256 r
    signatureAlg := envelope.signatureAlg
    signatureKeyID := envelope.signatureKeyID
    signaturePublicKey := envelope.signaturePublicKey
    signature := envelope.signature }

def applyArtifactRecordProvenance (c : Crypto) (seed : Str) (dir : WorkDir)
    (r : ArtifactVersionRecord) : Except PersistError (ArtifactVersionRecord × WorkDir) :=
  match previousArtifactRecordHash c dir with
  | none => .error .historyUnreadable
  | some prevHash =>
    let r := { r with prevRecordSHA256 := prevHash }
    match ensureArtifactRegistrySigner c seed dir with
    | none => .error .signingKeyUndecodable
    | some (key, dir) => .ok (withSignature c key r, dir)

/-- Appends a record to the history. -/
def persistArtifactVersion (c : Crypto) (seed : Str) (dir : WorkDir) (r : ArtifactVersionRecord) :
    Except PersistError WorkDir :=
  if dir.path = [] then .error (.required (str "workdir"))
  else if trimSpace r.artifactName = [] then .error (.required (str "artifact_name"))
  else if trimSpace r.artifactVersion = [] then .error (.required (str "artifact_version"))
  else if trimSpace r.artifactSHA256 = [] then .error (.required (str "artifact_sha256"))
  else if trimSpace r.jsonReportPath = [] then .error (.required (str "json_report_path"))
  else
    match applyArtifactRecordProvenance c seed dir (normalizeRecord r) with
    | .error e => .error e
    | .ok (r, dir) =>
      .ok { dir with index := some (dir.index.getD [] ++ (marshalRecord r ++ [10])) }

/-! ### Verifying -/

/-- What verification says of one row. -/
structure ArtifactVersionVerification where
  index : Nat
  runID : Str
  artifactName : Str
  artifactVersion : Str
  recordSHA256 : Str
  computedSHA256 : Str
  prevRecordSHA256 : Str
  expectedPrevSHA256 : Str
  signatureAlg : Str
  signatureKeyID : Str
  signatureValid : Bool
  verified : Bool
  issues : List Issue

/-- The issues with the own hash of a record. -/
def recordHashIssues (stored computed : Str) : List Issue :=
  if stored = [] then [.recordHashMissing]
  else if stored ≠ computed then [.recordHashMismatch]
  else []

/-- The issues with the reference to the record before. -/
def prevHashIssues (i : Nat) (stored prevComputed : Str) : List Issue :=
  if i = 0 then if stored ≠ [] then [.firstRecordHasPrev] else []
  else if stored = [] then [.prevHashMissing]
  else if stored ≠ prevComputed then [.prevHashMismatch]
  else []

/-- The issue with the signature of a record. -/
def signatureIssues : Except Issue Unit → List Issue
  | .ok _ => []
  | .error e => [e]

/-- One round of the loop, for the record at position `i`. -/
def verifyRow (c : Crypto) (dir : WorkDir) (i : Nat) (prevComputed : Str)
    (r : ArtifactVersionRecord) : ArtifactVersionVerification :=
  let computed := recordHash c.sha256 r
  let signature := verifyArtifactRecordSignature c dir r (canonicalPayload r)
  let issues := recordHashIssues (trimSpace r.recordSHA256) computed ++
    prevHashIssues i (trimSpace r.prevRecordSHA256) prevComputed ++ signatureIssues signature
  { index := i
    runID := r.runID
    artifactName := r.artifactName
    artifactVersion := r.artifactVersion
    recordSHA256 := trimSpace r.recordSHA256
    computedSHA256 := computed
    prevRecordSHA256 := trimSpace r.prevRecordSHA256
    expectedPrevSHA256 := if i = 0 then [] else prevComputed
    signatureAlg := trimSpace r.signatureAlg
    signatureKeyID := trimSpace r.signatureKeyID
    signatureValid := signature.isOk
    verified := issues.isEmpty
    issues := issues }

/-- The loop of verification from position `i` on. -/
def verifyRows (c : Crypto) (dir : WorkDir) (i : Nat) (prevComputed : Str) :
    List ArtifactVersionRecord → List ArtifactVersionVerification
  | [] => []
  | r :: records =>
    let computed := recordHash c.sha256 r
    verifyRow c dir i prevComputed r ::
      verifyRows c dir (i + 1) (if computed ≠ [] then computed else prevComputed) records

def verifyArtifactVersionHistory (c : Crypto) (dir : WorkDir) :
    Option (List ArtifactVersionVerification) :=
  (readArtifactVersionRecords dir.index).map (verifyRows c dir 0 [])

/-! ### What was written is read back -/

theorem readJSONLLines_unlines {records : List ArtifactVersionRecord}
    (hshort : ∀ r ∈ records, (marshalRecord r).length < maxLineBytes) :
  readJSONLLines (some (unlines (records.map marshalRecord))) = some (records.map marshalRecord)
  := by
  have htrim : (records.map marshalRecord).map trimSpace = records.map marshalRecord := by
    rw [List.map_map]
    apply List.map_congr_left
    intro r _
    rw [Function.comp_apply, trimSpace_marshalRecord]
  rw [readJSONLLines, scanLines_records, if_pos hshort, Option.map_some, htrim,
    List.filter_eq_self.mpr]
  rw [List.forall_mem_map]
  intro r _
  simpa using marshalRecord_ne_nil r

/-- The records of a history are read back as what survives of them. -/
theorem readArtifactVersionRecords_unlines {records : List ArtifactVersionRecord}
    (hshort : ∀ r ∈ records, (marshalRecord r).length < maxLineBytes) :
  readArtifactVersionRecords (some (unlines (records.map marshalRecord)))
    = some (records.map artifactVersionRecordJSON.canon)
  := by
  rw [readArtifactVersionRecords, readJSONLLines_unlines hshort]
  simp only [Option.bind_eq_bind, Option.bind_some]
  clear hshort
  induction records with
  | nil => rfl
  | cons r records ih =>
      rw [List.map_cons, List.mapM_cons, unmarshalRecord_marshalRecord, ih]
      rfl

/-- A history with a line that does not fit the buffer cannot be read. -/
theorem readArtifactVersionRecords_long {records : List ArtifactVersionRecord}
    (hlong : ¬ ∀ r ∈ records, (marshalRecord r).length < maxLineBytes) :
  readArtifactVersionRecords (some (unlines (records.map marshalRecord))) = none
  := by
  rw [readArtifactVersionRecords, readJSONLLines, scanLines_records, if_neg hlong]
  rfl

theorem readArtifactVersionRecords_survives {records : List ArtifactVersionRecord}
    (h : ∀ r ∈ records, Survives r ∧ (marshalRecord r).length < maxLineBytes) :
  readArtifactVersionRecords (some (unlines (records.map marshalRecord))) = some records
  := by
  have hcanon : ∀ r ∈ records, artifactVersionRecordJSON.canon r = id r := fun r hr => (h r hr).1
  rw [readArtifactVersionRecords_unlines fun r hr => (h r hr).2, List.map_congr_left hcanon,
    List.map_id]

/-- The records of a history survive. -/
theorem survives_of_read {file : Option Str} {records : List ArtifactVersionRecord}
    (h : readArtifactVersionRecords file = some records) :
  ∀ r ∈ records, Survives r
  := by
  rw [readArtifactVersionRecords, Option.bind_eq_bind, Option.bind_eq_some_iff] at h
  obtain ⟨lines, -, h⟩ := h
  induction lines generalizing records with
  | nil =>
      cases h
      simp
  | cons line lines ih =>
      rw [List.mapM_cons] at h
      simp only [Option.bind_eq_bind, Option.bind_eq_some_iff] at h
      obtain ⟨r, hr, rest, hrest, h⟩ := h
      cases h
      rw [List.forall_mem_cons]
      exact ⟨survives_of_unmarshalRecord hr, ih hrest⟩

/-! ### The records calls append -/

section

variable {c : Crypto} {seed : Str}

/-- A record with its provenance, after the record with the given hash. -/
def chained (c : Crypto) (key prevHash : Str) (r : ArtifactVersionRecord) : ArtifactVersionRecord :=
  withSignature c key { r with prevRecordSHA256 := prevHash }

/-- Records with their provenance, one after the other. -/
def chain (c : Crypto) (key prevHash : Str) :
    List ArtifactVersionRecord → List ArtifactVersionRecord
  | [] => []
  | r :: rs =>
    chained c key prevHash r :: chain c key (recordHash c.sha256 (chained c key prevHash r)) rs

/-- The record a call appends after the record with the given hash. -/
def provenanced (c : Crypto) (seed prevHash : Str) (r : ArtifactVersionRecord) :
    ArtifactVersionRecord :=
  withSignature c (c.newKeyFromSeed seed) { normalizeRecord r with prevRecordSHA256 := prevHash }

/-- The records a sequence of calls appends. -/
def appended (c : Crypto) (seed prevHash : Str) :
    List ArtifactVersionRecord → List ArtifactVersionRecord
  | [] => []
  | r :: rs =>
    provenanced c seed prevHash r ::
      appended c seed (recordHash c.sha256 (provenanced c seed prevHash r)) rs

theorem appended_eq_chain (prevHash : Str) (rs : List ArtifactVersionRecord) :
  appended c seed prevHash rs = chain c (c.newKeyFromSeed seed) prevHash (rs.map normalizeRecord)
  := by
  induction rs generalizing prevHash with
  | nil => rfl
  | cons r rs ih =>
      rw [appended, ih]
      rfl

/-- The hash of the last record of a history, or the one before its first. -/
def lastHash (c : Crypto) (prevHash : Str) (records : List ArtifactVersionRecord) : Str :=
  (records.getLast?.map (recordHash c.sha256)).getD prevHash

theorem lastHash_cons (prevHash : Str) (r : ArtifactVersionRecord)
    (records : List ArtifactVersionRecord) :
  lastHash c prevHash (r :: records) = lastHash c (recordHash c.sha256 r) records
  := by
  rw [lastHash, lastHash, List.getLast?_cons]
  cases records.getLast? with
  | none => rfl
  | some last => rfl

theorem appended_concat (prevHash : Str) (rs : List ArtifactVersionRecord)
    (r : ArtifactVersionRecord) :
  appended c seed prevHash (rs ++ [r])
    = appended c seed prevHash rs ++
      [provenanced c seed (lastHash c prevHash (appended c seed prevHash rs)) r]
  := by
  induction rs generalizing prevHash with
  | nil => rfl
  | cons r' rs ih =>
      rw [List.cons_append, appended, ih, appended, List.cons_append, lastHash_cons]

theorem recordSHA256_provenanced (prevHash : Str) (r : ArtifactVersionRecord) :
  (provenanced c seed prevHash r).recordSHA256 = recordHash c.sha256 (provenanced c seed prevHash r)
  := rfl

theorem prevRecordSHA256_provenanced (prevHash : Str) (r : ArtifactVersionRecord) :
  (provenanced c seed prevHash r).prevRecordSHA256 = prevHash
  := rfl

/-- What is hashed of the first record of a history. -/
theorem canonicalRecord_provenanced_nil {r : ArtifactVersionRecord} (h : r.prevRecordSHA256 = []) :
  canonicalRecord (provenanced c seed [] r) = canonicalRecord (normalizeRecord r)
  := by
  cases r
  subst h
  rfl

theorem canonicalRecord_canon (r : ArtifactVersionRecord) :
  canonicalRecord (artifactVersionRecordJSON.canon r)
    = artifactVersionRecordJSON.canon (canonicalRecord r)
  := rfl

theorem recordSHA256_canon (r : ArtifactVersionRecord) :
  (artifactVersionRecordJSON.canon r).recordSHA256 = toValidUTF8 r.recordSHA256
  := rfl

theorem signedWith_chained (key prevHash : Str) (r : ArtifactVersionRecord) :
  SignedWith c key (canonicalPayload (chained c key prevHash r)) (chained c key prevHash r)
  := ⟨rfl, rfl, rfl, rfl⟩

theorem signedBy_provenanced (prevHash : Str) (r : ArtifactVersionRecord) :
  SignedBy c seed (canonicalPayload (provenanced c seed prevHash r)) (provenanced c seed prevHash r)
  := signedWith_chained (c.newKeyFromSeed seed) prevHash (normalizeRecord r)

theorem trimSpace_recordHash (sha256 : Str → Str) (r : ArtifactVersionRecord) :
  trimSpace (recordHash sha256 r) = recordHash sha256 r
  := trimSpace_of_graphic (hexEncode_graphic _)

theorem length_recordHash (hc : c.Lawful) (r : ArtifactVersionRecord) :
  (recordHash c.sha256 r).length = 64
  := by
  rw [recordHash, length_hexEncode, hc.length_sha256]

theorem recordHash_ne_nil (hc : c.Lawful) (r : ArtifactVersionRecord) :
  recordHash c.sha256 r ≠ []
  := by
  intro h
  have hlength := length_recordHash hc r
  rw [h] at hlength
  cases hlength

/-- What the reference to the record before may be: none, or a hash. -/
def IsReference (prevHash : Str) : Prop :=
  prevHash = [] ∨ prevHash.length = 64 ∧ ∀ b ∈ prevHash, isPlain b = true

theorem isReference_recordHash (hc : c.Lawful) (r : ArtifactVersionRecord) :
  IsReference (recordHash c.sha256 r)
  := .inr ⟨length_recordHash hc r, isPlain_hexEncode _⟩

omit [UnicodeTables] in
theorem toValidUTF8_of_isPlain {s : Str} (h : ∀ b ∈ s, isPlain b = true) :
  toValidUTF8 s = s
  := by
  apply toValidUTF8_of_ascii
  intro b hb
  have hplain := h b hb
  simp only [isPlain, Bool.and_eq_true, decide_eq_true_eq] at hplain
  exact lt_trans hplain.1.1.1.1.1.2 (by decide)

/-- A record without stray bytes survives with its provenance. -/
theorem survives_chained {key prevHash : Str} (hprev : IsReference prevHash)
    {r : ArtifactVersionRecord} (hr : ∀ s ∈ r.texts, toValidUTF8 s = s) :
  Survives (chained c key prevHash r)
  := by
  have hprev' : toValidUTF8 prevHash = prevHash := by
    rcases hprev with rfl | ⟨-, hplain⟩
    · rfl
    · exact toValidUTF8_of_isPlain hplain
  rw [survives_iff, List.forall_mem_append]
  use hr
  simp only [ArtifactVersionRecord.provenanceTexts, List.forall_mem_cons]
  exact ⟨toValidUTF8_of_isPlain (isPlain_hexEncode _), hprev', toValidUTF8_str _,
    toValidUTF8_of_isPlain (isPlain_hexEncode _), toValidUTF8_of_isPlain (isPlain_base64Encode _),
    toValidUTF8_of_isPlain (isPlain_base64Encode _), by simp⟩

/-- Records without stray bytes survive with their provenance. -/
theorem chain_survives (hc : c.Lawful) {key prevHash : Str} (hprev : IsReference prevHash)
    {rs : List ArtifactVersionRecord} (hvalid : ∀ r ∈ rs, ∀ s ∈ r.texts, toValidUTF8 s = s) :
  ∀ r ∈ chain c key prevHash rs, Survives r
  := by
  induction rs generalizing prevHash with
  | nil => exact List.forall_mem_nil _
  | cons r rs ih =>
      rw [List.forall_mem_cons] at hvalid
      rw [chain, List.forall_mem_cons]
      exact ⟨survives_chained hprev hvalid.1, ih (isReference_recordHash hc _) hvalid.2⟩

/-- The bytes the provenance of the record at position `i` takes on its line. -/
def provenanceBytes (i : Nat) : Nat := if i = 0 then 316 else 404

/-- The bytes a record takes on its line, without provenance. -/
def recordBytes (r : ArtifactVersionRecord) : Nat :=
  (marshalRecord (normalizeRecord r).stripped).length

/-- A bound on these bytes that does not need the text of the line. -/
theorem recordBytes_le (r : ArtifactVersionRecord) :
  recordBytes r ≤ (Marshals.raw artifactVersionRecordJSON (normalizeRecord r).stripped).bound
  := length_compact_le _

theorem optionalBytes_of_length (name : String) {n : Nat} {s : Str} (hs : s.length = n)
    (hn : n ≠ 0) (h : ∀ b ∈ s, isPlain b = true) :
  optionalBytes name s = (quoted (str name)).length + n + 4
  := by
  have hne : s ≠ [] := by
    rintro rfl
    exact hn hs.symm
  rw [optionalBytes_plain name hne h, hs]

/-- The provenance of a record takes as many bytes as its texts have. -/
theorem length_chained (hc : c.Lawful) {key prevHash : Str} (hkey : key.length = 64) {i : Nat}
    (hprev : IsReference prevHash) (hi : prevHash = [] ↔ i = 0) (r : ArtifactVersionRecord) :
  (marshalRecord (chained c key prevHash r)).length
    = (marshalRecord r.stripped).length + provenanceBytes i
  := by
  have hrecord : optionalBytes "record_sha256" (chained c key prevHash r).recordSHA256
      = 83 := by
    have h := optionalBytes_of_length "record_sha256" (length_recordHash hc (chained c key prevHash r))
      (by decide) (isPlain_hexEncode _)
    exact h.trans (by decide)
  have hprevious : optionalBytes "prev_record_sha256"
      (chained c key prevHash r).prevRecordSHA256 = if i = 0 then 0 else 88 := by
    show optionalBytes "prev_record_sha256" prevHash = _
    rcases hprev with hnil | ⟨hlength, hplain⟩
    · rw [if_pos (hi.mp hnil), hnil, optionalBytes_nil]
    · have hne : prevHash ≠ [] := by
        rintro rfl
        cases hlength
      rw [if_neg (fun h => hne (hi.mpr h)),
        optionalBytes_of_length _ hlength (by decide) hplain]
      decide
  have halg : optionalBytes "signature_alg" (chained c key prevHash r).signatureAlg = 26 := by
    have hplain : ∀ b ∈ str "ed25519", isPlain b = true := by decide
    have hlength : (str "ed25519").length = 7 := by decide
    have h := optionalBytes_of_length "signature_alg" hlength (by decide) hplain
    exact h.trans (by decide)
  have hkeyID : optionalBytes "signature_key_id" (chained c key prevHash r).signatureKeyID
      = 34 := by
    have h := optionalBytes_of_length "signature_key_id"
      (length_keyID hc (publicOf key)) (by decide) (isPlain_hexEncode _)
    exact h.trans (by decide)
  have hpub : optionalBytes "signature_public_key"
      (chained c key prevHash r).signaturePublicKey = 70 := by
    have hlength : (base64Encode (publicOf key)).length = 44 := by
      rw [length_base64Encode, publicOf, List.length_drop, hkey]
    have h := optionalBytes_of_length "signature_public_key" hlength (by decide)
      (isPlain_base64Encode _)
    exact h.trans (by decide)
  have hsig : optionalBytes "signature" (chained c key prevHash r).signature = 103 := by
    have hlength : ∀ m, (base64Encode (c.sign key m)).length = 88 := by
      intro m
      rw [length_base64Encode, hc.length_sign _ m hkey]
    have h := optionalBytes_of_length "signature"
      (hlength (canonicalPayload { r with prevRecordSHA256 := prevHash }))
      (by decide) (isPlain_base64Encode _)
    exact h.trans (by decide)
  have hstripped : (chained c key prevHash r).stripped = r.stripped := rfl
  rw [length_marshalRecord, hrecord, hprevious, halg, hkeyID, hpub, hsig, hstripped,
    provenanceBytes]
  split_ifs <;> omega

theorem length_provenanced (hc : c.Lawful) (hseed : seed.length = 32) {prevHash : Str} {i : Nat}
    (hprev : IsReference prevHash) (hi : prevHash = [] ↔ i = 0) (r : ArtifactVersionRecord) :
  (marshalRecord (provenanced c seed prevHash r)).length = recordBytes r + provenanceBytes i
  := length_chained hc (hc.length_newKeyFromSeed seed hseed) hprev hi (normalizeRecord r)

/-- Records fit their lines precisely when they do without their provenance, that being added. -/
theorem chain_short_iff (hc : c.Lawful) {key prevHash : Str} (hkey : key.length = 64) {i : Nat}
    (hprev : IsReference prevHash) (hi : prevHash = [] ↔ i = 0) (rs : List ArtifactVersionRecord) :
  (∀ r ∈ chain c key prevHash rs, (marshalRecord r).length < maxLineBytes)
    ↔ ∀ j r, rs[j]? = some r →
      (marshalRecord r.stripped).length + provenanceBytes (i + j) < maxLineBytes
  := by
  induction rs generalizing prevHash i with
  | nil => simp [chain]
  | cons r rs ih =>
      have hnext := isReference_recordHash hc (chained c key prevHash r)
      rw [chain, List.forall_mem_cons, length_chained hc hkey hprev hi,
        ih (i := i + 1) hnext (by simp [recordHash_ne_nil hc])]
      constructor
      · rintro ⟨hfirst, hrest⟩ (- | j) r' hj
        · cases hj
          exact hfirst
        · have h := hrest j r' hj
          rwa [Nat.add_assoc, Nat.add_comm 1 j] at h
      · intro h
        use h 0 r rfl
        intro j r' hj
        have hnext := h (j + 1) r' hj
        rwa [Nat.add_assoc, Nat.add_comm 1 j]

/-- The records of a sequence of calls fit their lines, each call's record doing so. -/
theorem appended_short (hc : c.Lawful) (hseed : seed.length = 32) {prevHash : Str} {i : Nat}
    (hprev : IsReference prevHash) (hi : prevHash = [] ↔ i = 0) (rs : List ArtifactVersionRecord)
    (hshort : ∀ j r, rs[j]? = some r → recordBytes r + provenanceBytes (i + j) < maxLineBytes) :
  ∀ r ∈ appended c seed prevHash rs, (marshalRecord r).length < maxLineBytes
  := by
  rw [appended_eq_chain, chain_short_iff hc (hc.length_newKeyFromSeed seed hseed) hprev hi]
  intro j r hj
  rw [List.getElem?_map, Option.map_eq_some_iff] at hj
  obtain ⟨r, hr, rfl⟩ := hj
  exact hshort j r hr

/-- The records of a sequence of calls survive, those of the calls having no stray bytes. -/
theorem appended_survives (hc : c.Lawful) {prevHash : Str} (hprev : IsReference prevHash)
    {rs : List ArtifactVersionRecord} (hvalid : ∀ r ∈ rs, ∀ s ∈ r.texts, toValidUTF8 s = s) :
  ∀ r ∈ appended c seed prevHash rs, Survives r
  := by
  rw [appended_eq_chain]
  apply chain_survives hc hprev
  rw [List.forall_mem_map]
  intro r hr
  exact texts_normalizeRecord (hvalid r hr)

/-! ### What was appended verifies -/

/-- A row with its provenance is verified exactly where its key is trusted and verifies what it
signed. -/
theorem verified_chained_iff {dir : WorkDir} {i : Nat} {key prevHash : Str} (hc : c.Lawful)
    (hkey : key.length = 64) (hprev : IsReference prevHash) (hi : prevHash = [] ↔ i = 0)
    (r : ArtifactVersionRecord) :
  (verifyRow c dir i prevHash (chained c key prevHash r)).verified = true
    ↔ TrustsKey c key dir ∧ VerifiesOwn c key (canonicalPayload (chained c key prevHash r))
  := by
  have hhash : (chained c key prevHash r).recordSHA256
      = recordHash c.sha256 (chained c key prevHash r) := rfl
  have hown : recordHashIssues (trimSpace (chained c key prevHash r).recordSHA256)
      (recordHash c.sha256 (chained c key prevHash r)) = [] := by
    rw [hhash, trimSpace_recordHash, recordHashIssues,
      if_neg (recordHash_ne_nil hc _), if_neg (fun h => h rfl)]
  have htrim : trimSpace prevHash = prevHash := by
    rcases hprev with rfl | ⟨-, hplain⟩
    · rfl
    · apply trimSpace_of_graphic
      intro b hb
      have h := hplain b hb
      simp only [isPlain, Bool.and_eq_true, decide_eq_true_eq] at h
      exact ⟨h.1.1.1.1.1.1, h.1.1.1.1.1.2⟩
  have hprevious : prevHashIssues i (trimSpace (chained c key prevHash r).prevRecordSHA256)
      prevHash = [] := by
    show prevHashIssues i (trimSpace prevHash) prevHash = []
    rw [htrim, prevHashIssues]
    by_cases hzero : i = 0
    · simp [hzero, hi.mpr hzero]
    · simp [hzero, mt hi.mp hzero]
  have hissues : ∀ result : Except Issue Unit,
      (signatureIssues result).isEmpty = true ↔ result = .ok () := by
    rintro (e | -)
    · simp [signatureIssues]
    · simp [signatureIssues]
  rw [← verifyArtifactRecordSignature_signedWith_iff hkey (signedWith_chained key prevHash r),
    ← hissues]
  simp only [verifyRow, hown, hprevious, List.nil_append]

/-- A row whose hash, reference and signature are right is verified. -/
theorem verifyRow_verified {dir : WorkDir} {i : Nat} {prevHash : Str} (hc : c.Lawful)
    (hseed : seed.length = 32) (htrusts : Trusts c seed dir) (hprev : IsReference prevHash)
    (hi : prevHash = [] ↔ i = 0) (r : ArtifactVersionRecord) :
  (verifyRow c dir i prevHash (provenanced c seed prevHash r)).verified = true
  := by
  have hkey := hc.length_newKeyFromSeed seed hseed
  apply (verified_chained_iff hc hkey hprev hi (normalizeRecord r)).mpr
  exact ⟨htrusts, verifiesOwn_newKey hc hseed _⟩

/-- Every row of a sequence of calls is verified, and is the row of its call. -/
theorem verifyRows_appended {dir : WorkDir} (hc : c.Lawful) (hseed : seed.length = 32)
    (htrusts : Trusts c seed dir) {prevHash : Str} {i : Nat} (hprev : IsReference prevHash)
    (hi : prevHash = [] ↔ i = 0) (rs : List ArtifactVersionRecord) :
  (verifyRows c dir i prevHash (appended c seed prevHash rs)).map
      (fun row => (row.verified, row.index, row.runID, row.artifactName, row.artifactVersion))
    = rs.mapIdx fun j r => (true, i + j, r.runID, r.artifactName, r.artifactVersion)
  := by
  induction rs generalizing prevHash i with
  | nil => rfl
  | cons r rs ih =>
      have hverified := verifyRow_verified hc hseed htrusts hprev hi r
      have hrest := ih (i := i + 1) (isReference_recordHash hc (provenanced c seed prevHash r))
        (by simp [recordHash_ne_nil hc])
      rw [appended, verifyRows, List.map_cons, hverified, List.mapIdx_cons]
      simp only [ne_eq, recordHash_ne_nil hc, not_false_eq_true, if_true]
      rw [hrest]
      congr 1
      simp only [Nat.add_assoc, Nat.add_comm 1]

omit [UnicodeTables] in
/-- Rows that are described by verified ones are verified. -/
theorem forall_verified {rows : List ArtifactVersionVerification} {rs : List ArtifactVersionRecord}
    {describe : Nat → ArtifactVersionRecord → Bool × Nat × Str × Str × Str}
    (hdescribe : ∀ j r, (describe j r).1 = true)
    (h : rows.map
        (fun row => (row.verified, row.index, row.runID, row.artifactName, row.artifactVersion))
      = rs.mapIdx describe) :
  ∀ row ∈ rows, row.verified = true
  := by
  intro row hrow
  have hmem := List.mem_map_of_mem (f := fun row : ArtifactVersionVerification =>
    (row.verified, row.index, row.runID, row.artifactName, row.artifactVersion)) hrow
  rw [h, List.mem_mapIdx] at hmem
  obtain ⟨j, hj, hrow'⟩ := hmem
  rw [← hdescribe j (rs[j]), hrow']

end

/-! ### Runs -/

/-- A sequence of successful calls, one after the other, each with its own randomness. -/
inductive PersistRun (c : Crypto) : WorkDir → List ArtifactVersionRecord → WorkDir → Prop where
  | start (dir : WorkDir) : PersistRun c dir [] dir
  | call {start dir dir' : WorkDir} {rs : List ArtifactVersionRecord} {seed : Str}
      {r : ArtifactVersionRecord} (run : PersistRun c start rs dir) (hseed : seed.length = 32)
      (hcall : persistArtifactVersion c seed dir r = .ok dir') :
      PersistRun c start (rs ++ [r]) dir'

/-- The directory holds no history and no signing key yet. -/
def Fresh (dir : WorkDir) : Prop := dir.index = none ∧ dir.privateKey = none

/-- The directory holds the records of the calls and the key they were signed with, or
nothing as long as there was none. -/
def Holds (c : Crypto) (dir : WorkDir) (rs : List ArtifactVersionRecord) : Prop :=
  ExtraKeysParse c dir ∧
    ((rs = [] ∧ Fresh dir) ∨
      ∃ seed, KeyFiles c seed dir ∧
        dir.index = some (unlines ((appended c seed [] rs).map marshalRecord)))

section

variable {c : Crypto}

/-- What a call that succeeds does. -/
theorem persistArtifactVersion_eq_ok {seed : Str} {dir dir' : WorkDir} {r : ArtifactVersionRecord}
    (h : persistArtifactVersion c seed dir r = .ok dir') :
  ∃ prevHash key dir₁, previousArtifactRecordHash c dir = some prevHash ∧
    ensureArtifactRegistrySigner c seed dir = some (key, dir₁) ∧
    dir' = { dir₁ with
      index := some (dir₁.index.getD [] ++ (marshalRecord
        (withSignature c key { normalizeRecord r with prevRecordSHA256 := prevHash }) ++ [10])) }
  := by
  rw [persistArtifactVersion] at h
  split_ifs at h
  rw [applyArtifactRecordProvenance] at h
  cases hprev : previousArtifactRecordHash c dir with
  | none =>
      rw [hprev] at h
      cases h
  | some prevHash =>
      cases hsigner : ensureArtifactRegistrySigner c seed dir with
      | none =>
          rw [hprev, hsigner] at h
          cases h
      | some pair =>
          obtain ⟨key, dir₁⟩ := pair
          rw [hprev, hsigner] at h
          exact ⟨prevHash, key, dir₁, rfl, rfl, (Except.ok.inj h).symm⟩

theorem recordSHA256_of_mem_appended {seed prevHash : Str} {rs : List ArtifactVersionRecord}
    {r : ArtifactVersionRecord} (h : r ∈ appended c seed prevHash rs) :
  r.recordSHA256 = recordHash c.sha256 r
  := by
  induction rs generalizing prevHash with
  | nil => cases h
  | cons r' rs ih =>
      rw [appended, List.mem_cons] at h
      rcases h with rfl | h
      · rfl
      · exact ih h

/-- The next record refers to the last one. -/
theorem previousArtifactRecordHash_appended (hc : c.Lawful) {seed : Str} {dir : WorkDir}
    {rs : List ArtifactVersionRecord}
    (hindex : dir.index = some (unlines ((appended c seed [] rs).map marshalRecord)))
    (hshort : ∀ r ∈ appended c seed [] rs, (marshalRecord r).length < maxLineBytes) :
  previousArtifactRecordHash c dir = some (lastHash c [] (appended c seed [] rs))
  := by
  rw [previousArtifactRecordHash, hindex, readArtifactVersionRecords_unlines hshort]
  simp only [Option.bind_eq_bind, Option.bind_some, lastHash, List.getLast?_map]
  cases hlast : (appended c seed [] rs).getLast? with
  | none => rfl
  | some last =>
      have hown := recordSHA256_of_mem_appended (List.mem_of_getLast? hlast)
      have hread : (artifactVersionRecordJSON.canon last).recordSHA256
          = recordHash c.sha256 last := by
        rw [recordSHA256_canon, hown]
        exact toValidUTF8_of_isPlain (isPlain_hexEncode _)
      simp [hread, trimSpace_recordHash, recordHash_ne_nil hc]

/-- The records of a run have no stray bytes and fit the lines they are written to. -/
structure Sound (rs : List ArtifactVersionRecord) : Prop where
  valid : ∀ r ∈ rs, ∀ s ∈ r.texts, toValidUTF8 s = s
  short : ∀ i r, rs[i]? = some r → recordBytes r + provenanceBytes i < maxLineBytes

theorem Sound.of_concat {rs : List ArtifactVersionRecord} {r : ArtifactVersionRecord}
    (h : Sound (rs ++ [r])) :
  Sound rs
  := by
  constructor
  · intro r' hr'
    exact h.valid r' (List.mem_append_left _ hr')
  · intro i r' hi
    apply h.short i r'
    obtain ⟨hlt, -⟩ := List.getElem?_eq_some_iff.mp hi
    rw [List.getElem?_append_left hlt, hi]

theorem Sound.spec (hc : c.Lawful) {seed : Str} (hseed : seed.length = 32)
    {rs : List ArtifactVersionRecord} (h : Sound rs) :
  ∀ r ∈ appended c seed [] rs, Survives r ∧ (marshalRecord r).length < maxLineBytes
  := by
  have hshort := appended_short hc hseed (i := 0) (.inl rfl) (by simp) rs (by
    intro j r hj
    rw [Nat.zero_add]
    exact h.short j r hj)
  intro r hr
  exact ⟨appended_survives hc (.inl rfl) h.valid r hr, hshort r hr⟩

omit [UnicodeTables] in
theorem ExtraKeysParse.congr {dir dir' : WorkDir} (h : ExtraKeysParse c dir)
    (hkeyring : dir'.keyring = dir.keyring) (hexternal : dir'.externalKeyring = dir.externalKeyring)
    (hinline : dir'.inlineKeys = dir.inlineKeys) :
  ExtraKeysParse c dir'
  := by
  constructor
  · rw [hkeyring]
    exact h.keyring
  · rw [hexternal]
    exact h.externalKeyring
  · rw [hinline]
    exact h.inlineKeys

/-- A call appends its record to the others. -/
theorem Holds.call (hc : c.Lawful) {dir dir' : WorkDir} {rs : List ArtifactVersionRecord}
    {seed : Str} {r : ArtifactVersionRecord} (h : Holds c dir rs) (hrs : Sound rs)
    (hseed : seed.length = 32) (hcall : persistArtifactVersion c seed dir r = .ok dir') :
  Holds c dir' (rs ++ [r])
  := by
  obtain ⟨prevHash, key, dir₁, hprev, hsigner, rfl⟩ := persistArtifactVersion_eq_ok hcall
  obtain ⟨hextra, ⟨rfl, hindex, hkey⟩ | ⟨seed₀, hkeys, hindex⟩⟩ := h
  · -- the first call makes the key
    obtain ⟨dir₂, hensure, hkeys, -, hindex₂, hkeyring, hexternal, hinline⟩ :=
      keyFiles_of_ensure (c := c) hseed hkey
    rw [hensure, Option.some_inj, Prod.mk.injEq] at hsigner
    obtain ⟨rfl, rfl⟩ := hsigner
    have hprev' : previousArtifactRecordHash c dir = some [] := by
      rw [previousArtifactRecordHash, hindex]
      rfl
    rw [hprev', Option.some_inj] at hprev
    refine ⟨hextra.congr hkeyring hexternal hinline, .inr ⟨seed, ?_, ?_⟩⟩
    · exact ⟨hkeys.length_seed, hkeys.privateKey, hkeys.publicKey⟩
    · rw [appended_concat, appended, List.nil_append, List.map_singleton, unlines_singleton,
        hindex₂, hindex, ← hprev]
      rfl
  · -- the others find it in the files
    rw [ensureArtifactRegistrySigner_of_keyFiles hc hkeys, Option.some_inj, Prod.mk.injEq] at hsigner
    obtain ⟨rfl, rfl⟩ := hsigner
    have hspec := hrs.spec hc hkeys.length_seed
    rw [previousArtifactRecordHash_appended hc hindex fun r hr => (hspec r hr).2,
      Option.some_inj] at hprev
    refine ⟨hextra.congr rfl rfl rfl, .inr ⟨seed₀, ?_, ?_⟩⟩
    · exact ⟨hkeys.length_seed, hkeys.privateKey, hkeys.publicKey⟩
    · rw [appended_concat, List.map_append, unlines_append, List.map_singleton, unlines_singleton,
        hindex, Option.getD_some, hprev]
      rfl

theorem Holds.of_run (hc : c.Lawful) {start dir : WorkDir} (hstart : Fresh start)
    (hextra : ExtraKeysParse c start) {rs : List ArtifactVersionRecord}
    (run : PersistRun c start rs dir) (hrs : Sound rs) :
  Holds c dir rs
  := by
  induction run with
  | start => exact ⟨hextra, .inl ⟨rfl, hstart⟩⟩
  | call run hseed hcall ih =>
      have hbefore := hrs.of_concat
      exact (ih hbefore).call hc hbefore hseed hcall

theorem Holds.verifies (hc : c.Lawful) {dir : WorkDir} {rs : List ArtifactVersionRecord}
    (h : Holds c dir rs) (hrs : Sound rs) :
  ∃ rows, verifyArtifactVersionHistory c dir = some rows ∧
    rows.map (fun row =>
        (row.verified, row.index, row.runID, row.artifactName, row.artifactVersion))
      = rs.mapIdx fun i r => (true, i, r.runID, r.artifactName, r.artifactVersion)
  := by
  obtain ⟨hextra, ⟨rfl, hindex, -⟩ | ⟨seed, hkeys, hindex⟩⟩ := h
  · use []
    rw [verifyArtifactVersionHistory, hindex]
    exact ⟨rfl, rfl⟩
  · have hread := readArtifactVersionRecords_survives (hrs.spec hc hkeys.length_seed)
    use verifyRows c dir 0 [] (appended c seed [] rs)
    constructor
    · rw [verifyArtifactVersionHistory, hindex, hread, Option.map_some]
    · rw [verifyRows_appended hc hkeys.length_seed (hkeys.trusts hc hextra) (.inl rfl) (by simp)]
      simp

/-- A history written by the local signer verifies, one row per call in the order of the
calls. -/
theorem history_verifies (c : Crypto) (hc : c.Lawful) (start dir : WorkDir) (hstart : Fresh start)
    (hextra : ExtraKeysParse c start) (rs : List ArtifactVersionRecord)
    (run : PersistRun c start rs dir) (hrs : Sound rs) :
  ∃ rows, verifyArtifactVersionHistory c dir = some rows ∧
    rows.map (fun row =>
        (row.verified, row.index, row.runID, row.artifactName, row.artifactVersion))
      = rs.mapIdx fun i r => (true, i, r.runID, r.artifactName, r.artifactVersion)
  := (Holds.of_run hc hstart hextra run hrs).verifies hc hrs

end

end

/-! ### A history of one record -/

/-- The payload of the records below, for a version as it stands in the text. -/
def payloadText (version : Str) : Str :=
  str "\x7b\"schema_version\":\"artifact_history.v0.1\",\"run_id\":\"\"," ++
    str "\"run_started_at\":\"\",\"created_at\":\"\",\"artifact_name\":\"a\"," ++
    str "\"artifact_version\":\"" ++ version ++ str "\",\"artifact_path\":\"\"," ++
    str "\"artifact_sha256\":\"00\",\"matrix_path\":\"\",\"summary_status\":\"\"," ++
    str "\"required_passed\":0,\"required_failed\":0,\"total_profiles\":0," ++
    str "\"json_report_path\":\"r\"\x7d"

/-- Bytes from their hexadecimal text. -/
def ofHex (text : String) : Str := (hexDecode (str text)).getD []

/-- The public key of the seed of thirty-two zeros. -/
def zeroPublicKey : Str :=
  ofHex "3b6a27bcceb6a42d62a3a8d02a6f0d73653215771de243a63ac048a18b59da29"

/-- The digests of the texts that are hashed below. -/
def digests : List (Str × Str) :=
  [(zeroPublicKey, ofHex "139e3940e64b5491722088d9a0d741628fc826e09475d341a780acde3c4b8070"),
    (payloadText (str "1"),
      ofHex "903564db12ac9abb26269f92f1c3de554712fa2784c714003f65e143ba98e653"),
    (payloadText (str "2"),
      ofHex "c1ea0ddd36b3bc03b13bcd92a43114127ed101375db0f58a1146bb538a8d1d11"),
    (payloadText (str "v\\ufffd"),
      ofHex "00daacab61785b8878cbc989b864760f1f6ee757b2e6a8c42f765d07d94fddff"),
    (payloadText (str "v\uFFFD"),
      ofHex "e40a1844cc68b8800973eb8e44184e5b458378ece122ceea3eb43e3a426326f7")]

/-- The signatures of the payloads that are signed below. -/
def signatures : List (Str × Str) :=
  [(payloadText (str "1"),
      ofHex "02d5228236b544c9a5e4fb31112b048e05dde96f589c95cebb5f3c4a244c97998f79f277c8b50f1600d1a90dee525250f7a8fdb54384f3647d1c8c8fb4106506"),
    (payloadText (str "2"),
      ofHex "f49a3c9d9475af4865aaffd85e2a607c10ef3de5ef73b16eff7136c60a8822c4ce861423ce919167437233cdedea20ccb14b8bb920ce55ce936cb969b0169707"),
    (payloadText (str "v\\ufffd"),
      ofHex "18ec497e0faf3692ff70dca150e6eeea802b5a5b60586db2a1e17af191d16379b332f23db5a10ad71766e45bba1adf36bd28d716b0aad6cfef09a64ff457a903")]

section

variable (digests signatures : List (Str × Str))

/-- The signature under the key of zeros, and bytes of the same number for other keys. -/
def signatureOf (publicKey payload : Str) : Str :=
  if publicKey = zeroPublicKey then (signatures.lookup payload).getD (List.replicate 64 0)
  else List.replicate 64 0

/-- The standard functions on the texts of two tables. -/
def tableCrypto : Crypto where
  sha256 s := (digests.lookup s).getD (List.replicate 32 0)
  newKeyFromSeed seed :=
    if seed = List.replicate 32 0 then seed ++ zeroPublicKey else seed ++ seed
  sign key payload := signatureOf signatures (key.drop 32) payload
  verify publicKey payload signature := signature = signatureOf signatures publicKey payload

end

theorem length_lookup_getD {n : Nat} {table : List (Str × Str)}
    (h : ∀ e ∈ table, e.2.length = n) (s : Str) :
  ((table.lookup s).getD (List.replicate n 0)).length = n
  := by
  cases hs : table.lookup s with
  | none => simp
  | some d =>
      obtain ⟨before, after, htable, -⟩ := List.lookup_eq_some_iff.mp hs
      exact h (s, d) (by simp [htable])

theorem tableCrypto_lawful {digests signatures : List (Str × Str)}
    (hdigests : ∀ e ∈ digests, e.2.length = 32) (hsignatures : ∀ e ∈ signatures, e.2.length = 64) :
  (tableCrypto digests signatures).Lawful
  := by
  have hzero : zeroPublicKey.length = 32 := by decide
  have hsignature : ∀ k m, (signatureOf signatures k m).length = 64 := by
    intro k m
    rw [signatureOf]
    split_ifs
    · exact length_lookup_getD hsignatures m
    · exact List.length_replicate
  constructor
  · intro s
    exact length_lookup_getD hdigests s
  · intro seed hseed
    show (if seed = List.replicate 32 0 then seed ++ zeroPublicKey else seed ++ seed).length = 64
    split_ifs
    · rw [List.length_append, hseed, hzero]
    · rw [List.length_append, hseed]
  · intro key m _
    exact hsignature _ m
  · intro seed m _
    exact decide_eq_true rfl

/-- The standard functions on the inputs below. -/
def tabledCrypto : Crypto := tableCrypto digests signatures

theorem tabledCrypto_lawful :
  tabledCrypto.Lawful
  := tableCrypto_lawful (by decide +kernel) (by decide +kernel)

/-- An empty directory. -/
def emptyDir : WorkDir where
  path := str ".bpfcompat"

/-- A record of one artifact in a version. -/
def simpleRecord (version : Str) : ArtifactVersionRecord where
  artifactName := str "a"
  artifactVersion := version
  artifactSHA256 := str "00"
  jsonReportPath := str "r"

theorem recordBytes_first [UnicodeTables] :
  recordBytes (simpleRecord (str "1")) = 294
  := by
  -- the bytes of a record do not depend on the tables
  have hascii : @recordBytes asciiTables (simpleRecord (str "1")) = 294 := by decide +kernel
  exact hascii

theorem sound_first [UnicodeTables] :
  Sound [simpleRecord (str "1")]
  := by
  constructor
  · decide
  · intro i r hi
    cases i with
    | zero =>
        cases hi
        rw [recordBytes_first]
        decide
    | succ i => cases hi

theorem emptyDir_extraKeysParse :
  ExtraKeysParse tabledCrypto emptyDir
  := by
  constructor
  · intro raw hraw
    cases hraw
  · intro raw hraw
    cases hraw
  · have hnone : splitInlineTrustedKeys (trimSpace emptyDir.inlineKeys) = [] := by decide
    rw [hnone]
    simp

section

attribute [local instance] asciiTables

/-- The seed of thirty-two zeros. -/
def zeroSeed : Str := List.replicate 32 0

/-- The directory after the first record. -/
def firstDir (version : Str) : WorkDir :=
  { emptyDir with
    privateKey := some (base64Encode (tabledCrypto.newKeyFromSeed zeroSeed) ++ [10])
    publicKey := some (keyIDFromPublicKey tabledCrypto
      (publicOf (tabledCrypto.newKeyFromSeed zeroSeed)) ++ str " " ++
      base64Encode (publicOf (tabledCrypto.newKeyFromSeed zeroSeed)) ++ [10])
    index := some (marshalRecord (provenanced tabledCrypto zeroSeed [] (simpleRecord version)) ++
      [10]) }

theorem firstDir_run {version : Str} (h : trimSpace version ≠ []) :
  PersistRun tabledCrypto emptyDir [simpleRecord version] (firstDir version)
  := by
  have hprovenance : applyArtifactRecordProvenance tabledCrypto zeroSeed emptyDir
      (normalizeRecord (simpleRecord version))
        = .ok (provenanced tabledCrypto zeroSeed [] (simpleRecord version),
            { firstDir version with index := none }) := rfl
  have hpath : emptyDir.path ≠ [] := by decide
  have hname : trimSpace (simpleRecord version).artifactName ≠ [] := by
    show trimSpace (str "a") ≠ []
    decide
  have hsha : trimSpace (simpleRecord version).artifactSHA256 ≠ [] := by
    show trimSpace (str "00") ≠ []
    decide
  have hreport : trimSpace (simpleRecord version).jsonReportPath ≠ [] := by
    show trimSpace (str "r") ≠ []
    decide
  have hversion : trimSpace (simpleRecord version).artifactVersion ≠ [] := h
  have hcall : persistArtifactVersion tabledCrypto zeroSeed emptyDir (simpleRecord version)
      = .ok (firstDir version) := by
    rw [persistArtifactVersion, hprovenance, if_neg hpath, if_neg hname, if_neg hversion,
      if_neg hsha, if_neg hreport]
    rfl
  exact .call (.start emptyDir) List.length_replicate hcall

/-- The bytes of the first record of the history. -/
theorem length_first {version : Str} {n : Nat} (h : recordBytes (simpleRecord version) = n) :
  (marshalRecord (provenanced tabledCrypto zeroSeed [] (simpleRecord version))).length = n + 316
  := by
  have hseed : zeroSeed.length = 32 := List.length_replicate
  rw [length_provenanced (i := 0) tabledCrypto_lawful hseed (.inl rfl) (by simp), h]
  rfl

/-- A record with a stray byte is appended, and does not verify. -/
theorem history_fails_on_stray_byte :
  tabledCrypto.Lawful ∧ Fresh emptyDir ∧ ExtraKeysParse tabledCrypto emptyDir ∧
    PersistRun tabledCrypto emptyDir [simpleRecord [118, 255]] (firstDir [118, 255]) ∧
    ∃ row, verifyArtifactVersionHistory tabledCrypto (firstDir [118, 255]) = some [row] ∧
      row.verified = false
  := by
  refine ⟨tabledCrypto_lawful, ⟨rfl, rfl⟩, emptyDir_extraKeysParse,
    firstDir_run (by decide), ?_⟩
  -- the payload that was hashed, and the one that is recomputed from the line
  have hwritten : canonicalPayload (provenanced tabledCrypto zeroSeed [] (simpleRecord [118, 255]))
      = payloadText (str "v\\ufffd") := by
    rw [canonicalPayload, canonicalRecord_provenanced_nil rfl]
    decide +kernel
  have hreread : canonicalPayload (artifactVersionRecordJSON.canon
      (provenanced tabledCrypto zeroSeed [] (simpleRecord [118, 255])))
        = payloadText (str "v\uFFFD") := by
    rw [canonicalPayload, canonicalRecord_canon, canonicalRecord_provenanced_nil rfl]
    decide +kernel
  have hhashes : hexEncode (tabledCrypto.sha256 (payloadText (str "v\\ufffd")))
      ≠ hexEncode (tabledCrypto.sha256 (payloadText (str "v\uFFFD"))) := by
    decide +kernel
  generalize hr : provenanced tabledCrypto zeroSeed [] (simpleRecord [118, 255]) = r at *
  have hstored : (artifactVersionRecordJSON.canon r).recordSHA256
      = recordHash tabledCrypto.sha256 r := by
    rw [recordSHA256_canon, ← hr, recordSHA256_provenanced, recordHash]
    exact toValidUTF8_of_isPlain (isPlain_hexEncode _)
  have hbytes : recordBytes (simpleRecord [118, 255]) = 300 := by decide +kernel
  have hshort : ∀ r' ∈ [r], (marshalRecord r').length < maxLineBytes := by
    intro r' hr'
    rw [List.mem_singleton] at hr'
    rw [hr', ← hr, length_first hbytes]
    decide
  have hindex : (firstDir [118, 255]).index = some (unlines ([r].map marshalRecord)) := by
    rw [List.map_singleton, unlines_singleton, ← hr]
    rfl
  refine ⟨verifyRow tabledCrypto (firstDir [118, 255]) 0 [] (artifactVersionRecordJSON.canon r),
    ?_, ?_⟩
  · rw [verifyArtifactVersionHistory, hindex, readArtifactVersionRecords_unlines hshort]
    rfl
  · have hissues : recordHashIssues (trimSpace (artifactVersionRecordJSON.canon r).recordSHA256)
        (recordHash tabledCrypto.sha256 (artifactVersionRecordJSON.canon r)) ≠ [] := by
      rw [hstored, trimSpace_recordHash, recordHashIssues,
        if_neg (recordHash_ne_nil tabledCrypto_lawful _), if_pos]
      · apply List.cons_ne_nil
      · rw [recordHash, recordHash, hwritten, hreread]
        exact hhashes
    simp [verifyRow, hissues]

/-- The history of one record verifies. -/
theorem history_verifies_first :
  ∃ rows, verifyArtifactVersionHistory tabledCrypto (firstDir (str "1")) = some rows ∧
    rows.map (fun row =>
        (row.verified, row.index, row.runID, row.artifactName, row.artifactVersion))
      = [(true, 0, [], str "a", str "1")]
  := history_verifies tabledCrypto tabledCrypto_lawful emptyDir (firstDir (str "1")) ⟨rfl, rfl⟩
    emptyDir_extraKeysParse [simpleRecord (str "1")] (firstDir_run (by decide)) sound_first

end

end Registry
