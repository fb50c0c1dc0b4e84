import BpfCompat.Registry.Bootstrap

/-!
# Provenance for a history that has none

A backfill reads the history, gives every record a new place in the chain and a new signature, and
writes the records to a file of their own, which replaces the index when it is complete.  What the
records had for provenance before does not matter.

The history verifies afterwards precisely when the key of the signer is trusted, the key verifies
what it signed, and every line still fits the buffer of the reader (`backfill_restores_iff`).
-/

namespace Registry

open Go Go.Json

section

variable [UnicodeTables]

/-! ### The backfill -/

/-- What can go wrong with the files, with the part that was written by then, and whether the
temporary file can be removed. -/
inductive BackfillFault where
  | readKey
  | writeKey (progress : Progress)
  | registryDir
  | createTemp
  | writeTemp (line written : Nat) (removed : Bool)
  | closeTemp (removed : Bool)
  | rename (removed : Bool)

inductive BackfillError where
  | historyUnreadable
  | signingKeyUnreadable
  | signingKeyUndecodable
  | signingKeyUnwritable
  | registryDir
  | createTemp
  | writeTemp
  | closeTemp
  | replaceIndex
deriving DecidableEq

/-- The working directory and the file `registry/artifact_versions.jsonl.tmp`. -/
structure IndexFiles where
  dir : WorkDir
  temp : Option Str := none

/-- The key of the local signer.  A key is written only where there is none. -/
def ensureArtifactRecordSigner (c : Crypto) (seed : Str) (fault : Option BackfillFault)
    (dir : WorkDir) : Except BackfillError Str × WorkDir :=
  match fault, dir.privateKey with
  | some .readKey, _ => (.error .signingKeyUnreadable, dir)
  | some (.writeKey progress), none =>
    (.error .signingKeyUnwritable, crashed c seed dir progress)
  | _, _ =>
    match ensureArtifactRegistrySigner c seed dir with
    | none => (.error .signingKeyUndecodable, dir)
    | some (key, dir) => (.ok key, dir)

/-- Writes the lines to the temporary file and puts it in the place of the index. -/
def replaceIndex (fault : Option BackfillFault) (lines : List Str) (files : IndexFiles) :
    Except BackfillError Unit × IndexFiles :=
  let left (removed : Bool) (written : Str) : IndexFiles :=
    { files with temp := if removed then none else some written }
  let replaced : IndexFiles :=
    { dir := { files.dir with index := some (unlines lines) }, temp := none }
  match fault with
  | some .registryDir => (.error .registryDir, files)
  | some .createTemp => (.error .createTemp, files)
  | some (.writeTemp line written removed) =>
    if line < lines.length then
      (.error .writeTemp, left removed
        (unlines (lines.take line) ++ (lines.getD line [] ++ [10]).take written))
    else (.ok (), replaced)
  | some (.closeTemp removed) => (.error .closeTemp, left removed (unlines lines))
  | some (.rename removed) => (.error .replaceIndex, left removed (unlines lines))
  | _ => (.ok (), replaced)

/-- Gives every record of the history its provenance anew. -/
def backfillArtifactVersionProvenance (c : Crypto) (seed : Str) (fault : Option BackfillFault)
    (files : IndexFiles) : Except BackfillError Nat × IndexFiles :=
  match readArtifactVersionRecords files.dir.index with
  | none => (.error .historyUnreadable, files)
  | some records =>
    if records = [] then (.ok 0, files)
    else
      match ensureArtifactRecordSigner c seed fault files.dir with
      | (.error e, dir) => (.error e, { files with dir := dir })
      | (.ok key, dir) =>
        let lines := (chain c key [] records).map marshalRecord
        match replaceIndex fault lines { files with dir := dir } with
        | (.error e, files) => (.error e, files)
        | (.ok _, files) => (.ok records.length, files)

/-! ### The index is replaced or left alone -/

section

variable {c : Crypto} {seed : Str} {fault : Option BackfillFault} {files files' : IndexFiles}
  {records : List ArtifactVersionRecord}

omit [UnicodeTables] in
theorem index_crashed (dir : WorkDir) (progress : Progress) :
  (crashed c seed dir progress).index = dir.index
  := by
  cases progress with
  | nothing => rfl
  | privateKey written => rfl
  | publicKey written => rfl

omit [UnicodeTables] in
theorem index_of_ensure {dir dir' : WorkDir} {key : Str}
    (h : ensureArtifactRegistrySigner c seed dir = some (key, dir')) :
  dir'.index = dir.index
  := by
  rw [ensureArtifactRegistrySigner] at h
  split at h
  · rw [Option.map_eq_some_iff] at h
    obtain ⟨_, -, h⟩ := h
    cases h
    rfl
  · cases h
    rfl

omit [UnicodeTables] in
/-- What the signer does: it fails and leaves the index alone, or has its key. -/
theorem ensureArtifactRecordSigner_cases (c : Crypto) (seed : Str) (fault : Option BackfillFault)
    (dir : WorkDir) :
  (∃ e dir', ensureArtifactRecordSigner c seed fault dir = (.error e, dir') ∧
      dir'.index = dir.index) ∨
    ∃ key dir', ensureArtifactRecordSigner c seed fault dir = (.ok key, dir') ∧
      ensureArtifactRegistrySigner c seed dir = some (key, dir')
  := by
  unfold ensureArtifactRecordSigner
  split
  · exact .inl ⟨_, _, rfl, rfl⟩
  · exact .inl ⟨_, _, rfl, index_crashed dir _⟩
  · split
    · exact .inl ⟨_, _, rfl, rfl⟩
    · rename_i key dir' hensure
      exact .inr ⟨key, dir', rfl, hensure⟩

omit [UnicodeTables] in
/-- What the replacement does: it fails and leaves the index alone, or replaces it. -/
theorem replaceIndex_cases (fault : Option BackfillFault) (lines : List Str) (files : IndexFiles) :
  (∃ e files', replaceIndex fault lines files = (.error e, files') ∧ files'.dir = files.dir) ∨
    replaceIndex fault lines files
      = (.ok (), { dir := { files.dir with index := some (unlines lines) }, temp := none })
  := by
  unfold replaceIndex
  dsimp only
  split
  · exact .inl ⟨_, _, rfl, rfl⟩
  · exact .inl ⟨_, _, rfl, rfl⟩
  · split
    · exact .inl ⟨_, _, rfl, rfl⟩
    · exact .inr rfl
  · exact .inl ⟨_, _, rfl, rfl⟩
  · exact .inl ⟨_, _, rfl, rfl⟩
  · exact .inr rfl

/-- The directory after a backfill that succeeded. -/
def restored (c : Crypto) (key : Str) (dir : WorkDir) (records : List ArtifactVersionRecord) :
    WorkDir :=
  { dir with index := some (unlines ((chain c key [] records).map marshalRecord)) }

/-- What a backfill of records does: it fails and leaves the index alone, or restores them. -/
theorem backfill_cases (files : IndexFiles)
    (hread : readArtifactVersionRecords files.dir.index = some records) (hne : records ≠ [])
    (seed : Str) (fault : Option BackfillFault) :
  (∃ e files', backfillArtifactVersionProvenance c seed fault files = (.error e, files') ∧
      files'.dir.index = files.dir.index) ∨
    ∃ key dir, ensureArtifactRegistrySigner c seed files.dir = some (key, dir) ∧
      backfillArtifactVersionProvenance c seed fault files
        = (.ok records.length, { dir := restored c key dir records, temp := none })
  := by
  rw [backfillArtifactVersionProvenance, hread]
  simp only [if_neg hne]
  rcases ensureArtifactRecordSigner_cases c seed fault files.dir with
    ⟨e, dir, hsigner, hindex⟩ | ⟨key, dir, hsigner, hensure⟩
  · rw [hsigner]
    exact .inl ⟨e, _, rfl, hindex⟩
  · rw [hsigner]
    dsimp only
    rcases replaceIndex_cases fault ((chain c key [] records).map marshalRecord)
      { files with dir := dir } with ⟨e, files', hreplace, hdir⟩ | hreplace
    · rw [hreplace]
      refine .inl ⟨e, files', rfl, ?_⟩
      rw [hdir]
      exact index_of_ensure hensure
    · rw [hreplace]
      exact .inr ⟨key, dir, hensure, rfl⟩

/-- Without a fault the records are restored as soon as there is a key. -/
theorem backfill_of_ensure (hread : readArtifactVersionRecords files.dir.index = some records)
    (hne : records ≠ []) {key : Str} {dir : WorkDir}
    (hensure : ensureArtifactRegistrySigner c seed files.dir = some (key, dir)) :
  backfillArtifactVersionProvenance c seed none files
    = (.ok records.length, { dir := restored c key dir records, temp := none })
  := by
  have hsigner : ensureArtifactRecordSigner c seed none files.dir = (.ok key, dir) := by
    simp [ensureArtifactRecordSigner, hensure]
  rw [backfillArtifactVersionProvenance, hread]
  simp only [if_neg hne, hsigner]
  rfl

/-- A backfill that fails leaves the index alone. -/
theorem index_of_backfill_error {e : BackfillError}
    (h : backfillArtifactVersionProvenance c seed fault files = (.error e, files')) :
  files'.dir.index = files.dir.index
  := by
  cases hread : readArtifactVersionRecords files.dir.index with
  | none =>
      rw [backfillArtifactVersionProvenance, hread] at h
      cases h
      rfl
  | some records =>
      by_cases hne : records = []
      · rw [backfillArtifactVersionProvenance, hread] at h
        simp only [if_pos hne] at h
        cases h
      · rcases backfill_cases files hread hne seed fault with ⟨_, _, hcase, hindex⟩ | ⟨_, _, -, hcase⟩
        · rw [hcase] at h
          cases h
          exact hindex
        · rw [hcase] at h
          cases h

/-! ### A second backfill -/

/-- The provenance of a record does not depend on the one it had. -/
theorem chained_chained (key prevHash : Str) (r : ArtifactVersionRecord) :
  chained c key prevHash (chained c key prevHash r) = chained c key prevHash r
  := rfl

theorem chain_chain (key prevHash : Str) (rs : List ArtifactVersionRecord) :
  chain c key prevHash (chain c key prevHash rs) = chain c key prevHash rs
  := by
  induction rs generalizing prevHash with
  | nil => rfl
  | cons r rs ih => rw [chain, chain, chained_chained, ih]

/-- What is not provenance stays as it is. -/
theorem map_stripped_chain (key prevHash : Str) (rs : List ArtifactVersionRecord) :
  (chain c key prevHash rs).map (·.stripped) = rs.map (·.stripped)
  := by
  induction rs generalizing prevHash with
  | nil => rfl
  | cons r rs ih =>
      rw [chain, List.map_cons, ih]
      rfl

theorem chain_ne_nil {key prevHash : Str} (hne : records ≠ []) :
  chain c key prevHash records ≠ []
  := by
  obtain ⟨r, rs, rfl⟩ := List.exists_cons_of_ne_nil hne
  apply List.cons_ne_nil

omit [UnicodeTables] in
/-- A key that was made or found is found again. -/
theorem ensure_again (hc : c.Lawful) (hseed : seed.length = 32) {dir dir' : WorkDir} {key : Str}
    (h : ensureArtifactRegistrySigner c seed dir = some (key, dir')) (index : Option Str)
    (seed' : Str) :
  ensureArtifactRegistrySigner c seed' { dir' with index := index }
    = some (key, { dir' with index := index })
  := by
  cases hkey : dir.privateKey with
  | none =>
      obtain ⟨dir₁, hensure, hfiles, -⟩ := keyFiles_of_ensure (c := c) hseed hkey
      rw [hensure, Option.some_inj, Prod.mk.injEq] at h
      obtain ⟨rfl, rfl⟩ := h
      have hfiles' : KeyFiles c seed { dir₁ with index := index } :=
        ⟨hfiles.length_seed, hfiles.privateKey, hfiles.publicKey⟩
      exact ensureArtifactRegistrySigner_of_keyFiles hc hfiles' seed'
  | some raw =>
      rw [ensureArtifactRegistrySigner, hkey, Option.map_eq_some_iff] at h
      obtain ⟨key', hdecode, h⟩ := h
      rw [Prod.mk.injEq] at h
      obtain ⟨rfl, rfl⟩ := h
      rw [ensureArtifactRegistrySigner]
      simp only [hkey, hdecode, Option.map_some]

omit [UnicodeTables] in
theorem length_of_ensure (hc : c.Lawful) (hseed : seed.length = 32) {dir dir' : WorkDir} {key : Str}
    (h : ensureArtifactRegistrySigner c seed dir = some (key, dir')) :
  key.length = 64
  := by
  rw [ensureArtifactRegistrySigner] at h
  split at h
  · rw [Option.map_eq_some_iff] at h
    obtain ⟨key', hdecode, h⟩ := h
    rw [Prod.mk.injEq] at h
    obtain ⟨rfl, -⟩ := h
    rw [decodeEd25519PrivateKey, Option.bind_eq_bind, Option.bind_eq_some_iff] at hdecode
    obtain ⟨decoded, -, hdecode⟩ := hdecode
    split_ifs at hdecode with hwhole hseeded
    · cases hdecode
      exact hwhole
    · cases hdecode
      exact hc.length_newKeyFromSeed decoded hseeded
  · cases h
    exact hc.length_newKeyFromSeed seed hseed

/-! ### The restored history -/

/-- The records are read back from the restored index. -/
theorem read_restored (hc : c.Lawful) {key : Str} {dir : WorkDir}
    (hsurvive : ∀ r ∈ records, Survives r)
    (hshort : ∀ r ∈ chain c key [] records, (marshalRecord r).length < maxLineBytes) :
  readArtifactVersionRecords (restored c key dir records).index = some (chain c key [] records)
  := by
  apply readArtifactVersionRecords_survives
  intro r hr
  have hvalid : ∀ r ∈ records, ∀ s ∈ r.texts, toValidUTF8 s = s := by
    intro r hr s hs
    exact survives_iff.mp (hsurvive r hr) s (List.mem_append_left _ hs)
  exact ⟨chain_survives hc (.inl rfl) hvalid r hr, hshort r hr⟩

theorem read_restored_eq_none {key : Str} {dir : WorkDir}
    (hlong : ¬ ∀ r ∈ chain c key [] records, (marshalRecord r).length < maxLineBytes) :
  readArtifactVersionRecords (restored c key dir records).index = none
  := readArtifactVersionRecords_long hlong

/-- The rows of restored records are verified exactly where the key is trusted and verifies what it
signed. -/
theorem verifyRows_chain_iff (hc : c.Lawful) {dir : WorkDir} {key prevHash : Str}
    (hkey : key.length = 64) {i : Nat} (hprev : IsReference prevHash) (hi : prevHash = [] ↔ i = 0)
    (rs : List ArtifactVersionRecord) :
  (∀ row ∈ verifyRows c dir i prevHash (chain c key prevHash rs), row.verified = true)
    ↔ ∀ r ∈ chain c key prevHash rs, TrustsKey c key dir ∧ VerifiesOwn c key (canonicalPayload r)
  := by
  induction rs generalizing prevHash i with
  | nil => simp [chain, verifyRows]
  | cons r rs ih =>
      have hnext := isReference_recordHash hc (chained c key prevHash r)
      rw [chain, verifyRows, List.forall_mem_cons, List.forall_mem_cons,
        verified_chained_iff hc hkey hprev hi]
      simp only [ne_eq, recordHash_ne_nil hc, not_false_eq_true, if_true]
      rw [ih (i := i + 1) hnext (by simp [recordHash_ne_nil hc])]

/-- What a backfill of a readable history promises, whatever goes wrong with the files. -/
structure Restores (c : Crypto) (seed : Str) (files : IndexFiles)
    (records : List ArtifactVersionRecord) : Prop where
  success : ∀ fault n files',
    backfillArtifactVersionProvenance c seed fault files = (.ok n, files') →
      AllVerified c files'.dir ∧
      (∃ records', readArtifactVersionRecords files'.dir.index = some records' ∧
        records'.map (·.stripped) = records.map (·.stripped)) ∧
      ∀ seed' fault', seed'.length = 32 →
        (backfillArtifactVersionProvenance c seed' fault' files').2.dir.index = files'.dir.index
  failure : ∀ fault e files',
    backfillArtifactVersionProvenance c seed fault files = (.error e, files') →
      files'.dir.index = files.dir.index

/-- The key a backfill signs with, and the lines it writes, let the history verify. -/
structure Restorable (c : Crypto) (key : Str) (dir : WorkDir)
    (records : List ArtifactVersionRecord) : Prop where
  trusted : TrustsKey c key dir
  verifies : ∀ r ∈ chain c key [] records, VerifiesOwn c key (canonicalPayload r)
  short : ∀ i r, records[i]? = some r →
    (marshalRecord r.stripped).length + provenanceBytes i < maxLineBytes

/-- The restored history verifies precisely when it can. -/
theorem allVerified_restored_iff (hc : c.Lawful) {key : Str} (hkey : key.length = 64)
    {dir : WorkDir} (hne : records ≠ []) (hsurvive : ∀ r ∈ records, Survives r) :
  AllVerified c (restored c key dir records) ↔ Restorable c key dir records
  := by
  have hbytes := chain_short_iff hc hkey (i := 0) (.inl rfl) (by simp) records
  simp only [Nat.zero_add] at hbytes
  by_cases hshort : ∀ r ∈ chain c key [] records, (marshalRecord r).length < maxLineBytes
  · have hread : readArtifactVersionRecords (restored c key dir records).index
        = some (chain c key [] records) := read_restored hc hsurvive hshort
    have hall : AllVerified c (restored c key dir records) ↔ ∀ row ∈ verifyRows c
        (restored c key dir records) 0 [] (chain c key [] records), row.verified = true := by
      rw [AllVerified, verifyArtifactVersionHistory, hread]
      simp
    rw [hall, verifyRows_chain_iff hc hkey (.inl rfl) (by simp)]
    constructor
    · intro h
      obtain ⟨r, hr⟩ := List.exists_mem_of_ne_nil _ (chain_ne_nil hne)
      exact ⟨(h r hr).1, fun r hr => (h r hr).2, hbytes.mp hshort⟩
    · intro h r hr
      exact ⟨h.trusted, h.verifies r hr⟩
  · apply iff_of_false
    · rintro ⟨rows, hrows, -⟩
      rw [verifyArtifactVersionHistory, read_restored_eq_none hshort] at hrows
      cases hrows
    · intro h
      exact hshort (hbytes.mpr h.short)

/-- A second backfill leaves the restored index as it is. -/
theorem index_backfill_restored (hc : c.Lawful) (hseed : seed.length = 32) {key : Str}
    {dir dir' : WorkDir} (hensure : ensureArtifactRegistrySigner c seed dir = some (key, dir'))
    (hne : records ≠ []) (hsurvive : ∀ r ∈ records, Survives r) (seed' : Str)
    (fault' : Option BackfillFault) :
  (backfillArtifactVersionProvenance c seed' fault'
      { dir := restored c key dir' records, temp := none }).2.dir.index
    = (restored c key dir' records).index
  := by
  by_cases hshort : ∀ r ∈ chain c key [] records, (marshalRecord r).length < maxLineBytes
  · have hread : readArtifactVersionRecords (restored c key dir' records).index
        = some (chain c key [] records) := read_restored hc hsurvive hshort
    rcases backfill_cases { dir := restored c key dir' records, temp := none } hread
      (chain_ne_nil hne) seed' fault' with ⟨e, files', hcase, hindex⟩ | ⟨key', dir'', hagain, hcase⟩
    · rw [hcase]
      exact hindex
    · have hsame := ensure_again hc hseed hensure (restored c key dir' records).index seed'
      obtain ⟨rfl, -⟩ := Prod.mk.inj (Option.some_inj.mp (hagain.symm.trans hsame))
      rw [hcase]
      simp only [restored, chain_chain]
  · rw [backfillArtifactVersionProvenance, read_restored_eq_none hshort]

/-- A backfill restores a readable history precisely when there is nothing to restore, no key to
sign with, or a key and lines that let it verify. -/
theorem backfill_restores_iff (c : Crypto) (hc : c.Lawful) (seed : Str) (hseed : seed.length = 32)
    (files : IndexFiles) (records : List ArtifactVersionRecord)
    (hread : readArtifactVersionRecords files.dir.index = some records) :
  Restores c seed files records ↔
    records = [] ∨ ∀ key dir, ensureArtifactRegistrySigner c seed files.dir = some (key, dir) →
      Restorable c key dir records
  := by
  have hsurvive := survives_of_read hread
  by_cases hne : records = []
  · apply iff_of_true _ (.inl hne)
    subst hne
    have hnothing : ∀ seed fault, backfillArtifactVersionProvenance c seed fault files
        = (.ok 0, files) := by
      intro seed fault
      rw [backfillArtifactVersionProvenance, hread]
      simp
    constructor
    · intro fault n files' h
      rw [hnothing] at h
      cases h
      refine ⟨⟨[], ?_, List.forall_mem_nil _⟩, ⟨[], hread, rfl⟩, ?_⟩
      · rw [verifyArtifactVersionHistory, hread]
        rfl
      · intro seed' fault' _
        rw [hnothing]
    · intro fault e files' h
      rw [hnothing] at h
      cases h
  · rw [or_iff_right hne]
    constructor
    · intro h key dir hensure
      have hverified := (h.success _ _ _ (backfill_of_ensure hread hne hensure)).1
      exact (allVerified_restored_iff hc (length_of_ensure hc hseed hensure) hne hsurvive).mp
        hverified
    · intro h
      constructor
      · intro fault n files' hok
        rcases backfill_cases files hread hne seed fault with
          ⟨e, files'', hcase, -⟩ | ⟨key, dir, hensure, hcase⟩
        · rw [hcase] at hok
          cases hok
        · rw [hcase] at hok
          cases hok
          have hkey := length_of_ensure hc hseed hensure
          have hverified := (allVerified_restored_iff hc hkey hne hsurvive).mpr (h key dir hensure)
          refine ⟨hverified, ⟨chain c key [] records, ?_, map_stripped_chain key [] records⟩, ?_⟩
          · apply read_restored hc hsurvive
            rw [chain_short_iff hc hkey (i := 0) (.inl rfl) (by simp)]
            simpa only [Nat.zero_add] using (h key dir hensure).short
          · intro seed' fault' _
            exact index_backfill_restored hc hseed hensure hne hsurvive seed' fault'
      · intro fault e files' herror
        exact index_of_backfill_error herror

end

end

/-! ### A history without provenance -/

section

attribute [local instance] asciiTables

/-- A record that was never signed. -/
def unsignedRecord : ArtifactVersionRecord := normalizeRecord (simpleRecord (str "1"))

theorem survives_unsigned :
  Survives unsignedRecord
  := by
  rw [survives_iff, List.forall_mem_append]
  constructor
  · exact texts_normalizeRecord (sound_first.valid _ List.mem_cons_self)
  · decide

theorem length_unsigned :
  (marshalRecord unsignedRecord).length = 294
  := recordBytes_first

/-- A directory with the record, and with a private key or without. -/
def unsignedFiles (privateKey : Option Str) : IndexFiles where
  dir := { emptyDir with
    index := some (marshalRecord unsignedRecord ++ [10])
    privateKey := privateKey }

theorem read_unsigned (privateKey : Option Str) :
  readArtifactVersionRecords (unsignedFiles privateKey).dir.index = some [unsignedRecord]
  := by
  have hread : readArtifactVersionRecords (some (unlines ([unsignedRecord].map marshalRecord)))
      = some [unsignedRecord] := by
    apply readArtifactVersionRecords_survives
    rw [List.forall_mem_singleton]
    use survives_unsigned
    rw [length_unsigned]
    decide
  rwa [List.map_singleton, unlines_singleton] at hread

theorem backfill_restores_unsigned :
  readArtifactVersionRecords (unsignedFiles none).dir.index = some [unsignedRecord] ∧
    Restores tabledCrypto zeroSeed (unsignedFiles none) [unsignedRecord]
  := by
  have hseed : zeroSeed.length = 32 := List.length_replicate
  use read_unsigned none
  apply (backfill_restores_iff tabledCrypto tabledCrypto_lawful zeroSeed hseed (unsignedFiles none)
    [unsignedRecord] (read_unsigned none)).mpr
  right
  intro key dir hensure
  have hnone : (unsignedFiles none).dir.privateKey = none := rfl
  obtain ⟨dir₁, hmade, hfiles, -, -, hkeyring, hexternal, hinline⟩ :=
    keyFiles_of_ensure (c := tabledCrypto) hseed hnone
  rw [hmade, Option.some_inj, Prod.mk.injEq] at hensure
  obtain ⟨rfl, rfl⟩ := hensure
  have hextra : ExtraKeysParse tabledCrypto dir₁ :=
    emptyDir_extraKeysParse.congr hkeyring hexternal hinline
  constructor
  · exact hfiles.trusts tabledCrypto_lawful hextra
  · intro r _
    exact verifiesOwn_newKey tabledCrypto_lawful hseed _
  · intro i r hi
    obtain ⟨rfl, rfl⟩ : i = 0 ∧ r = unsignedRecord := by
      cases i with
      | zero => exact ⟨rfl, (Option.some_inj.mp hi).symm⟩
      | succ i => cases hi
    have hlength : (marshalRecord unsignedRecord.stripped).length = 294 := length_unsigned
    rw [hlength]
    decide

/-- With the private key of the signer but without the public one, the backfill succeeds and no row
verifies. -/
theorem backfill_leaves_unverified :
  ¬ ∀ (c : Crypto), c.Lawful → ∀ (seed : Str), seed.length = 32 → ∀ (files : IndexFiles)
      (records : List ArtifactVersionRecord),
    readArtifactVersionRecords files.dir.index = some records → Restores c seed files records
  := by
  intro h
  have hseed : zeroSeed.length = 32 := List.length_replicate
  let file := privateKeyFile tabledCrypto zeroSeed
  have hread := read_unsigned (some file)
  have hrestores := h tabledCrypto tabledCrypto_lawful zeroSeed hseed _ _ hread
  have hdecode := decodeEd25519PrivateKey_whole tabledCrypto_lawful hseed (le_max_left 88 file.length)
  rw [List.take_of_length_le (le_max_right 88 file.length)] at hdecode
  have hensure : ensureArtifactRegistrySigner tabledCrypto zeroSeed (unsignedFiles (some file)).dir
      = some (tabledCrypto.newKeyFromSeed zeroSeed, (unsignedFiles (some file)).dir) := by
    rw [ensureArtifactRegistrySigner]
    show (decodeEd25519PrivateKey tabledCrypto (trimSpace file)).map _ = _
    rw [hdecode]
    rfl
  have hverified := (hrestores.success _ _ _
    (backfill_of_ensure hread (List.cons_ne_nil _ _) hensure)).1
  have hkey := length_of_ensure tabledCrypto_lawful hseed hensure
  have hrestorable := (allVerified_restored_iff tabledCrypto_lawful hkey (List.cons_ne_nil _ _)
    (survives_of_read hread)).mp hverified
  obtain ⟨keys, hkeys, trusted, htrusted, -⟩ := hrestorable.trusted
  have hnone : loadTrustedSigningKeys tabledCrypto (unsignedFiles (some file)).dir = some [] := rfl
  rw [hnone, Option.some_inj] at hkeys
  rw [← hkeys] at htrusted
  cases htrusted

end

end Registry
