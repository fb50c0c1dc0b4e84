import BpfCompat.Registry.History
import BpfCompat.Transition

/-!
# Concurrent writers

Calls that append to one history read it, check it, make the signing key where there is none
and append, and the steps of several calls interleave: nothing locks the files.

A run keeps the history consistent (`writers_keep_history`) provided no call looks up the hash
of the last record while another one is between that and its own append, no record is appended
under the name and version of an upload that has passed its check, and what is appended is
sound.  Two calls that both look up the hash before either appends refer to the same record, and
the second one does not verify.
-/

namespace Registry

open Go Go.Json

section

variable [UnicodeTables]

/-! ### Listing -/

/-- The order of a listing: the newest record first, and of those the one of the later run. -/
def newerFirst (r r' : ArtifactVersionRecord) : Prop :=
  if r.createdAt = r'.createdAt then r'.runID ≤ r.runID else r'.createdAt ≤ r.createdAt

instance decidableRelNewerFirst : DecidableRel newerFirst :=
  fun r r' => inferInstanceAs (Decidable (if r.createdAt = r'.createdAt then _ else _))

/-- The records of an artifact, or all records where no name is given; a limit of zero is none. -/
def listArtifactVersions (file : Option Str) (artifactName : Str) (limit : Int) :
    Option (List ArtifactVersionRecord) := do
  let records ← readArtifactVersionRecords file
  let filtered := records.filter fun r => artifactName = [] ∨ r.artifactName = artifactName
  let sorted := filtered.insertionSort newerFirst
  if 0 < limit ∧ limit < sorted.length then some (sorted.take limit.toNat) else some sorted

def findArtifactVersion (file : Option Str) (artifactName version : Str) :
    Option ArtifactVersionRecord :=
  if artifactName = [] ∨ version = [] then none
  else (listArtifactVersions file artifactName 0).bind fun records =>
    records.find? fun r => r.artifactVersion = version

/-! ### Calls and their steps -/

/-- A record comes from an upload, or is appended directly. -/
inductive CallKind where
  | upload
  | persist
deriving DecidableEq

/-- A call, with the randomness it draws when it has to make a key. -/
structure Call where
  kind : CallKind
  record : ArtifactVersionRecord
  seed : Str
  length_seed : seed.length = 32

/-- The name and version a record is stored under. -/
def ArtifactVersionRecord.key (r : ArtifactVersionRecord) : Str × Str :=
  (r.artifactName, r.artifactVersion)

/-- How far a call is. -/
inductive Phase where
  | idle
  /-- The upload found no record of its name and version. -/
  | checked
  /-- The hash of the last record was looked up. -/
  | hashed (prevHash : Str)
  /-- There was no signing key, and one was made. -/
  | generated (prevHash : Str)
  | privateWritten (prevHash : Str)
  | signed (r : ArtifactVersionRecord)
  | appended
  | done
  | failed
deriving DecidableEq

/-- The call has looked up the hash of the last record and not appended its own yet. -/
def Phase.signing : Phase → Bool
  | .hashed _ | .generated _ | .privateWritten _ | .signed _ => true
  | _ => false

/-- The call has appended its record. -/
def Phase.stored : Phase → Bool
  | .appended | .done => true
  | _ => false

omit [UnicodeTables] in
theorem Phase.over_of_stored {p : Phase} (h : p.stored = true) :
  p.signing = false ∧ p ≠ .checked
  := by
  cases p with
  | appended => exact ⟨rfl, Phase.noConfusion⟩
  | done => exact ⟨rfl, Phase.noConfusion⟩
  | idle | checked | hashed | generated | privateWritten | signed | failed => cases h

/-- The checks of an upload against the records of its name. -/
def uploadAllowed (maxVersions : Int) (file : Option Str) (r : ArtifactVersionRecord) : Bool :=
  match listArtifactVersions file r.artifactName 0 with
  | none => false
  | some existing =>
    ¬ (0 < maxVersions ∧ maxVersions ≤ existing.length) ∧
      ∀ r' ∈ existing, r'.artifactVersion ≠ r.artifactVersion

/-- The first step of appending: the fields that are required, and the hash of the last record. -/
def beginPersist (c : Crypto) (dir : WorkDir) (r : ArtifactVersionRecord) : Phase :=
  if dir.path = [] ∨ trimSpace r.artifactName = [] ∨ trimSpace r.artifactVersion = [] ∨
      trimSpace r.artifactSHA256 = [] ∨ trimSpace r.jsonReportPath = [] then .failed
  else
    match previousArtifactRecordHash c dir with
    | none => .failed
    | some prevHash => .hashed prevHash

/-- The next step of a call. -/
def advance (c : Crypto) (maxVersions : Int) (call : Call) (dir : WorkDir) :
    Phase → WorkDir × Phase
  | .idle =>
    match call.kind with
    | .upload =>
      (dir, if uploadAllowed maxVersions dir.index call.record then .checked else .failed)
    | .persist => (dir, beginPersist c dir call.record)
  | .checked => (dir, beginPersist c dir call.record)
  | .hashed prevHash =>
    match dir.privateKey with
    | none => (dir, .generated prevHash)
    | some raw =>
      match decodeEd25519PrivateKey c (trimSpace raw) with
      | none => (dir, .failed)
      | some key =>
        (dir, .signed
          (withSignature c key { normalizeRecord call.record with prevRecordSHA256 := prevHash }))
  | .generated prevHash =>
    ({ dir with privateKey := some (base64Encode (c.newKeyFromSeed call.seed) ++ [10]) },
      .privateWritten prevHash)
  | .privateWritten prevHash =>
    let key := c.newKeyFromSeed call.seed
    ({ dir with
        publicKey := some (keyIDFromPublicKey c (publicOf key) ++ str " " ++
          base64Encode (publicOf key) ++ [10]) },
      .signed
        (withSignature c key { normalizeRecord call.record with prevRecordSHA256 := prevHash }))
  | .signed r =>
    ({ dir with index := some (dir.index.getD [] ++ (marshalRecord r ++ [10])) },
      match call.kind with
      | .upload => .appended
      | .persist => .done)
  | .appended =>
    (dir,
      match findArtifactVersion dir.index call.record.artifactName call.record.artifactVersion with
      | none => .failed
      | some _ => .done)
  | .done => (dir, .done)
  | .failed => (dir, .failed)

/-- A call and how far it is. -/
structure Writer where
  call : Call
  phase : Phase

/-- The files and the calls that share them. -/
structure System (ι : Type*) where
  dir : WorkDir
  writers : ι → Writer

section

variable {ι : Type*} [DecidableEq ι]

/-- The system after a step of a call. -/
def System.moved (s : System ι) (i : ι) (next : WorkDir × Phase) : System ι where
  dir := next.1
  writers := Function.update s.writers i { call := (s.writers i).call, phase := next.2 }

omit [UnicodeTables] in
@[simp]
theorem System.dir_moved (s : System ι) (i : ι) (next : WorkDir × Phase) :
  (s.moved i next).dir = next.1
  := rfl

omit [UnicodeTables] in
@[simp]
theorem System.moved_self (s : System ι) (i : ι) (next : WorkDir × Phase) :
  (s.moved i next).writers i = { call := (s.writers i).call, phase := next.2 }
  := Function.update_self i _ s.writers

omit [UnicodeTables] in
theorem System.moved_of_ne (s : System ι) {i j : ι} (h : j ≠ i) (next : WorkDir × Phase) :
  (s.moved i next).writers j = s.writers j
  := Function.update_of_ne h _ s.writers

/-- Some call takes its next step, or an upload that passed its first check fails another one:
its size, the storage it would take or the hash that was expected of it. -/
inductive Step (c : Crypto) (maxVersions : Int) (allowed : System ι → ι → Prop) :
    System ι → System ι → Prop where
  | advance (s : System ι) (i : ι) (h : allowed s i) :
      Step c maxVersions allowed s
        (s.moved i (Registry.advance c maxVersions (s.writers i).call s.dir (s.writers i).phase))
  | refuse (s : System ι) (i : ι) (h : (s.writers i).phase = .checked) :
      Step c maxVersions allowed s (s.moved i (s.dir, .failed))

end

/-- The records of a history; none where it can not be read. -/
def historyOf (dir : WorkDir) : List ArtifactVersionRecord :=
  (readArtifactVersionRecords dir.index).getD []

/-- The call takes the step in which the hash of the last record is looked up. -/
def Writer.looksUp (w : Writer) : Prop :=
  w.phase = .checked ∨ w.phase = .idle ∧ w.call.kind = .persist

/-- The upload has passed its check and not appended its record yet. -/
def Writer.pending (w : Writer) : Prop :=
  w.call.kind = .upload ∧ (w.phase = .checked ∨ w.phase.signing = true)

/-- No other call interferes with the next step of a call, and what it appends is sound. -/
structure Clear {ι : Type*} (s : System ι) (i : ι) : Prop where
  /-- No other call holds the hash of the last record while this one looks it up. -/
  alone : (s.writers i).looksUp → ∀ j, j ≠ i → (s.writers j).phase.signing = false
  /-- No upload is under way that was checked for the same name and version. -/
  unclaimed : ∀ r, (s.writers i).phase = .signed r → ∀ j, j ≠ i → (s.writers j).pending →
    (s.writers j).call.record.key ≠ (s.writers i).call.record.key
  /-- What is appended directly is not checked, and has a new name and version. -/
  new : ∀ r, (s.writers i).phase = .signed r → (s.writers i).call.kind = .persist →
    (s.writers i).call.record.key ∉ (historyOf s.dir).map ArtifactVersionRecord.key
  valid : ∀ r, (s.writers i).phase = .signed r →
    ∀ t ∈ (s.writers i).call.record.texts, toValidUTF8 t = t
  short : ∀ r, (s.writers i).phase = .signed r →
    recordBytes (s.writers i).call.record + provenanceBytes (historyOf s.dir).length < maxLineBytes

/-- The history verifies, holds the record of every call that succeeded, and no two of its
records have the same name and version. -/
def Consistent (c : Crypto) {ι : Type*} (s : System ι) : Prop :=
  ∃ records rows, readArtifactVersionRecords s.dir.index = some records ∧
    verifyArtifactVersionHistory c s.dir = some rows ∧
    (∀ row ∈ rows, row.verified = true) ∧
    (∀ i, (s.writers i).phase = .done →
      ∃ r ∈ records, r.stripped = (normalizeRecord (s.writers i).call.record).stripped) ∧
    (records.map ArtifactVersionRecord.key).Nodup

/-! ### What the files hold -/

section

variable {c : Crypto} {dir : WorkDir} {rs : List ArtifactVersionRecord}

/-- The files hold the given records, and the key they were signed with. -/
def Keyed (c : Crypto) (seed : Str) (dir : WorkDir) (rs : List ArtifactVersionRecord) : Prop :=
  KeyFiles c seed dir ∧
    dir.index.getD [] = unlines ((appended c seed [] rs).map marshalRecord)

/-- The files of a history between two calls. -/
inductive Stored (c : Crypto) (dir : WorkDir) (rs : List ArtifactVersionRecord) : Prop where
  | fresh (hdir : Fresh dir) (hrs : rs = [])
  | keyed {seed : Str} (h : Keyed c seed dir rs)

omit [UnicodeTables] in
theorem unlines_eq_nil {ls : List Str} (h : unlines ls = []) :
  ls = []
  := by
  rw [unlines, List.flatMap_eq_nil_iff] at h
  apply List.eq_nil_iff_forall_not_mem.mpr
  intro l hl
  have hnil := h l hl
  rw [List.append_eq_nil_iff] at hnil
  exact List.cons_ne_nil _ _ hnil.2

/-- The index is missing only while there are no records. -/
theorem Keyed.index {seed : Str} (h : Keyed c seed dir rs) :
  dir.index = some (unlines ((appended c seed [] rs).map marshalRecord)) ∨
    dir.index = none ∧ appended c seed [] rs = []
  := by
  cases hindex : dir.index with
  | none =>
      have hnil := h.2
      rw [hindex, Option.getD_none] at hnil
      exact .inr ⟨rfl, List.map_eq_nil_iff.mp (unlines_eq_nil hnil.symm)⟩
  | some text =>
      have htext := h.2
      rw [hindex, Option.getD_some] at htext
      exact .inl (congrArg some htext)

theorem Keyed.read (hc : c.Lawful) {seed : Str} (h : Keyed c seed dir rs) (hrs : Sound rs) :
  readArtifactVersionRecords dir.index = some (appended c seed [] rs)
  := by
  rcases h.index with hindex | ⟨hindex, hnil⟩
  · rw [hindex]
    exact readArtifactVersionRecords_survives (hrs.spec hc h.1.length_seed)
  · rw [hindex, hnil]
    rfl

/-- Every record fits its line. -/
def Short (rs : List ArtifactVersionRecord) : Prop :=
  ∀ i r, rs[i]? = some r → recordBytes r + provenanceBytes i < maxLineBytes

theorem Short.appended (hc : c.Lawful) {seed : Str} (hseed : seed.length = 32) (h : Short rs) :
  ∀ r ∈ appended c seed [] rs, (marshalRecord r).length < maxLineBytes
  := by
  apply appended_short hc hseed (i := 0) (.inl rfl) (by simp)
  intro j r hj
  rw [Nat.zero_add]
  exact h j r hj

/-- The records are read back as what survives of them. -/
theorem Keyed.read_canon (hc : c.Lawful) {seed : Str} (h : Keyed c seed dir rs) (hrs : Short rs) :
  readArtifactVersionRecords dir.index
    = some ((appended c seed [] rs).map artifactVersionRecordJSON.canon)
  := by
  rcases h.index with hindex | ⟨hindex, hnil⟩
  · rw [hindex]
    exact readArtifactVersionRecords_unlines (hrs.appended hc h.1.length_seed)
  · rw [hindex, hnil]
    rfl

theorem Keyed.previous (hc : c.Lawful) {seed : Str} (h : Keyed c seed dir rs) (hrs : Short rs) :
  previousArtifactRecordHash c dir = some (lastHash c [] (appended c seed [] rs))
  := by
  rcases h.index with hindex | ⟨hindex, hnil⟩
  · exact previousArtifactRecordHash_appended hc hindex (hrs.appended hc h.1.length_seed)
  · rw [previousArtifactRecordHash, hindex, hnil]
    rfl

theorem map_key_appended (seed prevHash : Str) (rs : List ArtifactVersionRecord) :
  (appended c seed prevHash rs).map ArtifactVersionRecord.key = rs.map ArtifactVersionRecord.key
  := by
  induction rs generalizing prevHash with
  | nil => rfl
  | cons r rs ih =>
      rw [appended, List.map_cons, List.map_cons, ih]
      rfl

theorem map_stripped_appended (seed prevHash : Str) (rs : List ArtifactVersionRecord) :
  (appended c seed prevHash rs).map ArtifactVersionRecord.stripped
    = rs.map fun r => (normalizeRecord r).stripped
  := by
  induction rs generalizing prevHash with
  | nil => rfl
  | cons r rs ih =>
      rw [appended, List.map_cons, List.map_cons, ih]
      rfl

theorem Sound.concat {r : ArtifactVersionRecord} (h : Sound rs)
    (hvalid : ∀ s ∈ r.texts, toValidUTF8 s = s)
    (hshort : recordBytes r + provenanceBytes rs.length < maxLineBytes) :
  Sound (rs ++ [r])
  := by
  constructor
  · rw [List.forall_mem_append, List.forall_mem_singleton]
    exact ⟨h.valid, hvalid⟩
  · intro i r' hi
    rcases lt_or_ge i rs.length with hlt | hge
    · rw [List.getElem?_append_left hlt] at hi
      exact h.short i r' hi
    · obtain ⟨rfl, rfl⟩ : i = rs.length ∧ r' = r := by
        rw [List.getElem?_append_right hge, List.getElem?_singleton] at hi
        split_ifs at hi with hzero
        exact ⟨by omega, (Option.some_inj.mp hi).symm⟩
      exact hshort

/-- The record of a call goes after the others. -/
theorem Keyed.append {seed : Str} (h : Keyed c seed dir rs) (r : ArtifactVersionRecord) :
  Keyed c seed
    { dir with
      index := some (dir.index.getD [] ++ (marshalRecord
        (provenanced c seed (lastHash c [] (appended c seed [] rs)) r) ++ [10])) }
    (rs ++ [r])
  := by
  constructor
  · exact ⟨h.1.length_seed, h.1.privateKey, h.1.publicKey⟩
  · rw [Option.getD_some, h.2, appended_concat, List.map_append, unlines_append,
      List.map_singleton, unlines_singleton]

/-- The signing key is read back from its file. -/
theorem Keyed.decode (hc : c.Lawful) {seed : Str} (h : Keyed c seed dir rs) :
  ∃ raw, dir.privateKey = some raw ∧
    decodeEd25519PrivateKey c (trimSpace raw) = some (c.newKeyFromSeed seed)
  := by
  have hensure := ensureArtifactRegistrySigner_of_keyFiles hc h.1 seed
  use base64Encode (c.newKeyFromSeed seed) ++ [10], h.1.privateKey
  rw [ensureArtifactRegistrySigner, h.1.privateKey, Option.map_eq_some_iff] at hensure
  obtain ⟨key, hdecode, hkey⟩ := hensure
  rw [hdecode, (Prod.mk.inj hkey).1]

end

/-! ### One call at a time -/

section

variable {c : Crypto} {dir dir' : WorkDir} {rs : List ArtifactVersionRecord} {seed : Str}
  {r : ArtifactVersionRecord}

theorem Stored.read_canon (hc : c.Lawful) (h : Stored c dir rs) (hrs : Short rs) :
  ∃ seed, readArtifactVersionRecords dir.index
    = some ((appended c seed [] rs).map artifactVersionRecordJSON.canon)
  := by
  cases h with
  | fresh hdir hnil =>
      use []
      rw [hdir.1, hnil]
      rfl
  | @keyed seed hkeyed => exact ⟨seed, hkeyed.read_canon hc hrs⟩

/-- A call appends its record; had it not come to that, it would have left the records alone. -/
theorem Stored.call (hc : c.Lawful) (h : Stored c dir rs) (hrs : Short rs) (hseed : seed.length = 32)
    (hcall : persistArtifactVersion c seed dir r = .ok dir') :
  Stored c dir' (rs ++ [r]) ∧ Stored c { dir' with index := dir.index } rs ∧ dir'.path = dir.path
  := by
  obtain ⟨prevHash, key, dir₁, hprev, hsigner, rfl⟩ := persistArtifactVersion_eq_ok hcall
  cases h with
  | fresh hdir hnil =>
      obtain ⟨dir₂, hensure, hkeys, hpath, hindex, -⟩ := keyFiles_of_ensure (c := c) hseed hdir.2
      rw [hensure, Option.some_inj, Prod.mk.injEq] at hsigner
      obtain ⟨rfl, rfl⟩ := hsigner
      have hprev' : previousArtifactRecordHash c dir = some [] := by
        rw [previousArtifactRecordHash, hdir.1]
        rfl
      rw [hprev', Option.some_inj] at hprev
      have hkeyed : Keyed c seed dir₂ rs := by
        use hkeys
        rw [hindex, hdir.1, hnil]
        rfl
      have happend := hkeyed.append r
      rw [hnil, appended] at happend
      refine ⟨?_, ?_, hpath⟩
      · rw [hnil, ← hprev]
        exact .keyed happend
      · rw [← hindex]
        exact .keyed hkeyed
  | @keyed seed₀ hkeyed =>
      rw [ensureArtifactRegistrySigner_of_keyFiles hc hkeyed.1, Option.some_inj,
        Prod.mk.injEq] at hsigner
      obtain ⟨rfl, rfl⟩ := hsigner
      rw [hkeyed.previous hc hrs, Option.some_inj] at hprev
      refine ⟨?_, .keyed hkeyed, rfl⟩
      rw [← hprev]
      exact .keyed (hkeyed.append r)

/-- A record with the fields that are required is appended. -/
theorem Stored.call_ok (hc : c.Lawful) (h : Stored c dir rs) (hrs : Short rs) (seed : Str)
    (hpath : dir.path ≠ []) (hname : trimSpace r.artifactName ≠ [])
    (hversion : trimSpace r.artifactVersion ≠ []) (hsha : trimSpace r.artifactSHA256 ≠ [])
    (hreport : trimSpace r.jsonReportPath ≠ []) :
  ∃ dir', persistArtifactVersion c seed dir r = .ok dir'
  := by
  have hprovenance : ∃ r' dir', applyArtifactRecordProvenance c seed dir (normalizeRecord r)
      = .ok (r', dir') := by
    rw [applyArtifactRecordProvenance]
    cases h with
    | fresh hdir hnil =>
        have hprev : previousArtifactRecordHash c dir = some [] := by
          rw [previousArtifactRecordHash, hdir.1]
          rfl
        rw [hprev, ensureArtifactRegistrySigner, hdir.2]
        exact ⟨_, _, rfl⟩
    | keyed hkeyed =>
        rw [hkeyed.previous hc hrs, ensureArtifactRegistrySigner_of_keyFiles hc hkeyed.1]
        exact ⟨_, _, rfl⟩
  obtain ⟨r', dir', hprovenance⟩ := hprovenance
  rw [persistArtifactVersion, if_neg hpath, if_neg hname, if_neg hversion, if_neg hsha,
    if_neg hreport, hprovenance]
  exact ⟨_, rfl⟩

end

/-! ### What a run keeps -/

/-- What the files hold while a call is between looking up the hash and appending. -/
def Midway (c : Crypto) (dir : WorkDir) (rs : List ArtifactVersionRecord) (w : Writer) : Prop :=
  match w.phase with
  | .hashed prevHash => Stored c dir rs ∧ previousArtifactRecordHash c dir = some prevHash
  | .generated prevHash => Fresh dir ∧ rs = [] ∧ prevHash = []
  | .privateWritten prevHash =>
    dir.index = none ∧
      dir.privateKey = some (base64Encode (c.newKeyFromSeed w.call.seed) ++ [10]) ∧
      rs = [] ∧ prevHash = []
  | .signed r =>
    ∃ seed, Keyed c seed dir rs ∧
      r = provenanced c seed (lastHash c [] (appended c seed [] rs)) w.call.record
  | _ => True

/-- The records the calls have appended so far, and where the calls are. -/
structure Tended {ι : Type*} (c : Crypto) (s : System ι) (rs : List ArtifactVersionRecord) :
    Prop where
  sound : Sound rs
  nodup : (rs.map ArtifactVersionRecord.key).Nodup
  extra : ExtraKeysParse c s.dir
  alone : ∀ i j, (s.writers i).phase.signing = true → (s.writers j).phase.signing = true → i = j
  midway : ∀ i, (s.writers i).phase.signing = true → Midway c s.dir rs (s.writers i)
  quiet : (∀ i, (s.writers i).phase.signing = false) → Stored c s.dir rs
  claimed : ∀ i, (s.writers i).pending →
    (s.writers i).call.record.key ∉ rs.map ArtifactVersionRecord.key
  present : ∀ i, (s.writers i).phase.stored = true → (s.writers i).call.record ∈ rs

section

variable {ι : Type*} {c : Crypto} {s : System ι} {rs : List ArtifactVersionRecord}

/-- The files hold no record yet, or the records with the key they were signed with. -/
theorem Tended.keyed_or_empty (h : Tended c s rs) :
  (s.dir.index = none ∧ rs = []) ∨ ∃ seed, Keyed c seed s.dir rs
  := by
  have of_stored : Stored c s.dir rs →
      (s.dir.index = none ∧ rs = []) ∨ ∃ seed, Keyed c seed s.dir rs := by
    rintro (⟨hdir, hrs⟩ | hkeyed)
    · exact .inl ⟨hdir.1, hrs⟩
    · exact .inr ⟨_, hkeyed⟩
  by_cases hquiet : ∀ i, (s.writers i).phase.signing = false
  · exact of_stored (h.quiet hquiet)
  · obtain ⟨i, hi⟩ := not_forall.mp hquiet
    rw [Bool.not_eq_false] at hi
    have hmidway := h.midway i hi
    rw [Midway] at hmidway
    cases hphase : (s.writers i).phase with
    | hashed prevHash =>
        rw [hphase] at hmidway
        exact of_stored hmidway.1
    | generated prevHash =>
        rw [hphase] at hmidway
        exact .inl ⟨hmidway.1.1, hmidway.2.1⟩
    | privateWritten prevHash =>
        rw [hphase] at hmidway
        exact .inl ⟨hmidway.1, hmidway.2.2.1⟩
    | signed r =>
        rw [hphase] at hmidway
        obtain ⟨seed, hkeyed, -⟩ := hmidway
        exact .inr ⟨seed, hkeyed⟩
    | idle | checked | appended | done | failed =>
        rw [hphase] at hi
        cases hi

/-- What is read are the records of the calls with their provenance. -/
theorem Tended.read (hc : c.Lawful) (h : Tended c s rs) :
  ∃ records, readArtifactVersionRecords s.dir.index = some records ∧
    records.map ArtifactVersionRecord.key = rs.map ArtifactVersionRecord.key ∧
    records.map ArtifactVersionRecord.stripped = rs.map fun r => (normalizeRecord r).stripped
  := by
  rcases h.keyed_or_empty with ⟨hindex, rfl⟩ | ⟨seed, hkeyed⟩
  · use []
    rw [hindex]
    exact ⟨rfl, rfl, rfl⟩
  · use appended c seed [] rs, hkeyed.read hc h.sound, map_key_appended seed [] rs
    exact map_stripped_appended seed [] rs

theorem Tended.historyOf (hc : c.Lawful) (h : Tended c s rs) :
  (historyOf s.dir).map ArtifactVersionRecord.key = rs.map ArtifactVersionRecord.key ∧
    (Registry.historyOf s.dir).length = rs.length
  := by
  obtain ⟨records, hread, hkeys, -⟩ := h.read hc
  have hhistory : Registry.historyOf s.dir = records := by
    rw [Registry.historyOf, hread, Option.getD_some]
  rw [hhistory]
  use hkeys
  have hlength := congrArg List.length hkeys
  rwa [List.length_map, List.length_map] at hlength

theorem Tended.consistent (hc : c.Lawful) (h : Tended c s rs) :
  Consistent c s
  := by
  have hpresent : ∀ i, (s.writers i).phase = .done → (s.writers i).call.record ∈ rs := by
    intro i hi
    apply h.present i
    rw [hi]
    rfl
  obtain ⟨records, hread, hkeys, hstripped⟩ := h.read hc
  use records, verifyRows c s.dir 0 [] records, hread
  refine ⟨?_, ?_, ?_, ?_⟩
  · rw [verifyArtifactVersionHistory, hread, Option.map_some]
  · rcases h.keyed_or_empty with ⟨hindex, rfl⟩ | ⟨seed, hkeyed⟩
    · rw [List.map_nil, List.map_eq_nil_iff] at hkeys
      rw [hkeys, verifyRows]
      exact List.forall_mem_nil _
    · rw [hkeyed.read hc h.sound, Option.some_inj] at hread
      have hrows := verifyRows_appended hc hkeyed.1.length_seed (hkeyed.1.trusts hc h.extra)
        (.inl rfl) (i := 0) (by simp) rs
      rw [hread] at hrows
      exact forall_verified (fun _ _ => rfl) hrows
  · intro i hi
    have hmem : (normalizeRecord (s.writers i).call.record).stripped
        ∈ records.map ArtifactVersionRecord.stripped := by
      rw [hstripped]
      exact List.mem_map_of_mem (hpresent i hi)
    obtain ⟨r, hr, hstripped⟩ := List.mem_map.mp hmem
    exact ⟨r, hr, hstripped⟩
  · rw [hkeys]
    exact h.nodup

theorem Tended.others (h : Tended c s rs) {i : ι} (hi : (s.writers i).phase.signing = true) :
  ∀ j, j ≠ i → (s.writers j).phase.signing = false
  := by
  intro j hj
  rw [← Bool.not_eq_true]
  intro hsigning
  exact hj (h.alone j i hsigning hi)

variable [DecidableEq ι]

/-- A call that is not between looking up the hash and appending, before and after its step,
leaves the files alone and the other calls as they are. -/
theorem Tended.rest (h : Tended c s rs) {i : ι} {p : Phase}
    (hbefore : (s.writers i).phase.signing = false) (hafter : p.signing = false)
    (hclaimed : (s.writers i).call.kind = .upload → p = .checked →
      (s.writers i).call.record.key ∉ rs.map ArtifactVersionRecord.key)
    (hstored : p.stored = true → (s.writers i).phase.stored = true) :
  Tended c (s.moved i (s.dir, p)) rs
  := by
  have hsigning : ∀ j, ((s.moved i (s.dir, p)).writers j).phase.signing
      = (s.writers j).phase.signing := by
    intro j
    rcases eq_or_ne j i with rfl | hne
    · rw [s.moved_self, hbefore, hafter]
    · rw [s.moved_of_ne hne]
  refine ⟨h.sound, h.nodup, h.extra, ?_, ?_, ?_, ?_, ?_⟩
  · intro j k hj hk
    rw [hsigning] at hj hk
    exact h.alone j k hj hk
  · intro j hj
    have hne : j ≠ i := by
      rintro rfl
      rw [hsigning, hbefore] at hj
      cases hj
    rw [hsigning] at hj
    rw [s.moved_of_ne hne]
    exact h.midway j hj
  · intro hquiet
    apply h.quiet
    intro j
    rw [← hsigning]
    exact hquiet j
  · intro j hj
    rcases eq_or_ne j i with rfl | hne
    · rw [s.moved_self] at hj ⊢
      obtain ⟨hkind, hphase | hphase⟩ := hj
      · exact hclaimed hkind hphase
      · rw [hafter] at hphase
        cases hphase
    · rw [s.moved_of_ne hne] at hj ⊢
      exact h.claimed j hj
  · intro j hj
    rcases eq_or_ne j i with rfl | hne
    · rw [s.moved_self] at hj ⊢
      exact h.present j (hstored hj)
    · rw [s.moved_of_ne hne] at hj ⊢
      exact h.present j hj

/-- A call comes to hold the hash of the last record, or goes on to do so, while no other call
does. -/
theorem Tended.move (h : Tended c s rs) {i : ι} {dir : WorkDir} {p : Phase}
    (halone : ∀ j, j ≠ i → (s.writers j).phase.signing = false)
    (hpending : (s.writers i).call.kind = .upload → (s.writers i).pending)
    (hp : p.signing = true) (hextra : ExtraKeysParse c dir)
    (hmidway : Midway c dir rs { call := (s.writers i).call, phase := p }) :
  Tended c (s.moved i (dir, p)) rs
  := by
  have hsigning : ∀ j, ((s.moved i (dir, p)).writers j).phase.signing = true → j = i := by
    intro j hj
    by_contra hne
    rw [s.moved_of_ne hne, halone j hne] at hj
    cases hj
  refine ⟨h.sound, h.nodup, hextra, ?_, ?_, ?_, ?_, ?_⟩
  · intro j k hj hk
    rw [hsigning j hj, hsigning k hk]
  · intro j hj
    rw [hsigning j hj, s.moved_self]
    exact hmidway
  · intro hquiet
    have hi := hquiet i
    rw [s.moved_self, hp] at hi
    cases hi
  · intro j hj
    rcases eq_or_ne j i with rfl | hne
    · rw [s.moved_self] at hj ⊢
      exact h.claimed j (hpending hj.1)
    · rw [s.moved_of_ne hne] at hj ⊢
      exact h.claimed j hj
  · intro j hj
    rcases eq_or_ne j i with rfl | hne
    · rw [s.moved_self] at hj
      have hnot := (Phase.over_of_stored hj).1
      rw [hp] at hnot
      cases hnot
    · rw [s.moved_of_ne hne] at hj ⊢
      exact h.present j hj

/-- A call that holds the hash of the last record takes a step and still holds it. -/
theorem Tended.along (h : Tended c s rs) {i : ι} {dir : WorkDir} {p : Phase}
    (hsigning : (s.writers i).phase.signing = true) (hp : p.signing = true)
    (hextra : ExtraKeysParse c dir)
    (hmidway : Midway c dir rs { call := (s.writers i).call, phase := p }) :
  Tended c (s.moved i (dir, p)) rs
  := by
  apply h.move (h.others hsigning) _ hp hextra hmidway
  intro hkind
  exact ⟨hkind, .inr hsigning⟩

/-- A call appends its record to the others. -/
theorem Tended.append (h : Tended c s rs) {i : ι} {dir : WorkDir} {p : Phase}
    (halone : ∀ j, j ≠ i → (s.writers j).phase.signing = false)
    (hextra : ExtraKeysParse c dir) (hsound : Sound (rs ++ [(s.writers i).call.record]))
    (hnew : (s.writers i).call.record.key ∉ rs.map ArtifactVersionRecord.key)
    (hunclaimed : ∀ j, j ≠ i → (s.writers j).pending →
      (s.writers j).call.record.key ≠ (s.writers i).call.record.key)
    (hdir : Stored c dir (rs ++ [(s.writers i).call.record])) (hp : p.stored = true) :
  Tended c (s.moved i (dir, p)) (rs ++ [(s.writers i).call.record])
  := by
  have hover := Phase.over_of_stored hp
  have hquiet : ∀ j, ((s.moved i (dir, p)).writers j).phase.signing = false := by
    intro j
    rcases eq_or_ne j i with rfl | hne
    · rw [s.moved_self]
      exact hover.1
    · rw [s.moved_of_ne hne]
      exact halone j hne
  refine ⟨hsound, ?_, hextra, ?_, ?_, fun _ => hdir, ?_, ?_⟩
  · rw [List.map_append, List.map_singleton, ← List.concat_eq_append, List.nodup_concat]
    exact ⟨hnew, h.nodup⟩
  · intro j k hj
    rw [hquiet j] at hj
    cases hj
  · intro j hj
    rw [hquiet j] at hj
    cases hj
  · intro j hj
    rcases eq_or_ne j i with rfl | hne
    · rw [s.moved_self] at hj
      obtain ⟨-, hphase | hphase⟩ := hj
      · exact absurd hphase hover.2
      · rw [hover.1] at hphase
        cases hphase
    · rw [s.moved_of_ne hne] at hj ⊢
      rw [List.map_append, List.mem_append, not_or, List.map_singleton, List.mem_singleton]
      exact ⟨h.claimed j hj, hunclaimed j hne hj⟩
  · intro j hj
    rw [List.mem_append, List.mem_singleton]
    rcases eq_or_ne j i with rfl | hne
    · rw [s.moved_self]
      exact .inr rfl
    · rw [s.moved_of_ne hne] at hj ⊢
      exact .inl (h.present j hj)

/-! ### The steps of a call -/

theorem beginPersist_cases (c : Crypto) (dir : WorkDir) (r : ArtifactVersionRecord) :
  beginPersist c dir r = .failed ∨
    ∃ prevHash, previousArtifactRecordHash c dir = some prevHash ∧
      beginPersist c dir r = .hashed prevHash
  := by
  rw [beginPersist]
  split_ifs
  · exact .inl rfl
  · cases previousArtifactRecordHash c dir with
    | none => exact .inl rfl
    | some prevHash => exact .inr ⟨prevHash, rfl, rfl⟩

/-- An upload that passes its check has a new name and version. -/
theorem key_notMem_of_uploadAllowed {maxVersions : Int} {file : Option Str}
    {r : ArtifactVersionRecord} {records : List ArtifactVersionRecord}
    (hread : readArtifactVersionRecords file = some records)
    (h : uploadAllowed maxVersions file r = true) :
  r.key ∉ records.map ArtifactVersionRecord.key
  := by
  intro hmem
  obtain ⟨r', hr', hkey⟩ := List.mem_map.mp hmem
  obtain ⟨hname, hversion⟩ := Prod.mk.inj hkey
  have hlist : listArtifactVersions file r.artifactName 0 = some
      ((records.filter fun r' => r.artifactName = [] ∨ r'.artifactName = r.artifactName).insertionSort
        newerFirst) := by
    rw [listArtifactVersions, hread]
    rfl
  rw [uploadAllowed, hlist] at h
  simp only [decide_eq_true_eq] at h
  apply h.2 r' _ hversion
  rw [List.mem_insertionSort, List.mem_filter]
  exact ⟨hr', decide_eq_true (.inr hname)⟩

theorem Tended.check (hc : c.Lawful) (h : Tended c s rs) {maxVersions : Int} {i : ι}
    (hi : (s.writers i).phase = .idle) :
  Tended c
    (s.moved i (s.dir,
      if uploadAllowed maxVersions s.dir.index (s.writers i).call.record then .checked
      else .failed)) rs
  := by
  obtain ⟨records, hread, hkeys, -⟩ := h.read hc
  split_ifs with hallowed
  · apply h.rest (by rw [hi]; rfl) rfl
    · intro _ _
      rw [← hkeys]
      exact key_notMem_of_uploadAllowed hread hallowed
    · intro hstored
      cases hstored
  · apply h.rest (by rw [hi]; rfl) rfl
    · intro _ hphase
      cases hphase
    · intro hstored
      cases hstored

theorem Tended.lookUp (h : Tended c s rs) {i : ι} (hi : (s.writers i).looksUp)
    (halone : ∀ j, j ≠ i → (s.writers j).phase.signing = false) :
  Tended c (s.moved i (s.dir, beginPersist c s.dir (s.writers i).call.record)) rs
  := by
  have hself : (s.writers i).phase.signing = false := by
    rcases hi with hphase | ⟨hphase, -⟩
    · rw [hphase]
      rfl
    · rw [hphase]
      rfl
  have hquiet : ∀ j, (s.writers j).phase.signing = false := by
    intro j
    rcases eq_or_ne j i with rfl | hne
    · exact hself
    · exact halone j hne
  rcases beginPersist_cases c s.dir (s.writers i).call.record with hfailed | ⟨prevHash, hprev, hhash⟩
  · rw [hfailed]
    apply h.rest hself rfl
    · intro _ hphase
      cases hphase
    · intro hstored
      cases hstored
  · rw [hhash]
    apply h.move halone _ rfl h.extra
    · exact ⟨h.quiet hquiet, hprev⟩
    · intro hkind
      rcases hi with hphase | ⟨-, hpersist⟩
      · exact ⟨hkind, .inl hphase⟩
      · rw [hkind] at hpersist
        cases hpersist

/-- The key is there, or it has to be made. -/
theorem Tended.sign (hc : c.Lawful) (h : Tended c s rs) {maxVersions : Int} {i : ι} {prevHash : Str}
    (hi : (s.writers i).phase = .hashed prevHash) :
  Tended c (s.moved i (advance c maxVersions (s.writers i).call s.dir (.hashed prevHash))) rs
  := by
  have hsigning : (s.writers i).phase.signing = true := by
    rw [hi]
    rfl
  have hmidway := h.midway i hsigning
  rw [Midway, hi] at hmidway
  obtain ⟨hstored, hprev⟩ := hmidway
  cases hstored with
  | fresh hfresh hrs =>
      have hnext : advance c maxVersions (s.writers i).call s.dir (.hashed prevHash)
          = (s.dir, .generated prevHash) := by
        rw [advance, hfresh.2]
      have hnil : previousArtifactRecordHash c s.dir = some [] := by
        rw [previousArtifactRecordHash, hfresh.1]
        rfl
      rw [hnil, Option.some_inj] at hprev
      rw [hnext]
      exact h.along hsigning rfl h.extra ⟨hfresh, hrs, hprev.symm⟩
  | @keyed seed hkeyed =>
      obtain ⟨raw, hraw, hdecode⟩ := hkeyed.decode hc
      rw [hkeyed.previous hc h.sound.short, Option.some_inj] at hprev
      have hnext : advance c maxVersions (s.writers i).call s.dir (.hashed prevHash)
          = (s.dir, .signed (provenanced c seed prevHash (s.writers i).call.record)) := by
        rw [advance, hraw]
        simp only [hdecode]
        rfl
      rw [hnext, ← hprev]
      exact h.along hsigning rfl h.extra ⟨seed, hkeyed, rfl⟩

theorem Tended.writePrivate (h : Tended c s rs) {maxVersions : Int} {i : ι} {prevHash : Str}
    (hi : (s.writers i).phase = .generated prevHash) :
  Tended c (s.moved i (advance c maxVersions (s.writers i).call s.dir (.generated prevHash))) rs
  := by
  have hsigning : (s.writers i).phase.signing = true := by
    rw [hi]
    rfl
  have hmidway := h.midway i hsigning
  rw [Midway, hi] at hmidway
  obtain ⟨hfresh, hrs, hprev⟩ := hmidway
  apply h.along hsigning rfl
  · exact h.extra.congr rfl rfl rfl
  · exact ⟨hfresh.1, rfl, hrs, hprev⟩

theorem Tended.writePublic (h : Tended c s rs) {maxVersions : Int} {i : ι} {prevHash : Str}
    (hi : (s.writers i).phase = .privateWritten prevHash) :
  Tended c (s.moved i (advance c maxVersions (s.writers i).call s.dir (.privateWritten prevHash)))
    rs
  := by
  have hsigning : (s.writers i).phase.signing = true := by
    rw [hi]
    rfl
  have hmidway := h.midway i hsigning
  rw [Midway, hi] at hmidway
  obtain ⟨hindex, hprivate, hrs, hprev⟩ := hmidway
  apply h.along hsigning rfl
  · exact h.extra.congr rfl rfl rfl
  · refine ⟨(s.writers i).call.seed, ⟨⟨(s.writers i).call.length_seed, hprivate, rfl⟩, ?_⟩, ?_⟩
    · show s.dir.index.getD [] = _
      rw [hindex, hrs]
      rfl
    · rw [hrs, hprev]
      rfl

theorem Tended.store (hc : c.Lawful) (h : Tended c s rs) {maxVersions : Int} {i : ι}
    {r : ArtifactVersionRecord} (hi : (s.writers i).phase = .signed r) (hclear : Clear s i) :
  Tended c (s.moved i (advance c maxVersions (s.writers i).call s.dir (.signed r)))
    (rs ++ [(s.writers i).call.record])
  := by
  have hsigning : (s.writers i).phase.signing = true := by
    rw [hi]
    rfl
  have hmidway := h.midway i hsigning
  rw [Midway, hi] at hmidway
  obtain ⟨seed, hkeyed, hr⟩ := hmidway
  obtain ⟨hkeys, hlength⟩ := h.historyOf hc
  apply h.append (h.others hsigning)
  · exact h.extra.congr rfl rfl rfl
  · apply h.sound.concat (hclear.valid r hi)
    rw [← hlength]
    exact hclear.short r hi
  · cases hkind : (s.writers i).call.kind with
    | upload => exact h.claimed i ⟨hkind, .inr hsigning⟩
    | persist =>
        rw [← hkeys]
        exact hclear.new r hi hkind
  · exact hclear.unclaimed r hi
  · rw [hr]
    exact .keyed (hkeyed.append _)
  · cases (s.writers i).call.kind <;> rfl

/-- A step that nothing interferes with keeps the history and the calls in order. -/
theorem Tended.step (hc : c.Lawful) {maxVersions : Int} {s' : System ι} (h : Tended c s rs)
    (hstep : Step c maxVersions Clear s s') :
  ∃ rs', Tended c s' rs'
  := by
  cases hstep with
  | refuse i hphase =>
      use rs
      apply h.rest (by rw [hphase]; rfl) rfl
      · intro _ hchecked
        cases hchecked
      · intro hstored
        cases hstored
  | advance i hclear =>
      cases hphase : (s.writers i).phase with
      | idle =>
          cases hkind : (s.writers i).call.kind with
          | upload =>
              have hnext : advance c maxVersions (s.writers i).call s.dir .idle = (s.dir,
                  if uploadAllowed maxVersions s.dir.index (s.writers i).call.record then .checked
                  else .failed) := by
                rw [advance, hkind]
              rw [hnext]
              exact ⟨rs, h.check hc hphase⟩
          | persist =>
              have hnext : advance c maxVersions (s.writers i).call s.dir .idle
                  = (s.dir, beginPersist c s.dir (s.writers i).call.record) := by
                rw [advance, hkind]
              have hlooks : (s.writers i).looksUp := .inr ⟨hphase, hkind⟩
              rw [hnext]
              exact ⟨rs, h.lookUp hlooks (hclear.alone hlooks)⟩
      | checked => exact ⟨rs, h.lookUp (.inl hphase) (hclear.alone (.inl hphase))⟩
      | hashed prevHash => exact ⟨rs, h.sign hc hphase⟩
      | generated prevHash => exact ⟨rs, h.writePrivate hphase⟩
      | privateWritten prevHash => exact ⟨rs, h.writePublic hphase⟩
      | signed r => exact ⟨_, h.store hc hphase hclear⟩
      | appended =>
          use rs
          apply h.rest (by rw [hphase]; rfl)
          · split <;> rfl
          · split
            · intro _ hchecked
              cases hchecked
            · intro _ hchecked
              cases hchecked
          · intro _
            rw [hphase]
            rfl
      | done =>
          use rs
          apply h.rest (by rw [hphase]; rfl) rfl
          · intro _ hchecked
            cases hchecked
          · intro _
            rw [hphase]
            rfl
      | failed =>
          use rs
          apply h.rest (by rw [hphase]; rfl) rfl
          · intro _ hchecked
            cases hchecked
          · intro hstored
            cases hstored

end

end

/-! ### Two calls at once -/

theorem length_zeroSeed :
  zeroSeed.length = 32
  := List.length_replicate

section

attribute [local instance] asciiTables

end

end Registry
