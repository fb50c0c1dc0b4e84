import BpfCompat.Registry.History

/-!
# A crash while the signing key is made

The local signer writes its key pair in two files, the private one first.  A crash, or a
write that fails, leaves the file it strikes with the part that was written by then, and the
other as it was.  Later calls make a new pair only if there is no private key file at all.

A private key that was cut off cannot be read, and later calls fail.  A private key that is
whole signs the rows of later calls, which verify exactly when the public key is whole too
(`bootstrap_survives_iff`).
-/

namespace Registry

open Go

section

variable {c : Crypto} {seed : Str}

/-! ### The two files -/

def privateKeyFile (c : Crypto) (seed : Str) : Str := base64Encode (c.newKeyFromSeed seed) ++ [10]

def publicKeyFile (c : Crypto) (seed : Str) : Str :=
  keyIDFromPublicKey c (publicOf (c.newKeyFromSeed seed)) ++ str " " ++
    base64Encode (publicOf (c.newKeyFromSeed seed)) ++ [10]

/-- How far the creation of the key pair came: nothing was written, or so many bytes of the private
key and none of the other, or all of the private key and so many bytes of the public one. -/
inductive Progress where
  | nothing
  | privateKey (written : Nat)
  | publicKey (written : Nat)

/-- The directory a crash leaves. -/
def crashed (c : Crypto) (seed : Str) (dir : WorkDir) : Progress → WorkDir
  | .nothing => dir
  | .privateKey written => { dir with privateKey := some ((privateKeyFile c seed).take written) }
  | .publicKey written =>
    { dir with
      privateKey := some (privateKeyFile c seed)
      publicKey := some ((publicKeyFile c seed).take written) }

/-- Without a crash both files are written. -/
theorem ensureArtifactRegistrySigner_eq_crashed {dir : WorkDir} (hnone : dir.privateKey = none) :
  ensureArtifactRegistrySigner c seed dir
    = some (c.newKeyFromSeed seed,
        crashed c seed dir (.publicKey (publicKeyFile c seed).length))
  := by
  rw [ensureArtifactRegistrySigner, hnone, crashed, List.take_length]
  rfl

/-! ### A private key that was cut off -/

section

variable (hc : c.Lawful) (hseed : seed.length = 32)

include hc hseed

theorem length_base64Encode_newKey :
  (base64Encode (c.newKeyFromSeed seed)).length = 88
  := by
  rw [length_base64Encode, hc.length_newKeyFromSeed seed hseed]

theorem decodeEd25519PrivateKey_cut {written : Nat} (h : written < 88) :
  decodeEd25519PrivateKey c (trimSpace ((privateKeyFile c seed).take written)) = none
  := by
  have hlength := length_base64Encode_newKey hc hseed
  have hgraphic : ∀ b ∈ (base64Encode (c.newKeyFromSeed seed)).take written, 32 < b ∧ b < 127 :=
    fun b hb => base64Encode_graphic _ b (List.mem_of_mem_take hb)
  rw [decodeEd25519PrivateKey, trimSpace_trimSpace, privateKeyFile,
    List.take_append_of_le_length (by omega), trimSpace_of_graphic hgraphic,
    base64Decode_take (by omega)]
  split_ifs with hmod
  · -- whole groups hold a multiple of three bytes, and a key has 32 or 64
    have hkey := hc.length_newKeyFromSeed seed hseed
    have htake : ((c.newKeyFromSeed seed).take (3 * (written / 4))).length = 3 * (written / 4) := by
      rw [List.length_take, hkey]
      omega
    simp only [Option.bind_eq_bind, Option.bind_some, htake]
    rw [if_neg (by omega), if_neg (by omega)]
  · rfl

theorem decodeEd25519PrivateKey_whole {written : Nat} (h : 88 ≤ written) :
  decodeEd25519PrivateKey c (trimSpace ((privateKeyFile c seed).take written))
    = some (c.newKeyFromSeed seed)
  := by
  have hlength := length_base64Encode_newKey hc hseed
  have htrim : trimSpace ((privateKeyFile c seed).take written)
      = base64Encode (c.newKeyFromSeed seed) := by
    rw [privateKeyFile, List.take_append, List.take_of_length_le (by omega), hlength]
    rcases hrest : written - 88 with - | n
    · rw [List.take_zero, List.append_nil]
      exact trimSpace_of_graphic (base64Encode_graphic _)
    · rw [List.take_succ_cons, List.take_nil]
      exact trimSpace_graphic_append_lf (base64Encode_graphic _)
  rw [htrim, decodeEd25519PrivateKey, trimSpace_of_graphic (base64Encode_graphic _),
    base64Decode_base64Encode]
  exact if_pos (hc.length_newKeyFromSeed seed hseed)

/-! ### A public key that was cut off -/

theorem length_base64Encode_ownKey :
  (base64Encode (ownKey c seed).publicKey).length = 44
  := by
  have hlength : (ownKey c seed).publicKey.length = 32 := length_ownKey hc hseed
  rw [length_base64Encode, hlength]

theorem length_ownLine :
  (ownLine c seed).length = 57
  := by
  have hid : (ownKey c seed).keyID.length = 12 := length_keyID hc _
  rw [ownLine, List.length_append, List.length_cons, hid, length_base64Encode_ownKey hc hseed]

omit hc hseed in
theorem publicKeyFile_eq :
  publicKeyFile c seed = ownLine c seed ++ [10]
  := by
  have hspace : str " " = [32] := by decide
  rw [publicKeyFile, hspace, ownLine, List.append_assoc (keyIDFromPublicKey _ _)]
  rfl

omit hc hseed in
theorem lf_notMem_ownLine :
  10 ∉ ownLine c seed
  := by
  rw [ownLine, List.mem_append, List.mem_cons]
  rintro (h | h | h)
  · exact absurd (hexEncode_graphic _ _ h).1 (by decide)
  · exact absurd h (by decide)
  · exact absurd (base64Encode_graphic _ _ h).1 (by decide)

omit hseed in
/-- The line cut off within its name, or within the key. -/
theorem take_ownLine {written : Nat} (hpos : 0 < written) (h : written < 57) :
  (∃ word, trimSpace ((ownLine c seed).take written) = word ∧ word <+: (ownKey c seed).keyID
      ∧ word ≠ [])
    ∨ ∃ n, 0 < n ∧ n < 44 ∧ (ownLine c seed).take written
      = (ownKey c seed).keyID ++ 32 :: (base64Encode (ownKey c seed).publicKey).take n
  := by
  have hid : (ownKey c seed).keyID.length = 12 := length_keyID hc _
  have hgraphic : ∀ b ∈ (ownKey c seed).keyID, 32 < b ∧ b < 127 := hexEncode_graphic _
  rcases Nat.lt_trichotomy written 13 with hlt | rfl | hgt
  · left
    refine ⟨(ownKey c seed).keyID.take written, ?_, List.take_prefix _ _, ?_⟩
    · rw [ownLine, List.take_append_of_le_length (by omega)]
      exact trimSpace_of_graphic fun b hb => hgraphic b (List.mem_of_mem_take hb)
    · intro hnil
      have hlength := congrArg List.length hnil
      rw [List.length_take, hid] at hlength
      simp only [List.length_nil] at hlength
      omega
  · left
    have hcut : (ownLine c seed).take 13 = (ownKey c seed).keyID ++ [32] := by
      rw [ownLine, List.take_append, List.take_of_length_le (by omega), hid]
      rfl
    refine ⟨(ownKey c seed).keyID, ?_, List.prefix_refl _, keyID_ne_nil hc _⟩
    rw [hcut, trimSpace_concat (by decide) (by decide)]
    exact trimSpace_of_graphic hgraphic
  · right
    refine ⟨written - 13, by omega, by omega, ?_⟩
    have hrest : written - 12 = written - 13 + 1 := by omega
    rw [ownLine, List.take_append, List.take_of_length_le (by omega), hid, hrest,
      List.take_succ_cons]

omit hc hseed in
/-- A file of one line that counts. -/
theorem parse_singleLine {line : Str} (hlf : 10 ∉ line) (hne : fields (trimSpace line) ≠ [])
    (hcomment : ¬ (str "#").isPrefixOf (trimSpace line) = true) :
  parseTrustedSigningKeysLines c line = (parseTrustedSigningKeyLine c (trimSpace line)).map ([·])
  := by
  have hblank : trimSpace line ≠ [] := by
    intro hnil
    rw [hnil] at hne
    exact hne rfl
  rw [parseTrustedSigningKeysLines, List.splitOn_eq_singleton hlf]
  simp only [List.map_cons, List.map_nil]
  rw [List.filter_cons_of_pos (by simp [hblank, hne, hcomment]), List.filter_nil, List.mapM_cons]
  cases parseTrustedSigningKeyLine c (trimSpace line) with
  | none => rfl
  | some key => rfl

/-- What a line of the file begins with is no comment. -/
theorem not_comment_of_prefix {text : Str} (h : text <+: ownLine c seed) :
  ¬ (str "#").isPrefixOf text = true
  := by
  have hfields : fields (ownLine c seed) ≠ [] := by
    rw [fields_ownLine hc hseed]
    exact List.cons_ne_nil _ _
  have hown := (ownLine_kept hc hfields).2.1
  intro hcomment
  rw [List.isPrefixOf_iff_prefix] at hown hcomment
  exact hown (hcomment.trans h)

omit hc hseed in
/-- A short text is no public key. -/
theorem decodeEd25519PublicKey_short {raw : Str} (h : (trimSpace raw).length < 40) :
  decodeEd25519PublicKey raw = none
  := by
  rw [decodeEd25519PublicKey]
  cases hdecode : base64Decode (trimSpace raw) with
  | none => rfl
  | some key =>
      have hlength := (length_of_base64Groups hdecode).2
      have hfilter := List.length_filter_le (fun b : UInt8 => decide (b ≠ 10 ∧ b ≠ 13)) (trimSpace raw)
      simp only [Option.bind_eq_bind, Option.bind_some]
      rw [if_neg (by omega)]

/-- A public key file that was cut off cannot be parsed. -/
theorem parse_publicKeyFile_cut {written : Nat} (hpos : 0 < written) (h : written < 57) :
  parseTrustedSigningKeysLines c ((publicKeyFile c seed).take written) = none
  := by
  have hline := length_ownLine hc hseed
  have hid : (ownKey c seed).keyID.length = 12 := length_keyID hc _
  have hgraphic : ∀ b ∈ (ownKey c seed).keyID, 32 < b ∧ b < 127 := hexEncode_graphic _
  have hlf : 10 ∉ (ownLine c seed).take written := fun hmem =>
    lf_notMem_ownLine (List.mem_of_mem_take hmem)
  rw [publicKeyFile_eq, List.take_append_of_le_length (by omega)]
  rcases take_ownLine hc hpos h with ⟨word, htrim, hsub, hne⟩ | ⟨n, hn, hn44, htake⟩
  · have hword : ∀ b ∈ word, 32 < b ∧ b < 127 := fun b hb => hgraphic b (hsub.subset hb)
    have hfields := fields_word hword hne
    rw [parse_singleLine hlf, htrim, parseTrustedSigningKeyLine, hfields]
    · have hlength := hsub.length_le
      simp only [decodeEd25519PublicKey_short (by rw [trimSpace_of_graphic hword]; omega),
        Option.map_none]
    · rw [htrim, hfields]
      exact List.cons_ne_nil _ _
    · rw [htrim]
      exact not_comment_of_prefix hc hseed (hsub.trans (List.prefix_append _ _))
  · have hkey : ∀ b ∈ (base64Encode (ownKey c seed).publicKey).take n, 32 < b ∧ b < 127 :=
      fun b hb => base64Encode_graphic _ b (List.mem_of_mem_take hb)
    have hkeyne : (base64Encode (ownKey c seed).publicKey).take n ≠ [] := by
      intro hnil
      have hlength := congrArg List.length hnil
      rw [List.length_take, length_base64Encode_ownKey hc hseed] at hlength
      simp only [List.length_nil] at hlength
      omega
    have hfields := fields_pair hgraphic hkey (keyID_ne_nil hc _) hkeyne
    have htrim := trimSpace_pair hgraphic hkey (keyID_ne_nil hc _) hkeyne
    have hdecode : decodeEd25519PublicKey ((base64Encode (ownKey c seed).publicKey).take n)
        = none := by
      have hpublic : (ownKey c seed).publicKey.length = 32 := length_ownKey hc hseed
      rw [decodeEd25519PublicKey, trimSpace_of_graphic hkey,
        base64Decode_take (by rw [length_base64Encode_ownKey hc hseed]; exact hn44)]
      split_ifs with hmod
      · simp only [Option.bind_eq_bind, Option.bind_some]
        rw [if_neg (by rw [List.length_take, hpublic]; omega)]
      · rfl
    rw [parse_singleLine hlf, htake, htrim, parseTrustedSigningKeyLine, hfields]
    · simp only [trimSpace_of_graphic hkey, hdecode, Option.map_none]
    · rw [htake, htrim, hfields]
      exact List.cons_ne_nil _ _
    · rw [htake, htrim, ← htake]
      exact not_comment_of_prefix hc hseed (List.take_prefix _ _)

theorem parse_publicKeyFile_whole {written : Nat} (h : 57 ≤ written) :
  parseTrustedSigningKeysLines c ((publicKeyFile c seed).take written) = some [ownKey c seed]
  := by
  have hline := length_ownLine hc hseed
  have htrim := trimSpace_ownLine hc hseed
  rw [publicKeyFile_eq, List.take_append, List.take_of_length_le (by omega), hline]
  rcases hrest : written - 57 with - | n
  · rw [List.take_zero, List.append_nil, parse_singleLine lf_notMem_ownLine, htrim,
      parse_ownLine hc hseed, Option.map_some]
    · rw [htrim, fields_ownLine hc hseed]
      exact List.cons_ne_nil _ _
    · rw [htrim]
      exact not_comment_of_prefix hc hseed (List.prefix_refl _)
  · rw [List.take_succ_cons, List.take_nil]
    exact parse_publicKeyFile hc hseed

/-! ### Whether the key is trusted after a crash -/

omit hc hseed in
theorem loadTrustedSigningKeys_congr {dir dir' : WorkDir}
    (hpublic : addFromFile c dir'.publicKey [] = addFromFile c dir.publicKey [])
    (hkeyring : dir'.keyring = dir.keyring) (hexternal : dir'.externalKeyring = dir.externalKeyring)
    (hinline : dir'.inlineKeys = dir.inlineKeys) :
  loadTrustedSigningKeys c dir' = loadTrustedSigningKeys c dir
  := by
  rw [loadTrustedSigningKeys, loadTrustedSigningKeys, hpublic, hkeyring, hexternal, hinline]

omit hc hseed in
theorem trusts_privateKey_iff {dir : WorkDir} {written : Nat} :
  Trusts c seed (crashed c seed dir (.privateKey written)) ↔ Trusts c seed dir
  := Iff.rfl

/-- With its public key written, or cut off after nothing, the key is trusted exactly if the file is
whole or the key was trusted before. -/
theorem trusts_publicKey_iff {dir : WorkDir} (hnone : dir.publicKey = none)
    (hextra : ExtraKeysParse c dir) {written : Nat} :
  Trusts c seed (crashed c seed dir (.publicKey written))
    ↔ 57 ≤ written ∨ written = 0 ∧ Trusts c seed dir
  := by
  by_cases hwhole : 57 ≤ written
  · apply iff_of_true _ (.inl hwhole)
    have hkeys : KeyFiles c seed (crashed c seed dir (.publicKey (publicKeyFile c seed).length)) := by
      refine ⟨hseed, rfl, ?_⟩
      rw [crashed, List.take_length]
      rfl
    have hline := length_ownLine hc hseed
    have hsame : loadTrustedSigningKeys c (crashed c seed dir (.publicKey written))
        = loadTrustedSigningKeys c
          (crashed c seed dir (.publicKey (publicKeyFile c seed).length)) := by
      refine loadTrustedSigningKeys_congr ?_ rfl rfl rfl
      have hlength : 57 ≤ (publicKeyFile c seed).length := by
        rw [publicKeyFile_eq, List.length_append]
        omega
      simp only [crashed, addFromFile, parse_publicKeyFile_whole hc hseed hwhole,
        parse_publicKeyFile_whole hc hseed hlength]
    have htrusts := hkeys.trusts hc (hextra.congr rfl rfl rfl)
    rwa [Trusts, hsame, ← Trusts]
  · rcases Nat.eq_zero_or_pos written with rfl | hpos
    · -- an empty file holds no keys, as if it were not there
      have hsame : loadTrustedSigningKeys c (crashed c seed dir (.publicKey 0))
          = loadTrustedSigningKeys c dir := by
        refine loadTrustedSigningKeys_congr ?_ rfl rfl rfl
        rw [hnone]
        rfl
      rw [Trusts, hsame, ← Trusts]
      simp
    · have hload : loadTrustedSigningKeys c (crashed c seed dir (.publicKey written)) = none := by
        have hparse := parse_publicKeyFile_cut hc hseed hpos (Nat.not_le.mp hwhole)
        have hfile : addFromFile c (crashed c seed dir (.publicKey written)).publicKey [] = none := by
          simp only [crashed, addFromFile, hparse, Option.map_none]
        rw [loadTrustedSigningKeys, hfile]
        rfl
      apply iff_of_false
      · rintro ⟨keys, hkeys, -⟩
        rw [hload] at hkeys
        cases hkeys
      · rintro (hle | ⟨hzero, -⟩)
        · exact hwhole hle
        · omega

end

end

section

variable [UnicodeTables] {c : Crypto} {seed : Str} {start : WorkDir}

/-! ### The rows of later calls -/

/-- A directory without a history whose private key is that of a seed. -/
structure SignsWith (c : Crypto) (seed : Str) (start : WorkDir) : Prop where
  length_seed : seed.length = 32
  index : start.index = none
  privateKey : ∃ raw, start.privateKey = some raw
    ∧ decodeEd25519PrivateKey c (trimSpace raw) = some (c.newKeyFromSeed seed)

/-- The directory after some calls: the key signed all their records. -/
def written (c : Crypto) (seed : Str) (start : WorkDir) (rs : List ArtifactVersionRecord) : WorkDir :=
  { start with
    index := if rs = [] then none else some (unlines ((appended c seed [] rs).map marshalRecord)) }

theorem SignsWith.ensure (h : SignsWith c seed start) (rs : List ArtifactVersionRecord)
    (seed' : Str) :
  ensureArtifactRegistrySigner c seed' (written c seed start rs)
    = some (c.newKeyFromSeed seed, written c seed start rs)
  := by
  obtain ⟨raw, hraw, hdecode⟩ := h.privateKey
  have hkey : (written c seed start rs).privateKey = some raw := hraw
  rw [ensureArtifactRegistrySigner, hkey]
  simp only [hdecode, Option.map_some]

theorem written_concat (rs : List ArtifactVersionRecord) (r : ArtifactVersionRecord) :
  written c seed start (rs ++ [r])
    = { written c seed start rs with
        index := some ((written c seed start rs).index.getD [] ++
          (marshalRecord (provenanced c seed (lastHash c [] (appended c seed [] rs)) r) ++ [10])) }
  := by
  have hne : rs ++ [r] ≠ [] := by simp
  have hindex : (written c seed start rs).index.getD []
      = unlines ((appended c seed [] rs).map marshalRecord) := by
    by_cases hnil : rs = []
    · rw [hnil]
      rfl
    · simp only [written, if_neg hnil, Option.getD_some]
  rw [hindex, written, if_neg hne, appended_concat, List.map_append, unlines_append,
    List.map_singleton, unlines_singleton]
  rfl

theorem previousArtifactRecordHash_written (hc : c.Lawful) (hseed : seed.length = 32)
    {rs : List ArtifactVersionRecord} (hrs : Sound rs) :
  previousArtifactRecordHash c (written c seed start rs)
    = some (lastHash c [] (appended c seed [] rs))
  := by
  by_cases hnil : rs = []
  · rw [hnil]
    rfl
  · apply previousArtifactRecordHash_appended hc
    · simp only [written, if_neg hnil]
    · exact fun r hr => (hrs.spec hc hseed r hr).2

/-- Later calls find the key, and append records it signed. -/
theorem SignsWith.run (hc : c.Lawful) (h : SignsWith c seed start) {rs : List ArtifactVersionRecord}
    {dir : WorkDir} (run : PersistRun c start rs dir) (hrs : Sound rs) :
  dir = written c seed start rs
  := by
  induction run with
  | start =>
      rw [written, if_pos rfl, ← h.index]
  | call run hseed hcall ih =>
      have hbefore := hrs.of_concat
      obtain rfl := ih hbefore
      obtain ⟨prevHash, key, dir₁, hprev, hsigner, rfl⟩ := persistArtifactVersion_eq_ok hcall
      rw [h.ensure, Option.some_inj, Prod.mk.injEq] at hsigner
      obtain ⟨rfl, rfl⟩ := hsigner
      rw [previousArtifactRecordHash_written hc h.length_seed hbefore, Option.some_inj] at hprev
      rw [written_concat, hprev]
      rfl

/-- Every row of the history verifies. -/
def AllVerified (c : Crypto) (dir : WorkDir) : Prop :=
  ∃ rows, verifyArtifactVersionHistory c dir = some rows ∧ ∀ row ∈ rows, row.verified = true

/-- Whatever calls succeed later, the history they leave verifies. -/
def LaterRowsVerify (c : Crypto) (dir : WorkDir) : Prop :=
  ∀ rs dir', PersistRun c dir rs dir' → Sound rs → AllVerified c dir'

theorem SignsWith.allVerified (hc : c.Lawful) (h : SignsWith c seed start)
    (htrusts : Trusts c seed start) {rs : List ArtifactVersionRecord} (hrs : Sound rs) :
  AllVerified c (written c seed start rs)
  := by
  by_cases hnil : rs = []
  · refine ⟨[], ?_, List.forall_mem_nil _⟩
    rw [verifyArtifactVersionHistory, written, if_pos hnil]
    rfl
  · have hread := readArtifactVersionRecords_survives (hrs.spec hc h.length_seed)
    have htrusts' : Trusts c seed (written c seed start rs) := htrusts
    have hrows := verifyRows_appended hc h.length_seed htrusts' (.inl rfl) (i := 0) (by simp) rs
    refine ⟨verifyRows c (written c seed start rs) 0 [] (appended c seed [] rs), ?_, ?_⟩
    · rw [verifyArtifactVersionHistory]
      simp only [written, if_neg hnil, hread, Option.map_some]
    · exact forall_verified (fun _ _ => rfl) hrows

theorem signature_of_verified {dir : WorkDir} {i : Nat} {prevHash : Str} {r : ArtifactVersionRecord}
    (h : (verifyRow c dir i prevHash r).verified = true) :
  verifyArtifactRecordSignature c dir r (canonicalPayload r) = .ok ()
  := by
  have hissues : signatureIssues (verifyArtifactRecordSignature c dir r (canonicalPayload r)) = [] := by
    simp only [verifyRow, List.isEmpty_iff, List.append_eq_nil_iff] at h
    exact h.2
  cases hverify : verifyArtifactRecordSignature c dir r (canonicalPayload r) with
  | ok => rfl
  | error issue =>
      rw [hverify] at hissues
      cases hissues

/-- The rows of a key that is not trusted do not verify. -/
theorem SignsWith.not_allVerified (hc : c.Lawful) (h : SignsWith c seed start)
    (htrusts : ¬ Trusts c seed start) {rs : List ArtifactVersionRecord} (hne : rs ≠ [])
    (hrs : Sound rs) :
  ¬ AllVerified c (written c seed start rs)
  := by
  have hread := readArtifactVersionRecords_survives (hrs.spec hc h.length_seed)
  have hindex : (written c seed start rs).index
      = some (unlines ((appended c seed [] rs).map marshalRecord)) := by
    simp only [written, if_neg hne]
  rintro ⟨rows, hrows, hall⟩
  rw [verifyArtifactVersionHistory, hindex, hread, Option.map_some, Option.some_inj] at hrows
  obtain ⟨r, rs', rfl⟩ := List.exists_cons_of_ne_nil hne
  rw [← hrows, appended, verifyRows, List.forall_mem_cons] at hall
  exact htrusts ((verifyArtifactRecordSignature_signed_iff hc h.length_seed
    (signedBy_provenanced [] r)).mp (signature_of_verified hall.1))

/-- A call with a record of the simplest kind succeeds. -/
theorem SignsWith.persist (h : SignsWith c seed start) (hpath : start.path ≠ []) :
  ∃ dir, PersistRun c start [simpleRecord (str "1")] dir
  := by
  have hwritten : written c seed start [] = start := by
    rw [written, if_pos rfl, ← h.index]
  have hensure := h.ensure [] zeroSeed
  rw [hwritten] at hensure
  have hprev : previousArtifactRecordHash c start = some [] := by
    rw [previousArtifactRecordHash, h.index]
    rfl
  have hgiven : trimSpace (str "a") ≠ [] ∧ trimSpace (str "1") ≠ [] ∧ trimSpace (str "00") ≠ []
      ∧ trimSpace (str "r") ≠ [] := by decide
  have hcall : ∃ dir, persistArtifactVersion c zeroSeed start (simpleRecord (str "1")) = .ok dir := by
    simp only [persistArtifactVersion, simpleRecord, hpath, hgiven, if_false,
      applyArtifactRecordProvenance, hprev, hensure]
    exact ⟨_, rfl⟩
  obtain ⟨dir, hcall⟩ := hcall
  exact ⟨dir, .call (.start start) List.length_replicate hcall⟩

/-- The state a crash left does no harm: the private key cannot be read, or the public key is there
for those who verify. -/
def Harmless (c : Crypto) (seed : Str) (start : WorkDir) : Progress → Prop
  | .nothing => True
  | .privateKey written => written < 88 ∨ Trusts c seed start
  | .publicKey written => 57 ≤ written ∨ written = 0 ∧ Trusts c seed start

theorem laterRowsVerify_iff_of_signsWith (hc : c.Lawful) (h : SignsWith c seed start)
    (hpath : start.path ≠ []) :
  LaterRowsVerify c start ↔ Trusts c seed start
  := by
  constructor
  · intro hlater
    by_contra htrusts
    obtain ⟨dir, run⟩ := h.persist hpath
    have hverified := hlater _ dir run sound_first
    rw [h.run hc run sound_first] at hverified
    exact h.not_allVerified hc htrusts (List.cons_ne_nil _ _) sound_first hverified
  · intro htrusts rs dir run hrs
    rw [h.run hc run hrs]
    exact h.allVerified hc htrusts hrs

/-- A private key that cannot be read lets no call succeed. -/
theorem laterRowsVerify_of_undecodable {raw : Str} (hraw : start.privateKey = some raw)
    (hindex : start.index = none) (hdecode : decodeEd25519PrivateKey c (trimSpace raw) = none) :
  LaterRowsVerify c start
  := by
  intro rs dir run hrs
  clear hrs
  have hstuck : rs = [] ∧ dir = start := by
    induction run with
    | start => exact ⟨rfl, rfl⟩
    | call run hseed hcall ih =>
        obtain ⟨-, rfl⟩ := ih
        obtain ⟨prevHash, key, dir₁, -, hsigner, -⟩ := persistArtifactVersion_eq_ok hcall
        rw [ensureArtifactRegistrySigner, hraw] at hsigner
        simp only [hdecode, Option.map_none] at hsigner
        cases hsigner
  rw [hstuck.2]
  refine ⟨[], ?_, List.forall_mem_nil _⟩
  rw [verifyArtifactVersionHistory, hindex]
  rfl

/-- After a crash at any point of the creation of the key pair, the rows of later calls verify
exactly when the point is harmless. -/
theorem bootstrap_survives_iff (c : Crypto) (hc : c.Lawful) (seed : Str) (hseed : seed.length = 32)
    (start : WorkDir) (hstart : Fresh start) (hpublic : start.publicKey = none)
    (hpath : start.path ≠ []) (hextra : ExtraKeysParse c start) (progress : Progress) :
  LaterRowsVerify c (crashed c seed start progress) ↔ Harmless c seed start progress
  := by
  cases progress with
  | nothing =>
      apply iff_of_true _ trivial
      intro rs dir run hrs
      obtain ⟨rows, hrows, hall⟩ := (Holds.of_run hc hstart hextra run hrs).verifies hc hrs
      exact ⟨rows, hrows, forall_verified (fun _ _ => rfl) hall⟩
  | privateKey written =>
      by_cases hcut : written < 88
      · apply iff_of_true _ (.inl hcut)
        exact laterRowsVerify_of_undecodable rfl hstart.1 (decodeEd25519PrivateKey_cut hc hseed hcut)
      · have hsigns : SignsWith c seed (crashed c seed start (.privateKey written)) :=
          ⟨hseed, hstart.1, _, rfl, decodeEd25519PrivateKey_whole hc hseed (Nat.not_lt.mp hcut)⟩
        rw [laterRowsVerify_iff_of_signsWith hc hsigns hpath, trusts_privateKey_iff]
        exact (or_iff_right hcut).symm
  | publicKey written =>
      have hwhole : (privateKeyFile c seed).take 89 = privateKeyFile c seed := by
        apply List.take_of_length_le
        rw [privateKeyFile, List.length_append, length_base64Encode_newKey hc hseed]
        rfl
      have hdecode : decodeEd25519PrivateKey c (trimSpace ((privateKeyFile c seed).take 89)) = _ :=
        decodeEd25519PrivateKey_whole hc hseed (by decide)
      rw [hwhole] at hdecode
      have hsigns : SignsWith c seed (crashed c seed start (.publicKey written)) :=
        ⟨hseed, hstart.1, _, rfl, hdecode⟩
      rw [laterRowsVerify_iff_of_signsWith hc hsigns hpath]
      exact trusts_publicKey_iff hc hseed hpublic hextra

end

section

attribute [local instance] asciiTables

/-- A directory whose private key was written and whose public key was not keeps that key. -/
theorem emptyDir_untrusted :
  ¬ Trusts tabledCrypto zeroSeed emptyDir
  := by
  have hload : loadTrustedSigningKeys tabledCrypto emptyDir = some [] := rfl
  rintro ⟨keys, hkeys, key, hkey, -⟩
  rw [hload, Option.some_inj] at hkeys
  rw [← hkeys] at hkey
  cases hkey

theorem bootstrap_survives_whole :
  LaterRowsVerify tabledCrypto (crashed tabledCrypto zeroSeed emptyDir (.publicKey 57))
  := (bootstrap_survives_iff tabledCrypto tabledCrypto_lawful zeroSeed List.length_replicate emptyDir
    ⟨rfl, rfl⟩ rfl (by decide) emptyDir_extraKeysParse (.publicKey 57)).mpr (.inl le_rfl)

/-- A crash between the two files leaves a key whose rows never verify. -/
theorem unverifiable_after_crash :
  ¬ ∀ (c : Crypto), c.Lawful → ∀ seed : Str, seed.length = 32 → ∀ start : WorkDir, Fresh start →
    start.publicKey = none → start.path ≠ [] → ExtraKeysParse c start → ∀ progress,
    LaterRowsVerify c (crashed c seed start progress)
  := by
  intro h
  have hseed : zeroSeed.length = 32 := List.length_replicate
  have hsigns : SignsWith tabledCrypto zeroSeed
      (crashed tabledCrypto zeroSeed emptyDir (.privateKey 89)) :=
    ⟨hseed, rfl, _, rfl, decodeEd25519PrivateKey_whole tabledCrypto_lawful hseed (by decide)⟩
  have hlater := h tabledCrypto tabledCrypto_lawful zeroSeed hseed emptyDir ⟨rfl, rfl⟩ rfl
    (by decide) emptyDir_extraKeysParse (.privateKey 89)
  rw [laterRowsVerify_iff_of_signsWith tabledCrypto_lawful hsigns (by decide),
    trusts_privateKey_iff] at hlater
  exact emptyDir_untrusted hlater

end

end Registry
