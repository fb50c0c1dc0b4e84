import BpfCompat.Go.Lines
import BpfCompat.Registry.Record

/-!
# Signing

The keys a registry signs its records with, the keys it trusts, and the check of a signature.
The local signer makes a key pair at its first use and keeps it in two files of the working
directory; the trusted keys are read from the second one, from a keyring file, and from the
environment.

A record signed by the local signer verifies as long as the two files are as they were written
(`KeyFiles.trusts`, `verifyArtifactRecordSignature_signed_iff`).
-/

namespace Registry

open Go

/-- The functions of the standard library that hash, make keys, sign and verify. -/
structure Crypto where
  sha256 : Str → Str
  newKeyFromSeed : Str → Str
  sign : Str → Str → Str
  verify : Str → Str → Str → Bool

/-- What is documented of them. -/
structure Crypto.Lawful (c : Crypto) : Prop where
  length_sha256 : ∀ s, (c.sha256 s).length = 32
  length_newKeyFromSeed : ∀ seed, seed.length = 32 → (c.newKeyFromSeed seed).length = 64
  length_sign : ∀ key message, key.length = 64 → (c.sign key message).length = 64
  verify_sign : ∀ seed message, seed.length = 32 →
    c.verify ((c.newKeyFromSeed seed).drop 32) message
      (c.sign (c.newKeyFromSeed seed) message) = true

/-- The files of a working directory the history rests on, with the two settings of the
environment that name further trusted keys. -/
structure WorkDir where
  path : Str
  /-- `registry/artifact_versions.jsonl` -/
  index : Option Str := none
  /-- `keys/artifact-registry-signing-key.ed25519` -/
  privateKey : Option Str := none
  /-- `keys/artifact-registry-signing-key.pub` -/
  publicKey : Option Str := none
  /-- `keys/trusted-signing-keys.pub` -/
  keyring : Option Str := none
  /-- The file `BPFCOMPAT_TRUSTED_SIGNING_KEYS_PATH` names, where it is set. -/
  externalKeyring : Option Str := none
  /-- The value of `BPFCOMPAT_TRUSTED_SIGNING_PUBLIC_KEYS`. -/
  inlineKeys : Str := []

/-! ### Keys -/

/-- The public half of a private key. -/
def publicOf (privateKey : Str) : Str := privateKey.drop 32

def keyIDFromPublicKey (c : Crypto) (publicKey : Str) : Str :=
  hexEncode ((c.sha256 publicKey).take 6)

def decodeEd25519PrivateKey (c : Crypto) (raw : Str) : Option Str := do
  let decoded ← base64Decode (trimSpace raw)
  if decoded.length = 64 then some decoded
  else if decoded.length = 32 then some (c.newKeyFromSeed decoded)
  else none

def decodeEd25519PublicKey (raw : Str) : Option Str := do
  let publicKeyRaw ← base64Decode (trimSpace raw)
  if publicKeyRaw.length = 32 then some publicKeyRaw else none

/-- The key the local signer signs with.  A new one is made from a random seed when there is
no key file yet, and both files are written. -/
def ensureArtifactRegistrySigner (c : Crypto) (seed : Str) (dir : WorkDir) :
    Option (Str × WorkDir) :=
  match dir.privateKey with
  | some raw => (decodeEd25519PrivateKey c (trimSpace raw)).map fun key => (key, dir)
  | none =>
    let key := c.newKeyFromSeed seed
    some (key,
      { dir with
        privateKey := some (base64Encode key ++ [10])
        publicKey := some (keyIDFromPublicKey c (publicOf key) ++ str " " ++
          base64Encode (publicOf key) ++ [10]) })

/-- The signature of a payload and the key it was made with. -/
structure SignatureEnvelope where
  signatureAlg : Str
  signatureKeyID : Str
  signaturePublicKey : Str
  signature : Str

/-- The local signer. -/
def localSign (c : Crypto) (key payload : Str) : SignatureEnvelope where
  signatureAlg := str "ed25519"
  signatureKeyID := keyIDFromPublicKey c (publicOf key)
  signaturePublicKey := base64Encode (publicOf key)
  signature := base64Encode (c.sign key payload)

/-! ### Trusted keys -/

structure TrustedSigningKey where
  keyID : Str
  publicKey : Str
deriving DecidableEq

/-- The key of one line of a key file: a name and the key, or the key alone. -/
def parseTrustedSigningKeyLine (c : Crypto) (line : Str) : Option TrustedSigningKey :=
  match fields line with
  | [] => none
  | [publicRaw] =>
    (decodeEd25519PublicKey publicRaw).map fun publicKey =>
      { keyID := keyIDFromPublicKey c publicKey, publicKey := publicKey }
  | first :: second :: _ =>
    (decodeEd25519PublicKey (trimSpace second)).map fun publicKey =>
      { keyID := if trimSpace first = [] then keyIDFromPublicKey c publicKey else trimSpace first
        publicKey := publicKey }

/-- The keys of a key file; blank lines and comments are skipped. -/
def parseTrustedSigningKeysLines (c : Crypto) (raw : Str) : Option (List TrustedSigningKey) :=
  let lines := (raw.splitOn 10).map trimSpace
  (lines.filter fun line => line ≠ [] ∧ ¬ (str "#").isPrefixOf line ∧ fields line ≠ []).mapM
    (parseTrustedSigningKeyLine c)

/-- One key of the environment: a name, a colon and the key, or the key alone. -/
def parseInlineTrustedKey (c : Crypto) (raw : Str) : Option TrustedSigningKey :=
  let raw := trimSpace raw
  if raw = [] then none
  else
    let name := raw.takeWhile (· ≠ 58)
    if name ≠ [] ∧ name ≠ raw then
      (decodeEd25519PublicKey (trimSpace (raw.drop (name.length + 1)))).map fun publicKey =>
        { keyID := if trimSpace name = [] then keyIDFromPublicKey c publicKey else trimSpace name
          publicKey := publicKey }
    else
      (decodeEd25519PublicKey raw).map fun publicKey =>
        { keyID := keyIDFromPublicKey c publicKey, publicKey := publicKey }

/-- The keys of the environment, separated by commas or white space. -/
def splitInlineTrustedKeys (raw : Str) : List Str :=
  ((fieldsFunc (fun r => r = ',' ∨ r = '\n' ∨ r = '\r' ∨ r = '\t' ∨ r = ' ') raw).map
    trimSpace).filter (· ≠ [])

/-- A key is added unless its length is wrong or it is there already. -/
def addKey (c : Crypto) (keys : List TrustedSigningKey) (key : TrustedSigningKey) :
    List TrustedSigningKey :=
  if key.publicKey.length ≠ 32 then keys
  else if key.publicKey ∈ keys.map TrustedSigningKey.publicKey then keys
  else
    keys ++ [{ key with
      keyID := if key.keyID = [] then keyIDFromPublicKey c key.publicKey else key.keyID }]

def addFromFile (c : Crypto) (file : Option Str) (keys : List TrustedSigningKey) :
    Option (List TrustedSigningKey) :=
  match file with
  | none => some keys
  | some raw => (parseTrustedSigningKeysLines c raw).map fun parsed => parsed.foldl (addKey c) keys

def loadTrustedSigningKeys (c : Crypto) (dir : WorkDir) : Option (List TrustedSigningKey) := do
  let keys ← addFromFile c dir.publicKey []
  let keys ← addFromFile c dir.keyring keys
  let keys ← addFromFile c dir.externalKeyring keys
  let inlineKeys := trimSpace dir.inlineKeys
  if inlineKeys = [] then some keys
  else
    let parsed ← (splitInlineTrustedKeys inlineKeys).mapM (parseInlineTrustedKey c)
    return parsed.foldl (addKey c) keys

/-! ### Signatures -/

/-- What can be wrong with a row of the history. -/
inductive Issue where
  | recordHashMissing
  | recordHashMismatch
  | firstRecordHasPrev
  | prevHashMissing
  | prevHashMismatch
  | signatureMetadataMissing
  | unsupportedSignatureAlg (alg : Str)
  | trustedKeysUnreadable
  | noTrustedKeys
  | signaturePublicKeyUndecodable
  | signaturePublicKeyUntrusted
  | signatureUndecodable
  | trustedKeyLength (length : Nat)
  | signatureKeyIDMismatch
  | signatureInvalid
  | noTrustedKeyVerifies
deriving DecidableEq

def verifyRecordSignatureWithKey (c : Crypto) (r : ArtifactVersionRecord) (payload : Str)
    (publicKey : Str) : Except Issue Unit :=
  match base64Decode (trimSpace r.signature) with
  | none => .error .signatureUndecodable
  | some signature =>
    if publicKey.length ≠ 32 then .error (.trustedKeyLength publicKey.length)
    else
      let keyID := trimSpace r.signatureKeyID
      if keyID ≠ [] ∧ keyIDFromPublicKey c publicKey ≠ keyID then .error .signatureKeyIDMismatch
      else if !c.verify publicKey payload signature then .error .signatureInvalid
      else .ok ()

/-- A trusted key is not named otherwise than the record says. -/
def keyIDAgrees (keyID : Str) (trusted : TrustedSigningKey) : Bool :=
  keyID = [] || trusted.keyID = [] || trusted.keyID = keyID

def verifyArtifactRecordSignature (c : Crypto) (dir : WorkDir) (r : ArtifactVersionRecord)
    (payload : Str) : Except Issue Unit :=
  let signatureAlg := trimSpace r.signatureAlg
  let signatureRaw := trimSpace r.signature
  let pubRaw := trimSpace r.signaturePublicKey
  let keyID := trimSpace r.signatureKeyID
  if signatureAlg = [] ∧ signatureRaw = [] ∧ pubRaw = [] ∧ keyID = [] then
    .error .signatureMetadataMissing
  else if signatureAlg ≠ str "ed25519" then .error (.unsupportedSignatureAlg signatureAlg)
  else
    match loadTrustedSigningKeys c dir with
    | none => .error .trustedKeysUnreadable
    | some trustedKeys =>
      if trustedKeys = [] then .error .noTrustedKeys
      else if pubRaw ≠ [] then
        match decodeEd25519PublicKey pubRaw with
        | none => .error .signaturePublicKeyUndecodable
        | some recordPublicKey =>
          match trustedKeys.find? fun trusted =>
              keyIDAgrees keyID trusted && trusted.publicKey = recordPublicKey with
          | none => .error .signaturePublicKeyUntrusted
          | some trusted => verifyRecordSignatureWithKey c r payload trusted.publicKey
      else if trustedKeys.any fun trusted => keyIDAgrees keyID trusted &&
          (verifyRecordSignatureWithKey c r payload trusted.publicKey).isOk then .ok ()
      else .error .noTrustedKeyVerifies

/-! ### The local signer is trusted -/

section

variable {c : Crypto} {dir : WorkDir} {seed : Str}

/-- The files of the local signer hold the key made from the seed. -/
structure KeyFiles (c : Crypto) (seed : Str) (dir : WorkDir) : Prop where
  length_seed : seed.length = 32
  privateKey : dir.privateKey = some (base64Encode (c.newKeyFromSeed seed) ++ [10])
  publicKey : dir.publicKey = some (keyIDFromPublicKey c (publicOf (c.newKeyFromSeed seed)) ++
    str " " ++ base64Encode (publicOf (c.newKeyFromSeed seed)) ++ [10])

/-- The trusted keys other than that of the local signer can be read. -/
structure ExtraKeysParse (c : Crypto) (dir : WorkDir) : Prop where
  keyring : ∀ raw ∈ dir.keyring, (parseTrustedSigningKeysLines c raw).isSome
  externalKeyring : ∀ raw ∈ dir.externalKeyring, (parseTrustedSigningKeysLines c raw).isSome
  inlineKeys : ∀ raw ∈ splitInlineTrustedKeys (trimSpace dir.inlineKeys),
    (parseInlineTrustedKey c raw).isSome

/-- The key of the local signer among the trusted ones. -/
def ownKey (c : Crypto) (seed : Str) : TrustedSigningKey where
  keyID := keyIDFromPublicKey c (publicOf (c.newKeyFromSeed seed))
  publicKey := publicOf (c.newKeyFromSeed seed)

theorem length_keyID (hc : c.Lawful) (publicKey : Str) :
  (keyIDFromPublicKey c publicKey).length = 12
  := by
  rw [keyIDFromPublicKey, length_hexEncode, List.length_take, hc.length_sha256]
  rfl

theorem keyID_ne_nil (hc : c.Lawful) (publicKey : Str) :
  keyIDFromPublicKey c publicKey ≠ []
  := by
  intro h
  have hlength := length_keyID hc publicKey
  rw [h] at hlength
  cases hlength

theorem length_ownKey (hc : c.Lawful) (hseed : seed.length = 32) :
  (publicOf (c.newKeyFromSeed seed)).length = 32
  := by
  rw [publicOf, List.length_drop, hc.length_newKeyFromSeed seed hseed]

theorem base64Encode_ne_nil {s : Str} (h : s ≠ []) :
  base64Encode s ≠ []
  := by
  intro hnil
  have hdecode := base64Decode_base64Encode s
  rw [hnil] at hdecode
  exact h (Option.some.inj hdecode).symm

/-- The files that are written are read back. -/
theorem ensureArtifactRegistrySigner_of_keyFiles (hc : c.Lawful) (h : KeyFiles c seed dir)
    (seed' : Str) :
  ensureArtifactRegistrySigner c seed' dir = some (c.newKeyFromSeed seed, dir)
  := by
  have hdecode : decodeEd25519PrivateKey c (trimSpace (base64Encode (c.newKeyFromSeed seed) ++ [10]))
      = some (c.newKeyFromSeed seed) := by
    rw [decodeEd25519PrivateKey, trimSpace_trimSpace,
      trimSpace_graphic_append_lf (base64Encode_graphic _), base64Decode_base64Encode]
    exact if_pos (hc.length_newKeyFromSeed seed h.length_seed)
  rw [ensureArtifactRegistrySigner, h.privateKey]
  simp only [hdecode, Option.map_some]

/-- A new pair of files is the one of its seed. -/
theorem keyFiles_of_ensure (hseed : seed.length = 32) (hnone : dir.privateKey = none) :
  ∃ dir', ensureArtifactRegistrySigner c seed dir = some (c.newKeyFromSeed seed, dir') ∧
    KeyFiles c seed dir' ∧ dir'.path = dir.path ∧ dir'.index = dir.index ∧
      dir'.keyring = dir.keyring ∧ dir'.externalKeyring = dir.externalKeyring ∧
      dir'.inlineKeys = dir.inlineKeys
  := by
  rw [ensureArtifactRegistrySigner, hnone]
  refine ⟨_, rfl, ⟨hseed, rfl, rfl⟩, rfl, rfl, rfl, rfl, rfl⟩

theorem decodeEd25519PublicKey_encode (hc : c.Lawful) (hseed : seed.length = 32) :
  decodeEd25519PublicKey (base64Encode (publicOf (c.newKeyFromSeed seed)))
    = some (publicOf (c.newKeyFromSeed seed))
  := by
  rw [decodeEd25519PublicKey, trimSpace_of_graphic (base64Encode_graphic _),
    base64Decode_base64Encode]
  exact if_pos (length_ownKey hc hseed)

/-- A hexadecimal text is not a comment. -/
theorem not_comment_hexEncode (s rest : Str) (hs : s ≠ []) :
  ¬ (str "#").isPrefixOf (hexEncode s ++ rest) = true
  := by
  obtain ⟨b, s, rfl⟩ := List.exists_cons_of_ne_nil hs
  have hdigit : ∀ n < 16, hexDigit n ≠ 35 := by decide
  have hlt := b.toNat_lt
  have hne := hdigit (b.toNat / 16) (by omega)
  have hhash : str "#" = [35] := by decide
  rw [hhash, hexEncode, List.flatMap_cons, List.cons_append, List.cons_append]
  simp only [List.isPrefixOf, Bool.and_true, beq_iff_eq]
  exact fun h => hne h.symm

/-- The line of the public key file. -/
def ownLine (c : Crypto) (seed : Str) : Str :=
  (ownKey c seed).keyID ++ 32 :: base64Encode (ownKey c seed).publicKey

section

variable (hc : c.Lawful) (hseed : seed.length = 32)

include hc hseed

theorem base64Encode_ownKey_ne_nil :
  base64Encode (ownKey c seed).publicKey ≠ []
  := by
  apply base64Encode_ne_nil
  intro hnil
  have hlength : (ownKey c seed).publicKey.length = 32 := length_ownKey hc hseed
  rw [hnil] at hlength
  cases hlength

theorem fields_ownLine :
  fields (ownLine c seed) = [(ownKey c seed).keyID, base64Encode (ownKey c seed).publicKey]
  := fields_pair (hexEncode_graphic _) (base64Encode_graphic _) (keyID_ne_nil hc _)
    (base64Encode_ownKey_ne_nil hc hseed)

theorem trimSpace_ownLine :
  trimSpace (ownLine c seed) = ownLine c seed
  := trimSpace_pair (hexEncode_graphic _) (base64Encode_graphic _) (keyID_ne_nil hc _)
    (base64Encode_ownKey_ne_nil hc hseed)

theorem parse_ownLine :
  parseTrustedSigningKeyLine c (ownLine c seed) = some (ownKey c seed)
  := by
  have hid : trimSpace (ownKey c seed).keyID = (ownKey c seed).keyID :=
    trimSpace_of_graphic (hexEncode_graphic _)
  have hne : (ownKey c seed).keyID ≠ [] := keyID_ne_nil hc _
  have hkey : decodeEd25519PublicKey (base64Encode (ownKey c seed).publicKey)
      = some (ownKey c seed).publicKey := decodeEd25519PublicKey_encode hc hseed
  rw [parseTrustedSigningKeyLine, fields_ownLine hc hseed]
  simp only [trimSpace_of_graphic (base64Encode_graphic _), hkey, Option.map_some, hid, if_neg hne]

omit hseed in
/-- The line of the public key file is neither blank nor a comment. -/
theorem ownLine_kept (hfields : fields (ownLine c seed) ≠ []) :
  ownLine c seed ≠ [] ∧ ¬ (str "#").isPrefixOf (ownLine c seed) = true ∧
    fields (ownLine c seed) ≠ []
  := by
  refine ⟨?_, ?_, hfields⟩
  · rw [ownLine]
    simp
  · rw [ownLine, ownKey, keyIDFromPublicKey]
    apply not_comment_hexEncode
    intro hnil
    apply keyID_ne_nil hc (publicOf (c.newKeyFromSeed seed))
    rw [keyIDFromPublicKey, hnil]
    rfl

theorem parse_publicKeyFile :
  parseTrustedSigningKeysLines c (ownLine c seed ++ [10]) = some [ownKey c seed]
  := by
  have hlf : ∀ l ∈ [ownLine c seed], 10 ∉ l := by
    intro l hl
    rw [List.mem_singleton] at hl
    rw [hl, ownLine, List.mem_append, List.mem_cons]
    rintro (h | h | h)
    · exact absurd (hexEncode_graphic _ _ h).1 (by decide)
    · exact absurd h (by decide)
    · exact absurd (base64Encode_graphic _ _ h).1 (by decide)
  have hlines : (ownLine c seed ++ [10]).splitOn 10 = [ownLine c seed, []] := by
    have hsplit := splitOn_unlines hlf
    rwa [unlines, List.flatMap_singleton] at hsplit
  have hfields : fields (ownLine c seed) ≠ [] := by
    rw [fields_ownLine hc hseed]
    apply List.cons_ne_nil
  have hkept := ownLine_kept hc hfields
  rw [parseTrustedSigningKeysLines, hlines]
  simp only [List.map_cons, List.map_nil, trimSpace_ownLine hc hseed, trimSpace_nil]
  rw [List.filter_cons_of_pos (by simpa using hkept), List.filter_cons_of_neg (by simp),
    List.filter_nil, List.mapM_cons, parse_ownLine hc hseed]
  rfl

end

/-- The public key file holds the key of the local signer. -/
theorem addFromFile_publicKey (hc : c.Lawful) (h : KeyFiles c seed dir) :
  addFromFile c dir.publicKey [] = some [ownKey c seed]
  := by
  have hspace : str " " = [32] := by decide
  have hfile : dir.publicKey = some (ownLine c seed ++ [10]) := by
    rw [h.publicKey, hspace, ownLine, List.append_assoc (keyIDFromPublicKey _ _)]
    rfl
  have hlength : (ownKey c seed).publicKey.length = 32 := length_ownKey hc h.length_seed
  have hid : (ownKey c seed).keyID ≠ [] := keyID_ne_nil hc _
  have hadd : addKey c [] (ownKey c seed) = [ownKey c seed] := by
    simp [addKey, hlength, hid]
  rw [hfile, addFromFile, parse_publicKeyFile hc h.length_seed, Option.map_some,
    List.foldl_cons, List.foldl_nil, hadd]

/-- Keys that are there stay first. -/
theorem prefix_foldl_addKey (keys parsed : List TrustedSigningKey) :
  keys <+: parsed.foldl (addKey c) keys
  := by
  induction parsed generalizing keys with
  | nil => exact List.prefix_refl keys
  | cons key parsed ih =>
      apply List.IsPrefix.trans _ (ih (addKey c keys key))
      rw [addKey]
      split_ifs
      · exact List.prefix_refl keys
      · exact List.prefix_refl keys
      all_goals exact List.prefix_append keys _

theorem prefix_addFromFile {file : Option Str}
    (h : ∀ raw ∈ file, (parseTrustedSigningKeysLines c raw).isSome)
    (keys : List TrustedSigningKey) :
  ∃ keys', addFromFile c file keys = some keys' ∧ keys <+: keys'
  := by
  cases file with
  | none => exact ⟨keys, rfl, List.prefix_refl keys⟩
  | some raw =>
      obtain ⟨parsed, hparsed⟩ := Option.isSome_iff_exists.mp (h raw rfl)
      use parsed.foldl (addKey c) keys
      constructor
      · rw [addFromFile, hparsed, Option.map_some]
      · apply prefix_foldl_addKey

/-- The trusted keys begin with that of the local signer. -/
theorem loadTrustedSigningKeys_of_keyFiles (hc : c.Lawful) (h : KeyFiles c seed dir)
    (hextra : ExtraKeysParse c dir) :
  ∃ keys, loadTrustedSigningKeys c dir = some (ownKey c seed :: keys)
  := by
  obtain ⟨keys₁, h₁, hpre₁⟩ := prefix_addFromFile hextra.keyring [ownKey c seed]
  obtain ⟨keys₂, h₂, hpre₂⟩ := prefix_addFromFile hextra.externalKeyring keys₁
  have hinline : ∃ parsed, (splitInlineTrustedKeys (trimSpace dir.inlineKeys)).mapM
      (parseInlineTrustedKey c) = some parsed := by
    have hall := hextra.inlineKeys
    generalize splitInlineTrustedKeys (trimSpace dir.inlineKeys) = raws at hall
    induction raws with
    | nil => exact ⟨[], rfl⟩
    | cons raw raws ih =>
        rw [List.forall_mem_cons] at hall
        obtain ⟨key, hkey⟩ := Option.isSome_iff_exists.mp hall.1
        obtain ⟨parsed, hparsed⟩ := ih hall.2
        use key :: parsed
        rw [List.mapM_cons, hkey, hparsed]
        rfl
  obtain ⟨parsed, hparsed⟩ := hinline
  have hall : ∃ keys₃, loadTrustedSigningKeys c dir = some keys₃ ∧ [ownKey c seed] <+: keys₃ := by
    rw [loadTrustedSigningKeys, addFromFile_publicKey hc h]
    simp only [Option.bind_eq_bind, Option.bind_some, h₁, h₂]
    split_ifs
    · exact ⟨keys₂, rfl, hpre₁.trans hpre₂⟩
    · refine ⟨parsed.foldl (addKey c) keys₂, ?_,
        (hpre₁.trans hpre₂).trans (prefix_foldl_addKey keys₂ parsed)⟩
      rw [hparsed]
      rfl
  obtain ⟨keys₃, hload, keys, rfl⟩ := hall
  exact ⟨keys, hload⟩

/-- A record that carries what a key made of a payload. -/
def SignedWith (c : Crypto) (key payload : Str) (r : ArtifactVersionRecord) : Prop :=
  let envelope := localSign c key payload
  r.signatureAlg = envelope.signatureAlg ∧ r.signatureKeyID = envelope.signatureKeyID ∧
    r.signaturePublicKey = envelope.signaturePublicKey ∧ r.signature = envelope.signature

/-- A record that carries what the local signer made of a payload. -/
def SignedBy (c : Crypto) (seed payload : Str) (r : ArtifactVersionRecord) : Prop :=
  let envelope := localSign c (c.newKeyFromSeed seed) payload
  r.signatureAlg = envelope.signatureAlg ∧ r.signatureKeyID = envelope.signatureKeyID ∧
    r.signaturePublicKey = envelope.signaturePublicKey ∧ r.signature = envelope.signature

/-- The public half of a key is among the trusted ones, under no name but its own. -/
def TrustsKey (c : Crypto) (key : Str) (dir : WorkDir) : Prop :=
  ∃ keys, loadTrustedSigningKeys c dir = some keys ∧ ∃ trusted ∈ keys,
    keyIDAgrees (keyIDFromPublicKey c (publicOf key)) trusted = true ∧
      trusted.publicKey = publicOf key

/-- The key of the local signer is among the trusted ones, under no name but its own. -/
def Trusts (c : Crypto) (seed : Str) (dir : WorkDir) : Prop :=
  ∃ keys, loadTrustedSigningKeys c dir = some keys ∧ ∃ key ∈ keys,
    keyIDAgrees (ownKey c seed).keyID key = true ∧ key.publicKey = (ownKey c seed).publicKey

/-- The public half of a key verifies what the key made of a payload. -/
def VerifiesOwn (c : Crypto) (key payload : Str) : Prop :=
  c.verify (publicOf key) payload (c.sign key payload) = true

theorem verifyRecordSignatureWithKey_signedWith {key payload : Str} (hkey : key.length = 64)
    {r : ArtifactVersionRecord} (hr : SignedWith c key payload r) :
  verifyRecordSignatureWithKey c r payload (publicOf key) = .ok () ↔ VerifiesOwn c key payload
  := by
  obtain ⟨-, hkeyID, -, hsig⟩ := hr
  have hkeyID' : trimSpace r.signatureKeyID = keyIDFromPublicKey c (publicOf key) := by
    rw [hkeyID]
    exact trimSpace_of_graphic (hexEncode_graphic _)
  have hsig' : trimSpace r.signature = base64Encode (c.sign key payload) := by
    rw [hsig]
    exact trimSpace_of_graphic (base64Encode_graphic _)
  have hlength : (publicOf key).length = 32 := by
    rw [publicOf, List.length_drop, hkey]
  rw [verifyRecordSignatureWithKey, hsig', base64Decode_base64Encode, VerifiesOwn]
  simp only [hlength, hkeyID']
  simp

/-- A signature verifies exactly where its key is trusted and verifies what it signed. -/
theorem verifyArtifactRecordSignature_signedWith_iff {key payload : Str} (hkey : key.length = 64)
    {r : ArtifactVersionRecord} (hr : SignedWith c key payload r) :
  verifyArtifactRecordSignature c dir r payload = .ok ()
    ↔ TrustsKey c key dir ∧ VerifiesOwn c key payload
  := by
  have hwith := verifyRecordSignatureWithKey_signedWith hkey hr
  obtain ⟨halg, hkeyID, hpub, -⟩ := hr
  have halg' : trimSpace r.signatureAlg = str "ed25519" := by
    have hgraphic : ∀ b ∈ str "ed25519", 32 < b ∧ b < 127 := by decide
    rw [halg]
    exact trimSpace_of_graphic hgraphic
  have hkeyID' : trimSpace r.signatureKeyID = keyIDFromPublicKey c (publicOf key) := by
    rw [hkeyID]
    exact trimSpace_of_graphic (hexEncode_graphic _)
  have hpub' : trimSpace r.signaturePublicKey = base64Encode (publicOf key) := by
    rw [hpub]
    exact trimSpace_of_graphic (base64Encode_graphic _)
  have hlength : (publicOf key).length = 32 := by
    rw [publicOf, List.length_drop, hkey]
  have hencoded : base64Encode (publicOf key) ≠ [] := by
    apply base64Encode_ne_nil
    intro hnil
    rw [hnil] at hlength
    cases hlength
  have hdecode : decodeEd25519PublicKey (base64Encode (publicOf key)) = some (publicOf key) := by
    rw [decodeEd25519PublicKey, trimSpace_of_graphic (base64Encode_graphic _),
      base64Decode_base64Encode]
    exact if_pos hlength
  have hne : str "ed25519" ≠ [] := by decide
  rw [verifyArtifactRecordSignature, TrustsKey]
  simp only [halg', hkeyID', hpub', hdecode, hne, hencoded, false_and, if_false, ne_eq,
    not_true_eq_false, not_false_eq_true, if_true]
  cases hkeys : loadTrustedSigningKeys c dir with
  | none => simp
  | some keys =>
      simp only [Option.some.injEq, exists_eq_left']
      cases hfind : keys.find? fun trusted =>
          keyIDAgrees (keyIDFromPublicKey c (publicOf key)) trusted
            && decide (trusted.publicKey = publicOf key) with
      | none =>
          rw [List.find?_eq_none] at hfind
          apply iff_of_false
          · split_ifs <;> nofun
          · rintro ⟨⟨trusted, htrusted, hagrees, hsame⟩, -⟩
            exact hfind trusted htrusted (by simp [hagrees, hsame])
      | some trusted =>
          have hmem := List.mem_of_find?_eq_some hfind
          have htrusted := List.find?_some hfind
          simp only [Bool.and_eq_true, decide_eq_true_eq] at htrusted
          rw [if_neg (List.ne_nil_of_mem hmem)]
          dsimp only
          rw [htrusted.2, hwith, and_iff_right]
          exact ⟨trusted, hmem, htrusted⟩

/-- A key that was made from a seed verifies what it signed. -/
theorem verifiesOwn_newKey (hc : c.Lawful) (hseed : seed.length = 32) (payload : Str) :
  VerifiesOwn c (c.newKeyFromSeed seed) payload
  := hc.verify_sign seed payload hseed

/-- The signature of the local signer verifies exactly where its key is trusted. -/
theorem verifyArtifactRecordSignature_signed_iff (hc : c.Lawful) (hseed : seed.length = 32)
    {r : ArtifactVersionRecord} {payload : Str} (hr : SignedBy c seed payload r) :
  verifyArtifactRecordSignature c dir r payload = .ok () ↔ Trusts c seed dir
  := by
  have hsigned : SignedWith c (c.newKeyFromSeed seed) payload r := hr
  rw [verifyArtifactRecordSignature_signedWith_iff (hc.length_newKeyFromSeed seed hseed) hsigned,
    and_iff_left (verifiesOwn_newKey hc hseed payload)]
  rfl

theorem KeyFiles.trusts (hc : c.Lawful) (h : KeyFiles c seed dir) (hextra : ExtraKeysParse c dir) :
  Trusts c seed dir
  := by
  obtain ⟨keys, hkeys⟩ := loadTrustedSigningKeys_of_keyFiles hc h hextra
  refine ⟨_, hkeys, ownKey c seed, List.mem_cons_self, ?_, rfl⟩
  simp [keyIDAgrees]

end

end Registry
