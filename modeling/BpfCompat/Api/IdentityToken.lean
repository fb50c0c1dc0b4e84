import BpfCompat.Go.Glob
import BpfCompat.Go.Json.Syntax
import BpfCompat.CloudRegistry.Evidence

/-!
# Identity tokens

A caller of the server may say who it is by a token: three segments of base64, the last of which
signs the first two.  `parseWriteIdentityJWTContext` reads one.  It checks the signature, with a
secret the server shares with the issuer or with a key from one of the issuer's key sets, and then
the claims of the token; what it returns is the identity they describe.

`ValidToken` says what a token establishes, and `validToken_of_parse` that nothing else is
accepted.
-/

namespace Api

open Go Go.Json
open CloudRegistry (collectMultiValues)

/-- Who a request comes from. -/
structure WriteAuthIdentity where
  subject : Str := []
  authType : Str := []
  tenant : Str := []
  projects : List Str := []
  scopes : List Str := []
  roles : List Str := []
deriving DecidableEq

/-- A key of a key set. -/
structure WriteJWK where
  kty : Str
  kid : Str
  use : Str
  alg : Str
  n : Str
  e : Str

/-- Where a key set is read from. -/
structure WriteJWKSSource where
  kind : Str
  value : Str

/-- A grant of the identity map: which certificates it is for, and the identity it gives them. -/
structure MTLSIdentityGrant where
  certificateSubject : Str := []
  commonName : Str := []
  serialHex : Str := []
  organization : List Str := []
  subject : Str := []
  tenant : Str := []
  projects : List Str := []
  scopes : List Str := []
  roles : List Str := []

/-- What a request finds outside of the server: the environment and the hour, the key sets its
sources hold at the moment (from the cache, or read anew) and whether they may be read anew, what
reading and decoding the identity map gives, and the functions of the standard library that are
not written out here, among them the texts of its errors.  A number of a document is decoded as
floating point; `float64` is that number cut to an integer, where it is in range. -/
structure Host where
  getenv : Str → Str
  now : Int
  keySet : WriteJWKSSource → Bool → Except Str (List WriteJWK)
  forceRefreshAllowed : WriteJWKSSource → Bool
  identityMap : Str → Except Str (List MTLSIdentityGrant)
  hmacSHA256 : Str → Str → Str
  sha256 : Str → Str
  verifyPKCS1v15 : Nat → Nat → Str → Str → Bool
  float64 : Str → Option Int
  base64Error : Str → Str
  jsonError : Str → Str

/-! ### The source -/

/-- The bytes of a text in the alphabet for addresses, without padding. -/
def rawURLDecode (s : Str) : Option Str :=
  let kept := s.filter fun b => b ≠ 10 ∧ b ≠ 13
  if kept.any fun b => b = '+'.toUInt8 ∨ b = '/'.toUInt8 ∨ b = '='.toUInt8 then none
  else
    let standard := kept.map fun b =>
      if b = '-'.toUInt8 then '+'.toUInt8 else if b = '_'.toUInt8 then '/'.toUInt8 else b
    base64Groups (standard ++ List.replicate ((4 - standard.length % 4) % 4) '='.toUInt8)

def decodeSegment (host : Host) (what s : Str) : Except Str Str :=
  match rawURLDecode s with
  | some raw => .ok raw
  | none => .error (what ++ host.base64Error s)

mutual

/-- The numbers of a value. -/
def Value.numbers : Value → List Str
  | .number text => [text]
  | .array vs => elementNumbers vs
  | .object ms => memberNumbers ms
  | _ => []

def elementNumbers : List Value → List Str
  | [] => []
  | v :: vs => Value.numbers v ++ elementNumbers vs

def memberNumbers : List (Str × Value) → List Str
  | [] => []
  | (_, v) :: ms => Value.numbers v ++ memberNumbers ms

end

/-- The members of a document decoded into a map of any values. -/
def decodeMembers (host : Host) (what raw : Str) : Except Str (List (Str × Value)) :=
  match parseDocument (lexemes raw) with
  | some (.object ms) =>
    if (memberNumbers ms).all fun text => (host.float64 text).isSome then .ok ms
    else .error (what ++ host.jsonError raw)
  | some .null => .ok []
  | _ => .error (what ++ host.jsonError raw)

/-- The value of a key: of several, the last. -/
def member (ms : List (Str × Value)) (key : String) : Option Value := ms.reverse.lookup (str key)

def anyToString : Option Value → Str
  | some (.string s) => s
  | _ => []

def dedupeSortedStrings (values : List Str) : List Str :=
  if values.length = 0 then [] else collectMultiValues values

def splitScopeValues (raw : Str) : List Str :=
  dedupeSortedStrings (((fields (trimSpace raw)).map trimSpace).filter (· ≠ []))

def claimValueStrings (raw : Option Value) (splitSpaces : Bool) : List Str :=
  match raw with
  | some (.string value) =>
    if splitSpaces then splitScopeValues value else collectMultiValues [value]
  | some (.array entries) =>
    let texts := (entries.map fun entry => trimSpace (anyToString (some entry))).filter (· ≠ [])
    dedupeSortedStrings (if splitSpaces then texts.flatMap splitScopeValues else texts)
  | _ => []

def normalizeJWTProjectsClaim (raw : Option Value) : List Str :=
  match raw with
  | some (.string value) => if trimSpace value = [] then [] else collectMultiValues [value]
  | some (.array entries) =>
    collectMultiValues
      ((entries.map fun entry => trimSpace (anyToString (some entry))).filter (· ≠ []))
  | _ => []

def normalizeJWTScopesClaim (claims : List (Str × Value)) : List Str :=
  dedupeSortedStrings
    (claimValueStrings (member claims "scope") true ++ claimValueStrings (member claims "scp") true)

def normalizeJWTRolesClaim (claims : List (Str × Value)) : List Str :=
  dedupeSortedStrings
    (claimValueStrings (member claims "roles") false ++ claimValueStrings (member claims "role") false)

def jwtAudienceMatches (raw : Option Value) (expected : Str) : Bool :=
  let expected := trimSpace expected
  if expected = [] then true
  else
    match raw with
    | some (.string value) => trimSpace value = expected
    | some (.array entries) =>
      entries.any fun entry => trimSpace (anyToString (some entry)) = expected
    | _ => false

def normalizeIssuerURL (rawIssuer : Str) : Str :=
  let issuer := trimSpace rawIssuer
  if issuer.getLast? = some '/'.toUInt8 then issuer.dropLast else issuer

/-- How tokens are verified. -/
structure WriteJWTVerificationConfig where
  hs256Secret : Str := []
  jwksPath : Str := []
  jwksURL : Str := []
  oidcIssuerURL : Str := []

def writeIdentityVerifierConfigured (cfg : WriteJWTVerificationConfig) : Bool :=
  trimSpace cfg.hs256Secret ≠ [] || trimSpace cfg.jwksPath ≠ [] || trimSpace cfg.jwksURL ≠ [] ||
    trimSpace cfg.oidcIssuerURL ≠ []

def jwksSourcesFromConfig (cfg : WriteJWTVerificationConfig) : List WriteJWKSSource :=
  (if trimSpace cfg.jwksURL ≠ [] then [⟨str "url", trimSpace cfg.jwksURL⟩] else []) ++
    (if trimSpace cfg.jwksPath ≠ [] then [⟨str "path", trimSpace cfg.jwksPath⟩] else []) ++
      (if trimSpace cfg.oidcIssuerURL ≠ [] then [⟨str "oidc", trimSpace cfg.oidcIssuerURL⟩] else [])

def verifyJWTSignatureHS256 (host : Host) (head body signature secret : Str) : Except Str Unit := do
  let sigRaw ← decodeSegment host (str "decode signature: ") signature
  if sigRaw = host.hmacSHA256 secret (head ++ str "." ++ body) then return ()
  else throw (str "signature mismatch")

/-- The number whose digits to the base 256 are the bytes. -/
def bigEndian (bytes : Str) : Nat := bytes.foldl (fun n b => 256 * n + b.toNat) 0

def rsaPublicKeyFromJWK (host : Host) (key : WriteJWK) : Except Str (Nat × Nat) := do
  let nRaw ← decodeSegment host (str "decode RSA modulus: ") (trimSpace key.n)
  let eRaw ← decodeSegment host (str "decode RSA exponent: ") (trimSpace key.e)
  if nRaw.length = 0 ∨ eRaw.length = 0 then throw (str "RSA key material is incomplete")
  let e := bigEndian eRaw
  if 2 ^ 63 ≤ e then throw (str "RSA exponent is too large")
  if e < 2 then throw (str "RSA exponent is invalid")
  let n := bigEndian nRaw
  if n = 0 then throw (str "RSA modulus is invalid")
  if n.size < 2048 then
    throw (str "RSA modulus is too small (" ++ decimal n.size ++ str " bits, minimum 2048)")
  return (n, e)

section

variable [CaseTables]

def isHTTPURL (raw : Str) : Bool :=
  let value := toLower (trimSpace raw)
  (str "https://").isPrefixOf value || (str "http://").isPrefixOf value

def WriteJWKSSource.label (s : WriteJWKSSource) : Str :=
  let kind := toLower (trimSpace s.kind)
  (if kind = str "url" then str "JWKS URL "
    else if kind = str "path" then str "JWKS path "
    else if kind = str "oidc" then str "OIDC issuer "
    else str "JWKS source ") ++ quote (trimSpace s.value)

def writeJWTVerificationConfigFromEnv (host : Host) : WriteJWTVerificationConfig where
  hs256Secret := trimSpace (host.getenv (str "BPFCOMPAT_API_WRITE_JWT_HS256_SECRET"))
  jwksPath := trimSpace (host.getenv (str "BPFCOMPAT_API_WRITE_JWT_JWKS_PATH"))
  jwksURL := trimSpace (host.getenv (str "BPFCOMPAT_API_WRITE_JWT_JWKS_URL"))
  oidcIssuerURL :=
    let oidcIssuerURL := trimSpace (host.getenv (str "BPFCOMPAT_API_WRITE_JWT_OIDC_ISSUER_URL"))
    let issuer := trimSpace (host.getenv (str "BPFCOMPAT_API_WRITE_JWT_ISSUER"))
    if oidcIssuerURL = [] ∧ isHTTPURL issuer then issuer else oidcIssuerURL

def selectWriteJWKRS256 (keys : List WriteJWK) (kid : Str) : Except Str WriteJWK :=
  let found := keys.filter fun key =>
    let alg := trimSpace (toUpper key.alg)
    let use := trimSpace (toLower key.use)
    trimSpace (toUpper key.kty) = str "RSA" ∧ (alg = [] ∨ alg = str "RS256") ∧
      (use = [] ∨ use = str "sig") ∧ (trimSpace kid = [] ∨ trimSpace key.kid = kid)
  match found with
  | [] =>
    if trimSpace kid ≠ [] then .error (str "no RSA signing key matched kid " ++ quote kid)
    else .error (str "no RSA signing key matched")
  | key :: others =>
    if trimSpace kid = [] ∧ others ≠ [] then
      .error (str "multiple RSA signing keys found; token kid is required")
    else .ok key

def verifyJWTSignatureRS256WithJWKS (host : Host) (head body signature kid : Str)
    (keys : List WriteJWK) : Except Str Unit := do
  let key ← selectWriteJWKRS256 keys kid
  let (n, e) ← rsaPublicKeyFromJWK host key
  let sigRaw ← decodeSegment host (str "decode signature: ") signature
  if host.verifyPKCS1v15 n e (host.sha256 (head ++ str "." ++ body)) sigRaw then return ()
  else throw (str "signature mismatch")

/-- What one source of keys says of a signature.  A signature that fails is tried once more with
the keys read anew, where that is allowed. -/
def verifyWithSource (host : Host) (head body signature kid : Str) (source : WriteJWKSSource) :
    Except Str Unit := do
  let keys ← host.keySet source false
  match verifyJWTSignatureRS256WithJWKS host head body signature kid keys with
  | .ok _ => return ()
  | .error verifyErr =>
    if host.forceRefreshAllowed source then
      match host.keySet source true with
      | .ok refreshed => verifyJWTSignatureRS256WithJWKS host head body signature kid refreshed
      | .error _ => throw verifyErr
    else throw verifyErr

/-- The sources are asked in turn, until one accepts. -/
def verifyWithSources (host : Host) (head body signature kid : Str) :
    List WriteJWKSSource → List Str → Except Str Unit
  | [], errorsBySource => .error (str "RS256 verification failed: " ++ join (str "; ") errorsBySource)
  | source :: sources, errorsBySource =>
    match verifyWithSource host head body signature kid source with
    | .ok _ => .ok ()
    | .error err =>
      verifyWithSources host head body signature kid sources
        (errorsBySource ++ [source.label ++ str ": " ++ err])

def verifyJWTSignatureRS256 (host : Host) (head body signature : Str) (header : List (Str × Value))
    (cfg : WriteJWTVerificationConfig) : Except Str Unit :=
  let sources := jwksSourcesFromConfig cfg
  if sources.length = 0 then .error (str "RS256 verification key set is not configured")
  else
    verifyWithSources host head body signature (trimSpace (anyToString (member header "kid"))) sources []

/-- The signature of a token, by the algorithm its header names. -/
def verifyJWTSignature (host : Host) (cfg : WriteJWTVerificationConfig)
    (head body signature : Str) (header : List (Str × Value)) : Except Str Unit :=
  let alg := trimSpace (toUpper (anyToString (member header "alg")))
  if alg = str "HS256" then
    if cfg.hs256Secret = [] then .error (str "HS256 secret is not configured")
    else verifyJWTSignatureHS256 host head body signature cfg.hs256Secret
  else if alg = str "RS256" then
    if cfg.jwksPath = [] ∧ cfg.jwksURL = [] ∧ cfg.oidcIssuerURL = [] then
      .error (str "RS256 verification key set is not configured")
    else verifyJWTSignatureRS256 host head body signature header cfg
  else .error (str "unsupported alg " ++ quote (anyToString (member header "alg")))

def parseIntError (s : Str) : Str :=
  str "strconv.ParseInt: parsing " ++ quote s ++
    (if (splitSign s).2.isEmpty || !(splitSign s).2.all isDecimal then str ": invalid syntax"
      else str ": value out of range")

def readNumericClaim (host : Host) (claims : List (Str × Value)) (key : String) :
    Except Str (Option Int) :=
  match member claims key with
  | none => .ok none
  | some (.number text) => .ok (host.float64 text)
  | some (.string value) =>
    match atoi (trimSpace value) with
    | some n => .ok (some n)
    | none => .error (str key ++ str " claim must be numeric: " ++ parseIntError (trimSpace value))
  | some _ => .error (str key ++ str " claim must be numeric")

/-- The issuer tokens have to come from, where there is one. -/
def requiredIssuer (host : Host) (cfg : WriteJWTVerificationConfig) : Str :=
  let issuer := normalizeIssuerURL (host.getenv (str "BPFCOMPAT_API_WRITE_JWT_ISSUER"))
  if issuer = [] ∧ trimSpace cfg.oidcIssuerURL ≠ [] then normalizeIssuerURL cfg.oidcIssuerURL
  else issuer

/-- The identity the claims of a token describe. -/
def identityOfClaims (claims : List (Str × Value)) : WriteAuthIdentity where
  subject := trimSpace (anyToString (member claims "sub"))
  authType := str "jwt"
  tenant := trimSpace (anyToString (member claims "tenant"))
  projects := normalizeJWTProjectsClaim (member claims "projects")
  scopes := normalizeJWTScopesClaim claims
  roles := normalizeJWTRolesClaim claims

/-- What `can_write` says of the identity of the claims. -/
def checkCanWrite (claims : List (Str × Value)) : Except Str WriteAuthIdentity :=
  match member claims "can_write" with
  | none => .ok (identityOfClaims claims)
  | some (.bool true) => .ok (identityOfClaims claims)
  | some (.bool false) => .error (str "token is not authorized for write actions")
  | some _ => .error (str "can_write claim must be boolean")

/-- The checks of the claims of a token. -/
def checkClaims (host : Host) (cfg : WriteJWTVerificationConfig) (claims : List (Str × Value)) :
    Except Str WriteAuthIdentity :=
  if trimSpace (anyToString (member claims "sub")) = [] then .error (str "sub claim is required")
  else do
    match ← readNumericClaim host claims "exp" with
    | none => .error (str "exp claim is required")
    | some expUnix =>
      if expUnix ≤ host.now then .error (str "token expired")
      else do
        let nbfUnix ← readNumericClaim host claims "nbf"
        let issuer := requiredIssuer host cfg
        let audience := trimSpace (host.getenv (str "BPFCOMPAT_API_WRITE_JWT_AUDIENCE"))
        if ∃ n ∈ nbfUnix, host.now < n then .error (str "token not active yet")
        else if issuer ≠ [] ∧ normalizeIssuerURL (anyToString (member claims "iss")) ≠ issuer then
          .error (str "issuer mismatch")
        else if audience ≠ [] ∧ ¬ jwtAudienceMatches (member claims "aud") audience then
          .error (str "audience mismatch")
        else checkCanWrite claims

def parseWriteIdentityJWTContext (host : Host) (rawToken : Str) (cfg : WriteJWTVerificationConfig) :
    Except Str WriteAuthIdentity :=
  match (trimSpace rawToken).splitOn '.'.toUInt8 with
  | [head, body, signature] => do
    let headerRaw ← decodeSegment host (str "decode header: ") head
    let header ← decodeMembers host (str "parse header JSON: ") headerRaw
    verifyJWTSignature host cfg head body signature header
    let claimsRaw ← decodeSegment host (str "decode claims: ") body
    let claims ← decodeMembers host (str "parse claims JSON: ") claimsRaw
    checkClaims host cfg claims
  | _ => .error (str "token must have 3 segments")

/-! ### What a token establishes -/

/-- A signature is the code of the two segments under the shared secret, or a signature of their
digest by a key of the configured sets, as the set was in the cache or as it was read anew. -/
inductive Signed (host : Host) (cfg : WriteJWTVerificationConfig) (head body : Str) (sigRaw : Str) :
    Prop where
  | hs256 (hsecret : cfg.hs256Secret ≠ [])
      (hmac : sigRaw = host.hmacSHA256 cfg.hs256Secret (head ++ str "." ++ body))
  | rs256 {source : WriteJWKSSource} {force : Bool} {keys : List WriteJWK} {key : WriteJWK}
      {n e : Nat} (hsource : source ∈ jwksSourcesFromConfig cfg)
      (hkeys : host.keySet source force = .ok keys) (hkey : key ∈ keys)
      (hpublic : rsaPublicKeyFromJWK host key = .ok (n, e))
      (hverify : host.verifyPKCS1v15 n e (host.sha256 (head ++ str "." ++ body)) sigRaw)

/-- Claims that hold now and that the server asks for: they name a subject, are in force, come
from the issuer and are for the audience that the server requires, and do not refuse writing. -/
structure ClaimsHold (host : Host) (cfg : WriteJWTVerificationConfig) (claims : List (Str × Value)) :
    Prop where
  subject : trimSpace (anyToString (member claims "sub")) ≠ []
  expires : ∃ exp, readNumericClaim host claims "exp" = .ok (some exp) ∧ host.now < exp
  active : ∃ nbf, readNumericClaim host claims "nbf" = .ok nbf ∧ ∀ n ∈ nbf, n ≤ host.now
  issuer : requiredIssuer host cfg ≠ [] →
    normalizeIssuerURL (anyToString (member claims "iss")) = requiredIssuer host cfg
  audience : trimSpace (host.getenv (str "BPFCOMPAT_API_WRITE_JWT_AUDIENCE")) ≠ [] →
    jwtAudienceMatches (member claims "aud")
      (trimSpace (host.getenv (str "BPFCOMPAT_API_WRITE_JWT_AUDIENCE")))
  canWrite : ∀ v ∈ member claims "can_write", v = .bool true

/-- A token that is signed, and whose claims hold and describe the identity. -/
def ValidToken (host : Host) (cfg : WriteJWTVerificationConfig) (token : Str)
    (identity : WriteAuthIdentity) : Prop :=
  ∃ head body signature sigRaw claimsRaw claims,
    (trimSpace token).splitOn '.'.toUInt8 = [head, body, signature] ∧
      rawURLDecode signature = some sigRaw ∧ Signed host cfg head body sigRaw ∧
      rawURLDecode body = some claimsRaw ∧
      decodeMembers host (str "parse claims JSON: ") claimsRaw = .ok claims ∧
      ClaimsHold host cfg claims ∧ identity = identityOfClaims claims

variable {host : Host} {cfg : WriteJWTVerificationConfig} {head body signature : Str}

omit [CaseTables] in
theorem rawURLDecode_of_ok {what s raw : Str} (h : decodeSegment host what s = .ok raw) :
  rawURLDecode s = some raw
  := by
  rw [decodeSegment] at h
  cases hs : rawURLDecode s with
  | none => simp [hs] at h
  | some raw' => simpa [hs] using h

theorem mem_of_select {keys : List WriteJWK} {kid : Str} {key : WriteJWK}
    (h : selectWriteJWKRS256 keys kid = .ok key) :
  key ∈ keys
  := by
  rw [selectWriteJWKRS256] at h
  dsimp only at h
  split at h
  · split_ifs at h
  · next key' others hfound =>
      split_ifs at h
      cases h
      apply List.mem_of_mem_filter (hfound ▸ List.mem_cons_self)

/-- What a signature that a key set verifies is. -/
structure VerifiedBy (host : Host) (head body : Str) (keys : List WriteJWK) (sigRaw : Str) :
    Prop where
  key : ∃ key ∈ keys, ∃ n e, rsaPublicKeyFromJWK host key = .ok (n, e) ∧
    host.verifyPKCS1v15 n e (host.sha256 (head ++ str "." ++ body)) sigRaw

theorem verifiedBy_of_ok {kid : Str} {keys : List WriteJWK}
    (h : verifyJWTSignatureRS256WithJWKS host head body signature kid keys = .ok ()) :
  ∃ sigRaw, rawURLDecode signature = some sigRaw ∧ VerifiedBy host head body keys sigRaw
  := by
  obtain ⟨key, hkey, h⟩ := bind_eq_ok_iff.mp h
  obtain ⟨⟨n, e⟩, hpublic, h⟩ := bind_eq_ok_iff.mp h
  obtain ⟨sigRaw, hsig, h⟩ := bind_eq_ok_iff.mp h
  use sigRaw, rawURLDecode_of_ok hsig
  split_ifs at h with hverify
  exact ⟨key, mem_of_select hkey, n, e, hpublic, hverify⟩

/-- A source that accepts a signature verified it, with the keys it had or with new ones. -/
theorem verifyWithSource_ok {kid : Str} {source : WriteJWKSSource}
    (h : verifyWithSource host head body signature kid source = .ok ()) :
  ∃ sigRaw force keys, rawURLDecode signature = some sigRaw ∧
    host.keySet source force = .ok keys ∧ VerifiedBy host head body keys sigRaw
  := by
  obtain ⟨keys, hkeys, h⟩ := bind_eq_ok_iff.mp h
  split at h
  · next hok =>
      obtain ⟨sigRaw, hsig, hby⟩ := verifiedBy_of_ok hok
      exact ⟨sigRaw, false, keys, hsig, hkeys, hby⟩
  · split_ifs at h
    split at h
    · next refreshed hrefreshed =>
        obtain ⟨sigRaw, hsig, hby⟩ := verifiedBy_of_ok h
        exact ⟨sigRaw, true, refreshed, hsig, hrefreshed, hby⟩
    · cases h

theorem verifyWithSources_ok {kid : Str} {sources : List WriteJWKSSource} {errors : List Str}
    (h : verifyWithSources host head body signature kid sources errors = .ok ()) :
  ∃ source ∈ sources, verifyWithSource host head body signature kid source = .ok ()
  := by
  induction sources generalizing errors with
  | nil => cases h
  | cons source sources ih =>
      rw [verifyWithSources] at h
      split at h
      · next hok => exact ⟨source, List.mem_cons_self, hok⟩
      · obtain ⟨source', hmem, hok⟩ := ih h
        exact ⟨source', List.mem_cons_of_mem source hmem, hok⟩

/-- An accepted signature is one that a configured key made. -/
theorem signed_of_ok {header : List (Str × Value)}
    (h : verifyJWTSignature host cfg head body signature header = .ok ()) :
  ∃ sigRaw, rawURLDecode signature = some sigRaw ∧ Signed host cfg head body sigRaw
  := by
  rw [verifyJWTSignature] at h
  split_ifs at h with halg hsecret halg' hset
  · obtain ⟨sigRaw, hsig, h⟩ := bind_eq_ok_iff.mp h
    split_ifs at h with hmac
    exact ⟨sigRaw, rawURLDecode_of_ok hsig, .hs256 hsecret hmac⟩
  · rw [verifyJWTSignatureRS256] at h
    split_ifs at h
    obtain ⟨source, hsource, hok⟩ := verifyWithSources_ok h
    obtain ⟨sigRaw, force, keys, hsig, hkeys, key, hkey, n, e, hpublic, hverify⟩ :=
      verifyWithSource_ok hok
    exact ⟨sigRaw, hsig, .rs256 hsource hkeys hkey hpublic hverify⟩

omit [CaseTables] in
theorem canWrite_of_ok {claims : List (Str × Value)} {identity : WriteAuthIdentity}
    (h : checkCanWrite claims = .ok identity) :
  (∀ v ∈ member claims "can_write", v = .bool true) ∧ identity = identityOfClaims claims
  := by
  rw [checkCanWrite] at h
  split at h
  · next hnone =>
      cases h
      simp [hnone]
  · next htrue =>
      cases h
      simp [htrue]
  · cases h
  · cases h

theorem claimsHold_of_ok {claims : List (Str × Value)} {identity : WriteAuthIdentity}
    (h : checkClaims host cfg claims = .ok identity) :
  ClaimsHold host cfg claims ∧ identity = identityOfClaims claims
  := by
  rw [checkClaims, refuse_if_eq_ok_iff] at h
  obtain ⟨hsubject, h⟩ := h
  obtain ⟨exp, hexp, h⟩ := bind_eq_ok_iff.mp h
  cases exp with
  | none => cases h
  | some exp =>
      dsimp only at h
      rw [refuse_if_eq_ok_iff] at h
      obtain ⟨hnow, h⟩ := h
      obtain ⟨nbf, hnbf, h⟩ := bind_eq_ok_iff.mp h
      rw [refuse_if_eq_ok_iff, refuse_if_eq_ok_iff, refuse_if_eq_ok_iff] at h
      obtain ⟨hactive, hissuer, haudience, h⟩ := h
      obtain ⟨hcan, hidentity⟩ := canWrite_of_ok h
      push Not at hactive
      refine ⟨⟨hsubject, ⟨exp, hexp, not_le.mp hnow⟩, ⟨nbf, hnbf, hactive⟩, ?_, ?_, hcan⟩, hidentity⟩
      · intro hne
        by_contra hmismatch
        exact hissuer ⟨hne, hmismatch⟩
      · intro hne
        by_contra hmismatch
        exact haudience ⟨hne, hmismatch⟩

/-- What the parser accepts is a valid token. -/
theorem validToken_of_parse {token : Str} {identity : WriteAuthIdentity}
    (h : parseWriteIdentityJWTContext host token cfg = .ok identity) :
  ValidToken host cfg token identity
  := by
  rw [parseWriteIdentityJWTContext] at h
  split at h
  · next head body signature hparts =>
      obtain ⟨headerRaw, -, h⟩ := bind_eq_ok_iff.mp h
      obtain ⟨header, -, h⟩ := bind_eq_ok_iff.mp h
      obtain ⟨_, hsigned, h⟩ := bind_eq_ok_iff.mp h
      obtain ⟨claimsRaw, hclaimsRaw, h⟩ := bind_eq_ok_iff.mp h
      obtain ⟨claims, hclaims, h⟩ := bind_eq_ok_iff.mp h
      obtain ⟨sigRaw, hsig, hsigned⟩ := signed_of_ok hsigned
      obtain ⟨hhold, hidentity⟩ := claimsHold_of_ok h
      exact ⟨head, body, signature, sigRaw, claimsRaw, claims, hparts, hsig, hsigned,
        rawURLDecode_of_ok hclaimsRaw, hclaims, hhold, hidentity⟩
  · cases h

end

end Api
