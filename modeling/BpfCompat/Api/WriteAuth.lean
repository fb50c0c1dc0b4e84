import BpfCompat.Api.IdentityToken

/-!
# Who may write

A request that changes something carries a credential: an identity token, an API key, or the
certificate of the connection it came over, which the server turns into an identity by a map of
its own.  `requireWriteAuthorization` looks for them in this order and takes the first one it
finds.

An operator may require an identity, so that an API key alone is not enough.  The server then asks
that the request carry a token, or that it came over a connection with a verified certificate and
there is a map.  It does not ask that the map know the certificate, and an API key is looked at
before the map is.  A certificate that is not in the map therefore opens the way to a bare API key.
With an identity required, authorization succeeds only with an established identity exactly when
the request does not come in that way (`identity_required_iff`).
-/

namespace Api

open Go Go.Json
open CloudRegistry (collectMultiValues)

/-! ### The source -/

/-- A certificate: its subject, the common name and the organisations in it, and its serial number
to the base 16. -/
structure Certificate where
  subject : Str := []
  commonName : Str := []
  organization : List Str := []
  serialHex : Str := []

/-- What the handshake of a connection left. -/
structure ConnectionState where
  peerCertificates : List Certificate := []
  verifiedChains : List (List Certificate) := []

/-- A request: its headers by their canonical names, and its connection where that is encrypted. -/
structure Request where
  header : Str → Str := fun _ => []
  tls : Option ConnectionState := none

/-- A refused request: the status and the text of the answer. -/
structure Refusal where
  status : Nat
  message : Str
deriving DecidableEq

def parseBool (s : Str) : Option Bool :=
  if s ∈ [str "1", str "t", str "T", str "TRUE", str "true", str "True"] then some true
  else if s ∈ [str "0", str "f", str "F", str "FALSE", str "false", str "False"] then some false
  else none

def parseBoolEnv (host : Host) (key : String) (fallback : Bool) : Bool :=
  let raw := trimSpace (host.getenv (str key))
  if raw = [] then fallback else (parseBool raw).getD fallback

def bearerToken (r : Request) : Str :=
  let authHeader := trimSpace (r.header (str "Authorization"))
  if authHeader = [] then trimSpace (r.header (str "X-API-Token"))
  else if (str "Bearer ").isPrefixOf authHeader then trimSpace (authHeader.drop 7)
  else trimSpace authHeader

def writeCredentialFromRequest (r : Request) : Str :=
  let provided := trimSpace (r.header (str "X-API-Key"))
  if provided = [] then bearerToken r else provided

def tokenSubject (host : Host) (token : Str) : Str :=
  let token := trimSpace token
  if token = [] then str "anonymous" else str "token:" ++ hexEncode ((host.sha256 token).take 6)

/-- The certificate of a connection whose chain was verified. -/
def mtlsIdentityFromRequest (r : Request) : Option Certificate :=
  match r.tls with
  | none => none
  | some state => if state.verifiedChains.length = 0 then none else state.peerCertificates.head?

def identityMapPath (host : Host) : Str :=
  trimSpace (host.getenv (str "BPFCOMPAT_API_MTLS_IDENTITY_MAP_PATH"))

def mtlsIdentityMapConfigured (host : Host) : Bool := identityMapPath host ≠ []

def cleanStringList (values : List Str) : List Str :=
  dedupeSortedStrings ((values.map trimSpace).filter (· ≠ []))

def validateMTLSIdentityGrant (grant : MTLSIdentityGrant) : Except Str Unit :=
  if trimSpace grant.certificateSubject = [] ∧ trimSpace grant.commonName = [] ∧
      trimSpace grant.serialHex = [] ∧ (cleanStringList grant.organization).length = 0 then
    .error (str "at least one certificate selector is required")
  else if trimSpace grant.subject = [] then .error (str "subject is required")
  else if trimSpace grant.tenant = [] then .error (str "tenant is required")
  else if (cleanStringList grant.projects).length = 0 then .error (str "projects is required")
  else .ok ()

/-- The first grant that is not valid, with its place. -/
def firstInvalidGrant : List MTLSIdentityGrant → Nat → Except Str Unit
  | [], _ => .ok ()
  | grant :: grants, i =>
    match validateMTLSIdentityGrant grant with
    | .error err => .error (str "invalid mTLS identity grant " ++ decimal i ++ str ": " ++ err)
    | .ok _ => firstInvalidGrant grants (i + 1)

def loadMTLSIdentityMap (host : Host) (path : Str) : Except Str (List MTLSIdentityGrant) :=
  let path := trimSpace path
  if path = [] then .error (str "BPFCOMPAT_API_MTLS_IDENTITY_MAP_PATH is not set")
  else do
    let identities ← host.identityMap path
    if identities.length = 0 then .error (str "mTLS identity map has no identities")
    else do
      firstInvalidGrant identities 0
      return identities

/-- The identity a grant gives. -/
def identityOfGrant (grant : MTLSIdentityGrant) : WriteAuthIdentity where
  subject := trimSpace grant.subject
  authType := str "mtls"
  tenant := trimSpace grant.tenant
  projects := cleanStringList grant.projects
  scopes := cleanStringList grant.scopes
  roles := cleanStringList grant.roles

def requiredClaimListFromEnv (host : Host) (key : String) : List Str :=
  let raw := trimSpace (host.getenv (str key))
  if raw = [] then []
  else
    let parts := fieldsFunc (fun c => c = ',' || c = ';' || c = '\t' || c = '\n' || c = ' ') raw
    dedupeSortedStrings ((parts.map trimSpace).filter (· ≠ []))

/-- The required claims that are missing. -/
def containsAllClaims (have' want : List Str) : List Str :=
  dedupeSortedStrings
    ((want.map trimSpace).filter fun required => required ≠ [] ∧ required ∉ have'.map trimSpace)

def identityCarriesClaims (identity : WriteAuthIdentity) : Bool :=
  trimSpace identity.authType ∈ [str "jwt", str "mtls"]

def enforceWriteIdentityRequiredClaims (host : Host) (identity : WriteAuthIdentity) :
    Except Str Unit :=
  if ¬ identityCarriesClaims identity then .ok ()
  else
    let missingScopes := containsAllClaims identity.scopes
      (requiredClaimListFromEnv host "BPFCOMPAT_API_WRITE_JWT_REQUIRED_SCOPES")
    let missingRoles := containsAllClaims identity.roles
      (requiredClaimListFromEnv host "BPFCOMPAT_API_WRITE_JWT_REQUIRED_ROLES")
    if 0 < missingScopes.length then
      .error (str "identity token is missing required scopes: " ++ join (str ",") missingScopes)
    else if 0 < missingRoles.length then
      .error (str "identity token is missing required roles: " ++ join (str ",") missingRoles)
    else .ok ()

/-- An identity that meets the claims every write requires. -/
def checked (host : Host) (identity : WriteAuthIdentity) : Except Refusal WriteAuthIdentity :=
  match enforceWriteIdentityRequiredClaims host identity with
  | .error err => .error ⟨403, err⟩
  | .ok _ => .ok identity

section

variable [CaseTables]

def mtlsGrantMatches (peer : Certificate) (grant : MTLSIdentityGrant) : Bool :=
  let subject := trimSpace grant.certificateSubject
  let commonName := trimSpace grant.commonName
  let serialHex := trimSpace grant.serialHex
  (subject = [] || peer.subject = subject) && (commonName = [] || peer.commonName = commonName) &&
    (serialHex = [] || equalFold peer.serialHex serialHex) &&
    (cleanStringList grant.organization).all fun expectedOrg => expectedOrg ∈ peer.organization

/-- The identity of the certificate of a request, where the request has one and there is a map.
What is not in the map is refused. -/
def mtlsWriteIdentityFromRequest (host : Host) (r : Request) :
    Option (Except Refusal WriteAuthIdentity) :=
  match mtlsIdentityFromRequest r with
  | none => none
  | some peer =>
    if identityMapPath host = [] then none
    else
      match loadMTLSIdentityMap host (identityMapPath host) with
      | .error err => some (.error ⟨503, err⟩)
      | .ok identities =>
        match identities.find? (mtlsGrantMatches peer) with
        | some grant => some (.ok (identityOfGrant grant))
        | none => some (.error ⟨403, str "mTLS client certificate is not mapped to an API identity"⟩)

/-- The gate of a server that requires an identity: it can verify one, and the request brings
one.  Of a certificate it asks only that there be one, and a map. -/
def requireIdentityGate (host : Host) (r : Request) : Except Refusal Unit :=
  let certified := (mtlsIdentityFromRequest r).isSome && mtlsIdentityMapConfigured host
  if ¬ writeIdentityVerifierConfigured (writeJWTVerificationConfigFromEnv host) ∧ ¬ certified then
    .error ⟨503, str ("write identity auth is required; set " ++
      "BPFCOMPAT_API_WRITE_JWT_HS256_SECRET, BPFCOMPAT_API_WRITE_JWT_JWKS_PATH, " ++
      "BPFCOMPAT_API_WRITE_JWT_JWKS_URL, BPFCOMPAT_API_WRITE_JWT_OIDC_ISSUER_URL, or " ++
      "BPFCOMPAT_API_MTLS_IDENTITY_MAP_PATH")⟩
  else if trimSpace (r.header (str "X-API-Identity-Token")) = [] ∧ ¬ certified then
    .error ⟨401, str ("missing write identity; set X-API-Identity-Token header or present an " ++
      "authorized mTLS client certificate")⟩
  else .ok ()

/-- A request with an identity token. -/
def authorizeToken (host : Host) (identityToken : Str) : Except Refusal WriteAuthIdentity :=
  let jwtCfg := writeJWTVerificationConfigFromEnv host
  if ¬ writeIdentityVerifierConfigured jwtCfg then
    .error ⟨503, str ("write identity token provided but none of " ++
      "BPFCOMPAT_API_WRITE_JWT_HS256_SECRET, BPFCOMPAT_API_WRITE_JWT_JWKS_PATH, " ++
      "BPFCOMPAT_API_WRITE_JWT_JWKS_URL, or BPFCOMPAT_API_WRITE_JWT_OIDC_ISSUER_URL is configured")⟩
  else
    match parseWriteIdentityJWTContext host identityToken jwtCfg with
    | .error err => .error ⟨401, str "invalid write identity token: " ++ err⟩
    | .ok identity => checked host identity

/-- A request with an API key. -/
def authorizeKey (host : Host) (expected provided : Str) : Except Refusal WriteAuthIdentity :=
  if expected = [] then
    .error ⟨503, str "write API key auth is not configured; set BPFCOMPAT_API_WRITE_KEY"⟩
  else if provided ≠ expected then .error ⟨401, str "invalid API key"⟩
  else .ok { subject := tokenSubject host provided, authType := str "api_key" }

/-- A request with neither: the certificate of its connection has to do. -/
def authorizeCertificate (host : Host) (r : Request) (expected : Str) :
    Except Refusal WriteAuthIdentity :=
  match mtlsWriteIdentityFromRequest host r with
  | some (.error refusal) => .error refusal
  | some (.ok identity) => checked host identity
  | none =>
    if expected = [] then
      .error ⟨503, str ("write API is not configured; set BPFCOMPAT_API_WRITE_KEY, " ++
        "BPFCOMPAT_API_MTLS_IDENTITY_MAP_PATH, or a JWT verifier")⟩
    else .error ⟨401, str "missing API key"⟩

def requireWriteAuthorization (host : Host) (r : Request) : Except Refusal WriteAuthIdentity := do
  let identityToken := trimSpace (r.header (str "X-API-Identity-Token"))
  let expected := trimSpace (host.getenv (str "BPFCOMPAT_API_WRITE_KEY"))
  let provided := writeCredentialFromRequest r
  if parseBoolEnv host "BPFCOMPAT_API_WRITE_REQUIRE_IDENTITY" false then requireIdentityGate host r
  if identityToken ≠ [] then authorizeToken host identityToken
  else if provided ≠ [] then authorizeKey host expected provided
  else authorizeCertificate host r expected

end

/-! ### The claims every write requires -/

/-- A text that stands for itself in a list: it is not blank, has no white space around it and no
comma. -/
structure Plain (s : Str) : Prop where
  nonempty : s ≠ []
  trimmed : trimSpace s = s
  comma : ','.toUInt8 ∉ s

theorem plain_of_mem_dedupe {values : List Str} {value : Str} (h : value ∈ dedupeSortedStrings values) :
  Plain value
  := by
  rw [dedupeSortedStrings] at h
  split_ifs at h
  · cases h
  · rw [collectMultiValues, Registry.mem_dedupeSorted] at h
    obtain ⟨hne, part, hpart, rfl⟩ := h
    obtain ⟨whole, -, hpart⟩ := List.mem_flatMap.mp hpart
    refine ⟨hne, trimSpace_trimSpace part, ?_⟩
    intro hcomma
    apply notMem_of_mem_splitOn hpart
    apply mem_of_mem_trimSpace hcomma

theorem Plain.mem_dedupe {values : List Str} {value : Str} (hp : Plain value) (h : value ∈ values) :
  value ∈ dedupeSortedStrings values
  := by
  rw [dedupeSortedStrings, if_neg (by simpa using List.ne_nil_of_mem h), collectMultiValues,
    Registry.mem_dedupeSorted]
  refine ⟨hp.nonempty, value, List.mem_flatMap.mpr ⟨value, h, ?_⟩, hp.trimmed⟩
  rw [List.splitOn_eq_singleton hp.comma]
  apply List.mem_cons_self

theorem plain_of_required {host : Host} {key : String} {claim : Str}
    (h : claim ∈ requiredClaimListFromEnv host key) :
  Plain claim
  := by
  rw [requiredClaimListFromEnv] at h
  split_ifs at h
  · cases h
  · apply plain_of_mem_dedupe h

/-- Nothing is missing when every required claim is there. -/
theorem containsAllClaims_eq_nil {held want : List Str} (hwant : ∀ claim ∈ want, Plain claim) :
  (containsAllClaims held want).length = 0 ↔ ∀ claim ∈ want, claim ∈ held.map trimSpace
  := by
  rw [List.length_eq_zero_iff]
  constructor
  · intro hnone claim hclaim
    by_contra hmissing
    have hp := hwant claim hclaim
    have hmem : claim ∈ containsAllClaims held want := by
      apply hp.mem_dedupe
      rw [List.mem_filter, decide_eq_true_iff]
      exact ⟨List.mem_map.mpr ⟨claim, hclaim, hp.trimmed⟩, hp.nonempty, hmissing⟩
    rw [hnone] at hmem
    cases hmem
  · intro hall
    have hfilter : (want.map trimSpace).filter
        (fun required => required ≠ [] ∧ required ∉ held.map trimSpace) = [] := by
      rw [List.filter_eq_nil_iff, List.forall_mem_map]
      intro claim hclaim
      rw [(hwant claim hclaim).trimmed]
      simp only [decide_eq_true_iff, not_and, not_not]
      intro _
      apply hall claim hclaim
    rw [containsAllClaims, hfilter]
    rfl

/-- An identity that has the scopes and the roles every write requires. -/
structure MeetsRequiredClaims (host : Host) (identity : WriteAuthIdentity) : Prop where
  scopes : ∀ scope ∈ requiredClaimListFromEnv host "BPFCOMPAT_API_WRITE_JWT_REQUIRED_SCOPES",
    scope ∈ identity.scopes.map trimSpace
  roles : ∀ role ∈ requiredClaimListFromEnv host "BPFCOMPAT_API_WRITE_JWT_REQUIRED_ROLES",
    role ∈ identity.roles.map trimSpace

/-- An identity that carries claims passes the check of them when it meets those required. -/
theorem enforce_eq_ok_iff {host : Host} {identity : WriteAuthIdentity}
    (hcarries : identityCarriesClaims identity) :
  enforceWriteIdentityRequiredClaims host identity = .ok () ↔ MeetsRequiredClaims host identity
  := by
  have hplain : ∀ key, ∀ claim ∈ requiredClaimListFromEnv host key, Plain claim :=
    fun _ _ => plain_of_required
  have hscopes : ∀ held, _ := fun held => @containsAllClaims_eq_nil held _
    (hplain "BPFCOMPAT_API_WRITE_JWT_REQUIRED_SCOPES")
  have hroles : ∀ held, _ := fun held => @containsAllClaims_eq_nil held _
    (hplain "BPFCOMPAT_API_WRITE_JWT_REQUIRED_ROLES")
  rw [enforceWriteIdentityRequiredClaims, if_neg (not_not.mpr hcarries)]
  dsimp only
  rw [refuse_if_eq_ok_iff, refuse_if_eq_ok_iff, Nat.not_lt, Nat.le_zero, Nat.not_lt, Nat.le_zero,
    hscopes, hroles]
  constructor
  · rintro ⟨hs, hr, -⟩
    exact ⟨hs, hr⟩
  · rintro ⟨hs, hr⟩
    exact ⟨hs, hr, rfl⟩

theorem checked_ok {host : Host} {identity identity' : WriteAuthIdentity}
    (hcarries : identityCarriesClaims identity) (h : checked host identity = .ok identity') :
  identity' = identity ∧ MeetsRequiredClaims host identity
  := by
  rw [checked] at h
  split at h
  · cases h
  · next hok =>
      cases h
      use rfl
      apply (enforce_eq_ok_iff hcarries).mp hok

section

variable [CaseTables]

/-! ### Established identities -/

/-- The certificate of the request is verified, and a grant of the map gives it the identity. -/
def MappedCertificate (host : Host) (r : Request) (identity : WriteAuthIdentity) : Prop :=
  ∃ peer identities grant, mtlsIdentityFromRequest r = some peer ∧
    loadMTLSIdentityMap host (identityMapPath host) = .ok identities ∧ grant ∈ identities ∧
    mtlsGrantMatches peer grant ∧ identity = identityOfGrant grant

/-- The request brings a valid token of the identity, or a certificate the map gives it to. -/
def Established (host : Host) (r : Request) (identity : WriteAuthIdentity) : Prop :=
  ValidToken host (writeJWTVerificationConfigFromEnv host)
      (trimSpace (r.header (str "X-API-Identity-Token"))) identity ∨
    MappedCertificate host r identity

theorem authType_of_validToken {host : Host} {cfg : WriteJWTVerificationConfig} {token : Str}
    {identity : WriteAuthIdentity} (h : ValidToken host cfg token identity) :
  identity.authType = str "jwt"
  := by
  obtain ⟨_, _, _, _, _, claims, -, -, -, -, -, -, rfl⟩ := h
  rfl

theorem authType_of_established {host : Host} {r : Request} {identity : WriteAuthIdentity}
    (h : Established host r identity) :
  identity.authType = str "jwt" ∨ identity.authType = str "mtls"
  := by
  rcases h with htoken | ⟨_, _, grant, -, -, -, -, rfl⟩
  · exact .inl (authType_of_validToken htoken)
  · exact .inr rfl

omit [CaseTables] in
theorem carries_jwt {identity : WriteAuthIdentity} (h : identity.authType = str "jwt") :
  identityCarriesClaims identity
  := by
  rw [identityCarriesClaims, h]
  decide

omit [CaseTables] in
theorem carries_mtls (grant : MTLSIdentityGrant) :
  identityCarriesClaims (identityOfGrant grant)
  := by
  have htype : (identityOfGrant grant).authType = str "mtls" := rfl
  rw [identityCarriesClaims, htype]
  decide

/-- A token that is authorized is valid, and its identity meets the required claims. -/
theorem authorizeToken_ok {host : Host} {token : Str} {identity : WriteAuthIdentity}
    (h : authorizeToken host token = .ok identity) :
  ValidToken host (writeJWTVerificationConfigFromEnv host) token identity ∧
    MeetsRequiredClaims host identity
  := by
  rw [authorizeToken, refuse_if_eq_ok_iff] at h
  obtain ⟨-, h⟩ := h
  split at h
  · cases h
  · next identity' hparse =>
      have hvalid := validToken_of_parse hparse
      obtain ⟨rfl, hclaims⟩ := checked_ok (carries_jwt (authType_of_validToken hvalid)) h
      exact ⟨hvalid, hclaims⟩

/-- A certificate that gives an identity is one the map gives it to. -/
theorem mapped_of_ok {host : Host} {r : Request} {identity : WriteAuthIdentity}
    (h : mtlsWriteIdentityFromRequest host r = some (.ok identity)) :
  MappedCertificate host r identity
  := by
  rw [mtlsWriteIdentityFromRequest] at h
  split at h
  · cases h
  · next peer hpeer =>
      split_ifs at h
      split at h
      · cases h
      · next identities hload =>
          split at h
          · next grant hfind =>
              cases h
              exact ⟨peer, identities, grant, hpeer, hload, List.mem_of_find?_eq_some hfind,
                List.find?_some hfind, rfl⟩
          · cases h

theorem authorizeCertificate_ok {host : Host} {r : Request} {expected : Str}
    {identity : WriteAuthIdentity} (h : authorizeCertificate host r expected = .ok identity) :
  MappedCertificate host r identity ∧ MeetsRequiredClaims host identity
  := by
  rw [authorizeCertificate] at h
  split at h
  · cases h
  · next identity' hmtls =>
      have hmapped := mapped_of_ok hmtls
      obtain ⟨_, _, grant, -, -, -, -, hgrant⟩ := hmapped
      obtain ⟨rfl, hclaims⟩ := checked_ok (hgrant ▸ carries_mtls grant) h
      exact ⟨mapped_of_ok hmtls, hclaims⟩
  · split_ifs at h

/-! ### The way around -/

/-- A request that brings the API key and no token, over a connection with a verified certificate,
to a server with a map.  Whether the map knows the certificate does not matter. -/
structure BareKey (host : Host) (r : Request) : Prop where
  token : trimSpace (r.header (str "X-API-Identity-Token")) = []
  certificate : (mtlsIdentityFromRequest r).isSome
  map : identityMapPath host ≠ []
  provided : writeCredentialFromRequest r ≠ []
  key : writeCredentialFromRequest r = trimSpace (host.getenv (str "BPFCOMPAT_API_WRITE_KEY"))

theorem requireIdentityGate_ok {host : Host} {r : Request} (h : requireIdentityGate host r = .ok ())
    (htoken : trimSpace (r.header (str "X-API-Identity-Token")) = []) :
  (mtlsIdentityFromRequest r).isSome ∧ identityMapPath host ≠ []
  := by
  rw [requireIdentityGate, refuse_if_eq_ok_iff, refuse_if_eq_ok_iff] at h
  obtain ⟨-, h, -⟩ := h
  simpa [htoken, mtlsIdentityMapConfigured] using h

/-- A certificate and a map are enough for the gate. -/
theorem BareKey.gate {host : Host} {r : Request} (h : BareKey host r) :
  requireIdentityGate host r = .ok ()
  := by
  rw [requireIdentityGate, refuse_if_eq_ok_iff, refuse_if_eq_ok_iff]
  simp [h.certificate, h.map, mtlsIdentityMapConfigured]

omit [CaseTables] in
theorem authorizeKey_ok {host : Host} {expected provided : Str} {identity : WriteAuthIdentity}
    (h : authorizeKey host expected provided = .ok identity) :
  expected ≠ [] ∧ provided = expected ∧ identity.authType = str "api_key"
  := by
  rw [authorizeKey, refuse_if_eq_ok_iff, refuse_if_eq_ok_iff, not_not] at h
  obtain ⟨hexpected, hprovided, h⟩ := h
  cases h
  exact ⟨hexpected, hprovided, rfl⟩

section

variable {host : Host} {r : Request} {identity : WriteAuthIdentity}
  (hrequire : parseBoolEnv host "BPFCOMPAT_API_WRITE_REQUIRE_IDENTITY" false = true)

include hrequire

/-- The ways a write is authorized where an identity is required. -/
theorem requireWriteAuthorization_ok (h : requireWriteAuthorization host r = .ok identity) :
  (Established host r identity ∧ MeetsRequiredClaims host identity) ∨ BareKey host r
  := by
  rw [requireWriteAuthorization, if_pos hrequire] at h
  obtain ⟨_, hgate, h⟩ := bind_eq_ok_iff.mp h
  split_ifs at h with htoken hprovided
  · obtain ⟨hvalid, hclaims⟩ := authorizeToken_ok h
    exact .inl ⟨.inl hvalid, hclaims⟩
  · obtain ⟨-, hkey, -⟩ := authorizeKey_ok h
    rw [not_not] at htoken
    obtain ⟨hcertificate, hmap⟩ := requireIdentityGate_ok hgate htoken
    exact .inr ⟨htoken, hcertificate, hmap, hprovided, hkey⟩
  · obtain ⟨hmapped, hclaims⟩ := authorizeCertificate_ok h
    exact .inl ⟨.inr hmapped, hclaims⟩

/-- The bare key is accepted, as a key. -/
theorem BareKey.accepted (h : BareKey host r) :
  ∃ identity, requireWriteAuthorization host r = .ok identity ∧ identity.authType = str "api_key"
  := by
  have hexpected : trimSpace (host.getenv (str "BPFCOMPAT_API_WRITE_KEY")) ≠ [] := h.key ▸ h.provided
  use { subject := tokenSubject host (writeCredentialFromRequest r), authType := str "api_key" }
  refine ⟨?_, rfl⟩
  rw [requireWriteAuthorization, if_pos hrequire, bind_eq_ok_iff]
  use (), h.gate
  rw [if_neg (not_not.mpr h.token), if_pos h.provided, authorizeKey, if_neg hexpected,
    if_neg (not_not.mpr h.key)]

/-- Where an identity is required, a write is authorized only for an established identity that
meets the required claims, exactly when the request is not a bare key beside a certificate. -/
theorem identity_required_iff :
  (∀ identity, requireWriteAuthorization host r = .ok identity →
    Established host r identity ∧ MeetsRequiredClaims host identity) ↔ ¬ BareKey host r
  := by
  constructor
  · intro hall hbare
    obtain ⟨identity, hok, hkey⟩ := hbare.accepted hrequire
    rcases authType_of_established (hall identity hok).1 with htype | htype
    all_goals
      rw [hkey] at htype
      revert htype
      decide
  · intro hbare identity hok
    apply (requireWriteAuthorization_ok hrequire hok).resolve_right hbare

end

end

/-! ### A certificate in the map, and one that is not -/

section

attribute [local instance] asciiCaseTables

/-- A grant for the certificates of the operators. -/
def opsGrant : MTLSIdentityGrant where
  commonName := str "ops"
  subject := str "ops"
  tenant := str "acme"
  projects := [str "*"]

/-- A server with an API key and a map with one grant, that requires an identity. -/
def mappedHost : Host where
  getenv key :=
    if key = str "BPFCOMPAT_API_WRITE_REQUIRE_IDENTITY" then str "true"
    else if key = str "BPFCOMPAT_API_WRITE_KEY" then str "k"
    else if key = str "BPFCOMPAT_API_MTLS_IDENTITY_MAP_PATH" then str "/etc/map.json"
    else []
  now := 0
  keySet _ _ := .error []
  forceRefreshAllowed _ := false
  identityMap _ := .ok [opsGrant]
  hmacSHA256 _ _ := []
  sha256 s := s
  verifyPKCS1v15 _ _ _ _ := false
  float64 _ := none
  base64Error _ := []
  jsonError _ := []

/-- A request over a connection with a verified certificate of a name. -/
def certifiedRequest (commonName : Str) (header : Str → Str) : Request where
  header := header
  tls := some ⟨[{ commonName := commonName }], [[{ commonName := commonName }]]⟩

/-- The certificate of the operators establishes an identity. -/
theorem ops_certificate_established :
  parseBoolEnv mappedHost "BPFCOMPAT_API_WRITE_REQUIRE_IDENTITY" false = true ∧
    requireWriteAuthorization mappedHost (certifiedRequest (str "ops") fun _ => []) =
      .ok (identityOfGrant opsGrant) ∧
    Established mappedHost (certifiedRequest (str "ops") fun _ => []) (identityOfGrant opsGrant)
  := by
  have hrequire : parseBoolEnv mappedHost "BPFCOMPAT_API_WRITE_REQUIRE_IDENTITY" false = true := by
    decide +kernel
  have hok : requireWriteAuthorization mappedHost (certifiedRequest (str "ops") fun _ => []) =
      .ok (identityOfGrant opsGrant) := by
    decide +kernel
  refine ⟨hrequire, hok, ?_⟩
  have hbare : ¬ BareKey mappedHost (certifiedRequest (str "ops") fun _ => []) := fun h =>
    h.provided rfl
  exact ((identity_required_iff hrequire).mpr hbare _ hok).1

/-- A request with the API key and a certificate the map does not know. -/
def strangerRequest : Request :=
  certifiedRequest (str "stranger") fun name => if name = str "X-API-Key" then str "k" else []

/-- It is authorized, by the key alone. -/
theorem stranger_key_accepted :
  parseBoolEnv mappedHost "BPFCOMPAT_API_WRITE_REQUIRE_IDENTITY" false = true ∧
    ∃ identity, requireWriteAuthorization mappedHost strangerRequest = .ok identity ∧
      ¬ Established mappedHost strangerRequest identity
  := by
  have hok : requireWriteAuthorization mappedHost strangerRequest =
      .ok { subject := str "token:6b", authType := str "api_key" } := by
    decide +kernel
  refine ⟨by decide, _, hok, ?_⟩
  intro h
  have htype := authType_of_established h
  revert htype
  decide

end

end Api
