import BpfCompat.Go.Encoding

/-!
# Authorisation

How the cloud registry decides whether a token may use a project.  The grants of the
configuration are scanned in order; the first that allows the request decides it, and a
flag remembers whether some grant was for the token at all.

What a grant allows is stated separately (`Grant.Qualifies`).  The scan agrees with it
(`resultClass_scanGrants`) except in one place: a project that consists of white space only is not
normalised to the empty one, so that it is matched as the name of a project and a grant for
every project is enough where an explicit `*` should be needed (`grantSemantics_iff`).
-/

namespace CloudRegistry

open Go

/-- What the store reads from outside: the environment, and two functions of the standard
library, the instant an RFC 3339 text denotes and the code of a message under a key. -/
structure Host where
  getenv : Str → Str
  parseRFC3339 : Str → Option Int
  hmacSHA256 : Str → Str → Str

/-- What a token may do. -/
structure TokenGrant where
  token : Str := []
  tokenHash : Str := []
  tokenHashSalt : Str := []
  notBefore : Str := []
  expiresAt : Str := []
  subject : Str := []
  tenant : Str := []
  projects : List Str := []
  canRead : Bool := false
  canWrite : Bool := false
deriving DecidableEq

/-- Who was authorised, and for what. -/
structure Principal where
  subject : Str
  tenant : Str
  project : Str
  canRead : Bool
  canWrite : Bool
deriving DecidableEq

/-- The ways authorisation fails. -/
inductive AuthError where
  | unauthorized
  | forbidden
  | other (message : Str)
deriving DecidableEq

/-- A registry as one request sees it: the hour, and its grants or why they were not read. -/
structure Store where
  host : Host
  now : Int
  authConfig : Except Str (List TokenGrant)

/-! ### The source -/

/-- A character an identifier may begin with. -/
def isIDHead (b : UInt8) : Bool :=
  (65 ≤ b && b ≤ 90) || (97 ≤ b && b ≤ 122) || (48 ≤ b && b ≤ 57)

/-- A character an identifier may go on with. -/
def isIDTail (b : UInt8) : Bool :=
  isIDHead b || b == '.'.toUInt8 || b == '_'.toUInt8 || b == '-'.toUInt8

/-- The expression `idPattern`. -/
def matchesIDPattern : Str → Bool
  | [] => false
  | b :: s => isIDHead b && s.all isIDTail && s.length ≤ 63

/-- An identifier without the white space around it, or what is wrong with it. -/
def validateID (field value : Str) : Except Str Str :=
  let value := trimSpace value
  if value = [] then .error (field ++ str " is required")
  else if !matchesIDPattern value then
    .error (field ++ str " must match ^[A-Za-z0-9][A-Za-z0-9._-]\x7b0,63\x7d$")
  else .ok value

/-- The hour is inside the window of a grant; a text that is not a time closes it. -/
def grantValidityWindow (host : Host) (grant : TokenGrant) (now : Int) : Bool :=
  let nbf := trimSpace grant.notBefore
  let exp := trimSpace grant.expiresAt
  if nbf ≠ [] ∧ (∀ t ∈ host.parseRFC3339 nbf, now < t) then false
  else if exp ≠ [] ∧ (∀ t ∈ host.parseRFC3339 exp, ¬ now < t) then false
  else true

/-- The token is the one of the grant; a hash takes precedence over a plain token. -/
def tokenGrantMatches (host : Host) (grant : TokenGrant) (presented : Str) : Bool :=
  let presented := trimSpace presented
  if presented = [] then false
  else
    let hashHex := trimSpace grant.tokenHash
    if hashHex ≠ [] then
      match base64Decode (trimSpace grant.tokenHashSalt), hexDecode hashHex with
      | some salt, some want =>
        if salt = [] ∨ want = [] then false else host.hmacSHA256 salt presented = want
      | _, _ => false
    else
      let plaintext := trimSpace grant.token
      if plaintext = [] then false else plaintext = presented

/-- A name is covered by a pattern. -/
def matchScope (value pattern : Str) : Bool :=
  let pattern := trimSpace pattern
  pattern = [] || pattern = str "*" || value = pattern

/-- A project is covered by a list of patterns. -/
def matchProject (project : Str) (patterns : List Str) : Bool :=
  patterns.isEmpty || patterns.any fun pattern =>
    let pattern := trimSpace pattern
    pattern = [] || pattern = str "*" || project = pattern

/-- A list of patterns names every project explicitly. -/
def tenantWideAccess (patterns : List Str) : Bool :=
  patterns.any fun pattern => trimSpace pattern = str "*"

/-- What the environment says of the window of the bootstrap token. -/
def bootstrapTokenValidityWindow (host : Host) (now : Int) : Bool :=
  grantValidityWindow host
    { notBefore := trimSpace (host.getenv (str "BPFCOMPAT_REGISTRY_AUTH_TOKEN_NOT_BEFORE"))
      expiresAt := trimSpace (host.getenv (str "BPFCOMPAT_REGISTRY_AUTH_TOKEN_EXPIRES_AT")) }
    now

/-- The loop over the grants; the flag says that an earlier grant was for the token. -/
def scanGrants (host : Host) (now : Int) (token tenant project : Str) (write : Bool)
    (matchedToken : Bool) : List TokenGrant → Except AuthError Principal
  | [] => if matchedToken then .error .forbidden else .error .unauthorized
  | grant :: grants =>
    if !tokenGrantMatches host grant token then
      scanGrants host now token tenant project write matchedToken grants
    else if !grantValidityWindow host grant now then
      scanGrants host now token tenant project write true grants
    else if !matchScope tenant (trimSpace grant.tenant) then
      scanGrants host now token tenant project write true grants
    else if project = [] ∧ !tenantWideAccess grant.projects then
      scanGrants host now token tenant project write true grants
    else if project ≠ [] ∧ !matchProject project grant.projects then
      scanGrants host now token tenant project write true grants
    else if write ∧ !grant.canWrite then
      scanGrants host now token tenant project write true grants
    else if !write ∧ !(grant.canRead || grant.canWrite) then
      scanGrants host now token tenant project write true grants
    else
      let subject := trimSpace grant.subject
      .ok
        { subject := if subject = [] then str "token" else subject
          tenant := tenant
          project := project
          canRead := grant.canRead || grant.canWrite
          canWrite := grant.canWrite }

/-- Whether a token may use a project. -/
def authorizeToken (store : Store) (token tenant project : Str) (write : Bool) :
    Except AuthError Principal := do
  let tenant ← (validateID (str "tenant") tenant).mapError .other
  let project ←
    (if trimSpace project ≠ [] then (validateID (str "project") project).mapError .other
    -- a project of white space only stays as it is
    else .ok project)
  let token := trimSpace token
  if token = [] then .error .unauthorized
  else
    let bootstrap := trimSpace (store.host.getenv (str "BPFCOMPAT_REGISTRY_AUTH_TOKEN"))
    if bootstrap ≠ [] ∧ bootstrap = token then
      if !bootstrapTokenValidityWindow store.host store.now then .error .unauthorized
      else
        .ok
          { subject := str "bootstrap-token"
            tenant := tenant
            project := project
            canRead := true
            canWrite := true }
    else
      let grants ← store.authConfig.mapError .other
      scanGrants store.host store.now token tenant project write false grants

/-- A grant that keeps the code of a token under a random salt in place of the token. -/
def hashTokenGrant (host : Host) (salt : Str) (grant : TokenGrant) (plaintext : Str) :
    Except Str TokenGrant :=
  let plaintext := trimSpace plaintext
  if plaintext = [] then .error (str "plaintext token is required")
  else
    .ok
      { grant with
        token := []
        tokenHashSalt := base64Encode salt
        tokenHash := hexEncode (host.hmacSHA256 salt plaintext) }

/-! ### What a grant allows -/

section

variable (host : Host) (now : Int) (grant : TokenGrant)

/-- The hour is at or after the first instant and before the second; a text that is not a
time is not met. -/
def InWindow (notBefore expiresAt : Str) : Prop :=
  (trimSpace notBefore ≠ [] → ∃ t, host.parseRFC3339 (trimSpace notBefore) = some t ∧ t ≤ now) ∧
    (trimSpace expiresAt ≠ [] → ∃ t, host.parseRFC3339 (trimSpace expiresAt) = some t ∧ now < t)

/-- The grant was made for a secret: it keeps the secret, or its code under the salt. -/
def TokenGrant.RecordsSecret (secret : Str) : Prop :=
  secret ≠ [] ∧
    if trimSpace grant.tokenHash = [] then trimSpace grant.token = secret
    else
      ∃ salt, base64Decode (trimSpace grant.tokenHashSalt) = some salt ∧ salt ≠ [] ∧
        hexDecode (trimSpace grant.tokenHash) = some (host.hmacSHA256 salt secret) ∧
        host.hmacSHA256 salt secret ≠ []

/-- The token is the secret the grant was made for. -/
def TokenGrant.Matches (token : Str) : Prop :=
  (∃ secret, grant.RecordsSecret host secret) ∧
    ∀ secret, grant.RecordsSecret host secret → secret = trimSpace token

/-- The grant is for a tenant, or for all. -/
def TokenGrant.CoversTenant (tenant : Str) : Prop :=
  trimSpace grant.tenant = [] ∨ trimSpace grant.tenant = str "*" ∨
    trimSpace grant.tenant = trimSpace tenant

/-- The grant has an explicit `*` among its projects. -/
def TokenGrant.NamesEveryProject : Prop :=
  ∃ p ∈ grant.projects, trimSpace p = str "*"

/-- The grant lists no project, or a blank one. -/
def TokenGrant.LeavesProjectOpen : Prop :=
  grant.projects = [] ∨ ∃ p ∈ grant.projects, trimSpace p = []

/-- The grant is for a project; a request without one needs the explicit `*`. -/
def TokenGrant.CoversProject (project : Str) : Prop :=
  grant.NamesEveryProject ∨
    trimSpace project ≠ [] ∧
      (grant.LeavesProjectOpen ∨ ∃ p ∈ grant.projects, trimSpace p = trimSpace project)

/-- The grant has a permission; writing implies reading. -/
def TokenGrant.Permits (write : Bool) : Prop :=
  grant.canWrite = true ∨ (write = false ∧ grant.canRead = true)

/-- The grant allows a request, its project apart. -/
structure TokenGrant.Allows (token tenant : Str) (write : Bool) : Prop where
  matches_token : grant.Matches host token
  inWindow : InWindow host now grant.notBefore grant.expiresAt
  coversTenant : grant.CoversTenant tenant
  permits : grant.Permits write

/-- The grant allows a request. -/
def TokenGrant.Qualifies (token tenant project : Str) (write : Bool) : Prop :=
  grant.Allows host now token tenant write ∧ grant.CoversProject project

end

/-- The token is the one of the environment. -/
def IsBootstrap (host : Host) (token : Str) : Prop :=
  trimSpace (host.getenv (str "BPFCOMPAT_REGISTRY_AUTH_TOKEN")) ≠ [] ∧
    trimSpace (host.getenv (str "BPFCOMPAT_REGISTRY_AUTH_TOKEN")) = trimSpace token

/-- The class of a result: the error, if there is one. -/
def resultClass : Except AuthError Principal → Option AuthError
  | .ok _ => none
  | .error e => some e

/-- Authorisation is what the grants say, for one request. -/
structure GrantSemantics (store : Store) (grants : List TokenGrant) (token tenant project : Str)
    (write : Bool) : Prop where
  bootstrap : IsBootstrap store.host token →
    ((∃ p, authorizeToken store token tenant project write = .ok p) ↔
      InWindow store.host store.now
        (store.host.getenv (str "BPFCOMPAT_REGISTRY_AUTH_TOKEN_NOT_BEFORE"))
        (store.host.getenv (str "BPFCOMPAT_REGISTRY_AUTH_TOKEN_EXPIRES_AT")))
  succeeds : ¬ IsBootstrap store.host token →
    ((∃ p, authorizeToken store token tenant project write = .ok p) ↔
      ∃ g ∈ grants, g.Qualifies store.host store.now token tenant project write)
  forbidden : ¬ IsBootstrap store.host token →
    (authorizeToken store token tenant project write = .error .forbidden ↔
      (∃ g ∈ grants, g.Matches store.host token) ∧
        ¬ ∃ g ∈ grants, g.Qualifies store.host store.now token tenant project write)
  order : ∀ grants', grants'.Perm grants →
    resultClass (authorizeToken { store with authConfig := .ok grants' } token tenant project write)
      = resultClass (authorizeToken store token tenant project write)

/-! ### What the functions of the source decide -/

section

variable {host : Host} {now : Int} {grant : TokenGrant}

theorem grantValidityWindow_iff :
  grantValidityWindow host grant now = true ↔ InWindow host now grant.notBefore grant.expiresAt
  := by
  have hbefore : ∀ x : Option Int, (¬ ∀ t ∈ x, now < t) ↔ ∃ t, x = some t ∧ t ≤ now := by
    intro x
    cases x <;> simp
  have hafter : ∀ x : Option Int, (¬ ∀ t ∈ x, ¬ now < t) ↔ ∃ t, x = some t ∧ now < t := by
    intro x
    cases x <;> simp
  rw [grantValidityWindow, InWindow, ← hbefore, ← hafter]
  split_ifs with h₁ h₂
  · simp only [false_iff, not_and]
    intro h
    exact absurd h₁.2 (h h₁.1)
  · simp only [false_iff, not_and]
    intro _ h
    exact absurd h₂.2 (h h₂.1)
  · rw [not_and] at h₁ h₂
    simp only [true_iff]
    exact ⟨h₁, h₂⟩

theorem bootstrapTokenValidityWindow_iff :
  bootstrapTokenValidityWindow host now = true ↔
    InWindow host now (host.getenv (str "BPFCOMPAT_REGISTRY_AUTH_TOKEN_NOT_BEFORE"))
      (host.getenv (str "BPFCOMPAT_REGISTRY_AUTH_TOKEN_EXPIRES_AT"))
  := by
  rw [bootstrapTokenValidityWindow, grantValidityWindow_iff, InWindow, InWindow]
  simp only [trimSpace_trimSpace]

/-- A grant records at most one secret. -/
theorem TokenGrant.RecordsSecret.unique (hmac : ∀ salt, Function.Injective (host.hmacSHA256 salt))
    {s t : Str} (hs : grant.RecordsSecret host s) (ht : grant.RecordsSecret host t) :
  s = t
  := by
  obtain ⟨-, hs⟩ := hs
  obtain ⟨-, ht⟩ := ht
  split_ifs at hs ht with hash
  · rw [← hs, ht]
  · obtain ⟨salt, hsalt, -, hcode, -⟩ := hs
    obtain ⟨salt', hsalt', -, hcode', -⟩ := ht
    rw [hsalt, Option.some_inj] at hsalt'
    rw [hcode, ← hsalt', Option.some_inj] at hcode'
    apply hmac salt hcode'

theorem TokenGrant.matches_iff (hmac : ∀ salt, Function.Injective (host.hmacSHA256 salt))
    {token : Str} :
  grant.Matches host token ↔ grant.RecordsSecret host (trimSpace token)
  := by
  constructor
  · rintro ⟨⟨secret, h⟩, hall⟩
    rw [← hall secret h]
    exact h
  · intro h
    refine ⟨⟨_, h⟩, ?_⟩
    intro secret hsecret
    apply hsecret.unique hmac h

theorem tokenGrantMatches_iff_recordsSecret {token : Str} :
  tokenGrantMatches host grant token = true ↔ grant.RecordsSecret host (trimSpace token)
  := by
  rw [tokenGrantMatches, TokenGrant.RecordsSecret]
  by_cases htoken : trimSpace token = []
  · simp [htoken]
  by_cases hhash : trimSpace grant.tokenHash = []
  · by_cases hplain : trimSpace grant.token = []
    · simp only [htoken, hhash, hplain, if_true, if_false, not_true, ne_eq]
      simp only [Bool.false_eq_true, false_iff, not_and]
      intro _ h
      exact htoken h.symm
    · simp [htoken, hhash, hplain]
  · simp only [htoken, hhash, if_false, if_true, ne_eq, not_false_eq_true, true_and]
    cases base64Decode (trimSpace grant.tokenHashSalt) with
    | none => simp
    | some salt =>
        cases hexDecode (trimSpace grant.tokenHash) with
        | none => simp
        | some want =>
            simp only [Option.some.injEq, exists_eq_left']
            split_ifs with hempty
            · simp only [false_iff, not_and, not_not]
              rintro hsalt rfl
              exact hempty.resolve_left hsalt
            · rw [not_or] at hempty
              rw [decide_eq_true_eq]
              constructor
              · rintro rfl
                exact ⟨hempty.1, rfl, hempty.2⟩
              · rintro ⟨-, h, -⟩
                exact h.symm

theorem tokenGrantMatches_trimSpace_iff
    (hmac : ∀ salt, Function.Injective (host.hmacSHA256 salt)) {token : Str} :
  tokenGrantMatches host grant (trimSpace token) = true ↔ grant.Matches host token
  := by
  rw [tokenGrantMatches_iff_recordsSecret, trimSpace_trimSpace, TokenGrant.matches_iff hmac]

theorem matchScope_iff {tenant : Str} :
  matchScope (trimSpace tenant) (trimSpace grant.tenant) = true ↔ grant.CoversTenant tenant
  := by
  simp [matchScope, TokenGrant.CoversTenant, or_assoc, eq_comm (a := trimSpace tenant)]

theorem tenantWideAccess_iff :
  tenantWideAccess grant.projects = true ↔ grant.NamesEveryProject
  := by
  simp [tenantWideAccess, TokenGrant.NamesEveryProject]

/-- Matching a project by name also accepts a grant that leaves the project open. -/
theorem matchProject_iff {project : Str} :
  matchProject project grant.projects = true ↔
    grant.NamesEveryProject ∨ grant.LeavesProjectOpen ∨
      ∃ p ∈ grant.projects, trimSpace p = project
  := by
  rw [matchProject, TokenGrant.NamesEveryProject, TokenGrant.LeavesProjectOpen]
  simp only [Bool.or_eq_true, List.isEmpty_iff, List.any_eq_true, decide_eq_true_eq]
  constructor
  · rintro (h | ⟨p, hp, (h | h) | h⟩)
    · exact .inr (.inl (.inl h))
    · exact .inr (.inl (.inr ⟨p, hp, h⟩))
    · exact .inl ⟨p, hp, h⟩
    · exact .inr (.inr ⟨p, hp, h.symm⟩)
  · rintro (⟨p, hp, h⟩ | (h | ⟨p, hp, h⟩) | ⟨p, hp, h⟩)
    · exact .inr ⟨p, hp, .inl (.inr h)⟩
    · exact .inl h
    · exact .inr ⟨p, hp, .inl (.inl h)⟩
    · exact .inr ⟨p, hp, .inr h.symm⟩

end

/-! ### The scan -/

/-- The checks of the loop on one grant. -/
def passes (host : Host) (now : Int) (token tenant project : Str) (write : Bool)
    (grant : TokenGrant) : Bool :=
  tokenGrantMatches host grant token && grantValidityWindow host grant now &&
    matchScope tenant (trimSpace grant.tenant) &&
    (if project = [] then tenantWideAccess grant.projects
      else matchProject project grant.projects) &&
    (if write then grant.canWrite else grant.canRead || grant.canWrite)

/-- One round of the loop: a grant that passes decides, any other only leaves word of a match. -/
theorem scanGrants_cons (host : Host) (now : Int) (token tenant project : Str) (write : Bool)
    (matchedToken : Bool) (grant : TokenGrant) (grants : List TokenGrant) :
  scanGrants host now token tenant project write matchedToken (grant :: grants)
    = if passes host now token tenant project write grant then
        .ok
          { subject := if trimSpace grant.subject = [] then str "token" else trimSpace grant.subject
            tenant := tenant
            project := project
            canRead := grant.canRead || grant.canWrite
            canWrite := grant.canWrite }
      else
        scanGrants host now token tenant project write
          (matchedToken || tokenGrantMatches host grant token) grants
  := by
  rw [scanGrants, passes]
  cases tokenGrantMatches host grant token with
  | false => simp
  | true =>
      cases grantValidityWindow host grant now with
      | false => simp
      | true =>
          cases matchScope tenant (trimSpace grant.tenant) with
          | false => simp
          | true =>
              by_cases hblank : project = []
              · cases tenantWideAccess grant.projects <;> cases write <;> cases grant.canRead <;>
                  cases grant.canWrite <;> simp [hblank]
              · cases matchProject project grant.projects <;> cases write <;>
                  cases grant.canRead <;> cases grant.canWrite <;> simp [hblank]

/-- The scan succeeds when some grant passes, and otherwise tells whether one was for the
token. -/
theorem resultClass_scanGrants (host : Host) (now : Int) (token tenant project : Str) (write : Bool)
    (matchedToken : Bool) (grants : List TokenGrant) :
  resultClass (scanGrants host now token tenant project write matchedToken grants)
    = if grants.any (passes host now token tenant project write) then none
      else if matchedToken || grants.any (tokenGrantMatches host · token) then some .forbidden
      else some .unauthorized
  := by
  induction grants generalizing matchedToken with
  | nil => cases matchedToken <;> rfl
  | cons grant grants ih =>
      rw [scanGrants_cons, List.any_cons, List.any_cons]
      cases passes host now token tenant project write grant with
      | true => rfl
      | false =>
          rw [Bool.false_or, ← Bool.or_assoc]
          apply ih

/-- The project the scan looks for. -/
def requestProject (project : Str) : Str :=
  if trimSpace project ≠ [] then trimSpace project else project

theorem eq_trimSpace_of_validateID {field value v : Str} (h : validateID field value = .ok v) :
  v = trimSpace value
  := by
  rw [validateID] at h
  split_ifs at h
  exact (Except.ok.inj h).symm

section

variable {store : Store} {grants : List TokenGrant} {tenant project : Str}

/-- The names of the request are accepted. -/
def ValidNames (tenant project : Str) : Prop :=
  (∃ t, validateID (str "tenant") tenant = .ok t) ∧
    (trimSpace project = [] ∨ ∃ p, validateID (str "project") project = .ok p)

/-- What is decided once the names are accepted. -/
theorem authorizeToken_of_validNames (hnames : ValidNames tenant project)
    (token : Str) (write : Bool) :
  authorizeToken store token tenant project write
    = if trimSpace token = [] then .error .unauthorized
      else if trimSpace (store.host.getenv (str "BPFCOMPAT_REGISTRY_AUTH_TOKEN")) ≠ [] ∧
          trimSpace (store.host.getenv (str "BPFCOMPAT_REGISTRY_AUTH_TOKEN")) = trimSpace token then
        if !bootstrapTokenValidityWindow store.host store.now then .error .unauthorized
        else
          .ok
            { subject := str "bootstrap-token"
              tenant := trimSpace tenant
              project := requestProject project
              canRead := true
              canWrite := true }
      else
        store.authConfig.mapError .other >>= scanGrants store.host store.now (trimSpace token)
          (trimSpace tenant) (requestProject project) write false
  := by
  obtain ⟨⟨t, ht⟩, hproject⟩ := hnames
  have hp : (if trimSpace project ≠ [] then
      (validateID (str "project") project).mapError AuthError.other else .ok project)
        = .ok (requestProject project) := by
    rw [requestProject]
    split_ifs with hblank
    · obtain ⟨p, hp⟩ := hproject.resolve_left hblank
      rw [hp, eq_trimSpace_of_validateID hp]
      rfl
    · rfl
  rw [authorizeToken, ht, eq_trimSpace_of_validateID ht]
  simp only [hp]
  rfl

theorem authorizeToken_bootstrap (hnames : ValidNames tenant project) {token : Str}
    (hboot : IsBootstrap store.host token) (write : Bool) :
  resultClass (authorizeToken store token tenant project write)
    = if bootstrapTokenValidityWindow store.host store.now then none else some .unauthorized
  := by
  have htoken : trimSpace token ≠ [] := by
    rw [← hboot.2]
    exact hboot.1
  rw [IsBootstrap] at hboot
  rw [authorizeToken_of_validNames hnames, if_neg htoken, if_pos hboot]
  cases bootstrapTokenValidityWindow store.host store.now <;> rfl

theorem authorizeToken_grants (hgrants : store.authConfig = .ok grants)
    (hnames : ValidNames tenant project) {token : Str} (hboot : ¬ IsBootstrap store.host token)
    (write : Bool) :
  resultClass (authorizeToken store token tenant project write)
    = if grants.any (passes store.host store.now (trimSpace token) (trimSpace tenant)
          (requestProject project) write) then none
      else if grants.any (tokenGrantMatches store.host · (trimSpace token)) then some .forbidden
      else some .unauthorized
  := by
  rw [authorizeToken_of_validNames hnames]
  by_cases htoken : trimSpace token = []
  · -- a blank token is no grant's
    have hno : ∀ g, tokenGrantMatches store.host g (trimSpace token) = false := by
      intro g
      rw [tokenGrantMatches, trimSpace_trimSpace, if_pos htoken]
    have hmatch : grants.any (tokenGrantMatches store.host · (trimSpace token)) = false := by
      simp [hno]
    have hpass : grants.any (passes store.host store.now (trimSpace token) (trimSpace tenant)
        (requestProject project) write) = false := by
      simp [passes, hno]
    rw [if_pos htoken, hmatch, hpass]
    rfl
  · rw [IsBootstrap] at hboot
    rw [if_neg htoken, if_neg hboot, hgrants]
    have := resultClass_scanGrants store.host store.now (trimSpace token) (trimSpace tenant)
      (requestProject project) write false grants
    rw [Bool.false_or] at this
    exact this

/-- A grant passes when it allows the request, its project as the code looks at it. -/
theorem passes_iff {host : Host} {now : Int}
    (hmac : ∀ salt, Function.Injective (host.hmacSHA256 salt)) {token : Str} {write : Bool}
    {grant : TokenGrant} :
  passes host now (trimSpace token) (trimSpace tenant) (requestProject project) write grant = true ↔
    grant.Allows host now token tenant write ∧
      (grant.CoversProject project ∨
        (trimSpace project = [] ∧ project ≠ [] ∧ grant.LeavesProjectOpen))
  := by
  have hpermit : (if write then grant.canWrite else grant.canRead || grant.canWrite) = true ↔
      grant.Permits write := by
    cases write <;> simp [TokenGrant.Permits, or_comm]
  have hproject : (if requestProject project = [] then tenantWideAccess grant.projects
      else matchProject (requestProject project) grant.projects) = true ↔
        (grant.CoversProject project ∨
          (trimSpace project = [] ∧ project ≠ [] ∧ grant.LeavesProjectOpen)) := by
    rw [requestProject, TokenGrant.CoversProject]
    by_cases hblank : trimSpace project = []
    · by_cases hempty : project = []
      · simp [hempty, tenantWideAccess_iff]
      · -- no trimmed pattern is white space
        have hname : ¬ ∃ p ∈ grant.projects, trimSpace p = project := by
          rintro ⟨p, -, hp⟩
          rw [← hp, trimSpace_trimSpace] at hblank
          exact hempty (hp.symm.trans hblank)
        simp [hblank, hempty, matchProject_iff, hname]
    · simp [hblank, matchProject_iff]
  rw [passes, Bool.and_eq_true, Bool.and_eq_true, Bool.and_eq_true, Bool.and_eq_true, hpermit,
    hproject, tokenGrantMatches_trimSpace_iff hmac, grantValidityWindow_iff, matchScope_iff]
  constructor
  · rintro ⟨⟨⟨⟨h₁, h₂⟩, h₃⟩, h₄⟩, h₅⟩
    exact ⟨⟨h₁, h₂, h₃, h₅⟩, h₄⟩
  · rintro ⟨⟨h₁, h₂, h₃, h₅⟩, h₄⟩
    exact ⟨⟨⟨⟨h₁, h₂⟩, h₃⟩, h₄⟩, h₅⟩

end

/-! ### Authorisation against the grants -/

theorem resultClass_eq_none_iff {r : Except AuthError Principal} :
  resultClass r = none ↔ ∃ p, r = .ok p
  := by
  cases r <;> simp [resultClass]

theorem resultClass_eq_some_iff {r : Except AuthError Principal} {e : AuthError} :
  resultClass r = some e ↔ r = .error e
  := by
  cases r <;> simp [resultClass]

/-- The class of a result does not depend on the order of the grants. -/
theorem resultClass_perm {store : Store} {grants grants' : List TokenGrant} {tenant project : Str}
    (hgrants : store.authConfig = .ok grants) (hnames : ValidNames tenant project)
    (hperm : grants'.Perm grants) (token : Str) (write : Bool) :
  resultClass (authorizeToken { store with authConfig := .ok grants' } token tenant project write)
    = resultClass (authorizeToken store token tenant project write)
  := by
  let store' : Store := { store with authConfig := .ok grants' }
  by_cases hboot : IsBootstrap store.host token
  · have hboot' : IsBootstrap store'.host token := hboot
    rw [authorizeToken_bootstrap hnames hboot, authorizeToken_bootstrap hnames hboot']
  · have hboot' : ¬ IsBootstrap store'.host token := hboot
    have hgrants' : store'.authConfig = .ok grants' := rfl
    rw [authorizeToken_grants hgrants hnames hboot, authorizeToken_grants hgrants' hnames hboot',
      hperm.any_eq, hperm.any_eq]

section

variable {store : Store} {grants : List TokenGrant} {token tenant project : Str} {write : Bool}

/-- A token that is not the bootstrap one succeeds through a grant that qualifies, or, where
the project consists of white space, through one that leaves the project open. -/
theorem succeeds_iff (hgrants : store.authConfig = .ok grants)
    (hmac : ∀ salt, Function.Injective (store.host.hmacSHA256 salt))
    (hnames : ValidNames tenant project) (hboot : ¬ IsBootstrap store.host token) :
  resultClass (authorizeToken store token tenant project write) = none ↔
    (∃ g ∈ grants, g.Qualifies store.host store.now token tenant project write) ∨
      (trimSpace project = [] ∧ project ≠ [] ∧
        ∃ g ∈ grants, g.Allows store.host store.now token tenant write ∧ g.LeavesProjectOpen)
  := by
  have hany : grants.any (passes store.host store.now (trimSpace token) (trimSpace tenant)
      (requestProject project) write) = true ↔
        (∃ g ∈ grants, g.Qualifies store.host store.now token tenant project write) ∨
          (trimSpace project = [] ∧ project ≠ [] ∧
            ∃ g ∈ grants, g.Allows store.host store.now token tenant write ∧
              g.LeavesProjectOpen) := by
    rw [List.any_eq_true]
    constructor
    · rintro ⟨g, hg, hpass⟩
      obtain ⟨hallows, hcovers | ⟨hblank, hne, hopen⟩⟩ := (passes_iff hmac).mp hpass
      · left
        use g
        exact ⟨hg, hallows, hcovers⟩
      · right
        exact ⟨hblank, hne, g, hg, hallows, hopen⟩
    · rintro (⟨g, hg, hallows, hcovers⟩ | ⟨hblank, hne, g, hg, hallows, hopen⟩)
      · use g, hg
        apply (passes_iff hmac).mpr
        exact ⟨hallows, .inl hcovers⟩
      · use g, hg
        apply (passes_iff hmac).mpr
        exact ⟨hallows, .inr ⟨hblank, hne, hopen⟩⟩
  rw [authorizeToken_grants hgrants hnames hboot, ← hany]
  split_ifs with h
  · simp [h]
  · simp [h]
  · simp [h]

/-- It is forbidden when it does not succeed and some grant is for it. -/
theorem forbidden_iff (hgrants : store.authConfig = .ok grants)
    (hmac : ∀ salt, Function.Injective (store.host.hmacSHA256 salt))
    (hnames : ValidNames tenant project) (hboot : ¬ IsBootstrap store.host token) :
  resultClass (authorizeToken store token tenant project write) = some .forbidden ↔
    (∃ g ∈ grants, g.Matches store.host token) ∧
      resultClass (authorizeToken store token tenant project write) ≠ none
  := by
  have hany : grants.any (tokenGrantMatches store.host · (trimSpace token)) = true ↔
      ∃ g ∈ grants, g.Matches store.host token := by
    rw [List.any_eq_true]
    apply exists_congr
    intro g
    rw [tokenGrantMatches_trimSpace_iff hmac]
  rw [authorizeToken_grants hgrants hnames hboot, ← hany]
  split_ifs with h₁ h₂
  · simp
  · simp [h₂]
  · simp [h₂]

/-- A request without a project needs the explicit `*`. -/
theorem qualifies_blank_iff {g : TokenGrant} {host : Host} {now : Int}
    (hblank : trimSpace project = []) :
  g.Qualifies host now token tenant project write ↔
    g.Allows host now token tenant write ∧ g.NamesEveryProject
  := by
  simp [TokenGrant.Qualifies, TokenGrant.CoversProject, hblank]

end

/-- Authorisation is what the grants say unless the project consists of white space, some
grant allows the request and leaves the project open, and none allows it with a `*`. -/
theorem grantSemantics_iff (store : Store) (grants : List TokenGrant)
    (hgrants : store.authConfig = .ok grants)
    (hmac : ∀ salt, Function.Injective (store.host.hmacSHA256 salt)) (token tenant project : Str)
    (hnames : ValidNames tenant project) (write : Bool) :
  GrantSemantics store grants token tenant project write ↔
    (trimSpace project = [] → project ≠ [] → ¬ IsBootstrap store.host token →
      (∃ g ∈ grants, g.Allows store.host store.now token tenant write ∧ g.LeavesProjectOpen) →
      ∃ g ∈ grants, g.Allows store.host store.now token tenant write ∧ g.NamesEveryProject)
  := by
  constructor
  · intro h hblank hne hboot hopen
    have hok := (succeeds_iff hgrants hmac hnames hboot).mpr (.inr ⟨hblank, hne, hopen⟩)
    obtain ⟨g, hg, hq⟩ := (h.succeeds hboot).mp (resultClass_eq_none_iff.mp hok)
    use g, hg
    apply (qualifies_blank_iff hblank).mp hq
  · intro h
    have hsucceeds : ¬ IsBootstrap store.host token →
        (resultClass (authorizeToken store token tenant project write) = none ↔
          ∃ g ∈ grants, g.Qualifies store.host store.now token tenant project write) := by
      intro hboot
      rw [succeeds_iff hgrants hmac hnames hboot]
      constructor
      · rintro (hq | ⟨hblank, hne, hopen⟩)
        · exact hq
        · obtain ⟨g, hg, hnamed⟩ := h hblank hne hboot hopen
          use g, hg
          apply (qualifies_blank_iff hblank).mpr hnamed
      · exact .inl
    constructor
    · intro hboot
      rw [← resultClass_eq_none_iff, authorizeToken_bootstrap hnames hboot]
      rw [← bootstrapTokenValidityWindow_iff]
      cases bootstrapTokenValidityWindow store.host store.now <;> simp
    · intro hboot
      rw [← resultClass_eq_none_iff, hsucceeds hboot]
    · intro hboot
      rw [← resultClass_eq_some_iff, forbidden_iff hgrants hmac hnames hboot, ne_eq,
        hsucceeds hboot]
    · intro grants' hperm
      apply resultClass_perm hgrants hnames hperm

/-- A grant that leaves the project open, in a store whose environment says nothing. -/
def openStore : Store where
  host := { getenv := fun _ => [], parseRFC3339 := fun _ => none, hmacSHA256 := (· ++ ·) }
  now := 0
  authConfig := .ok [{ token := str "reader", tenant := str "acme", canRead := true }]

theorem openStore_hmac :
  ∀ salt, Function.Injective (openStore.host.hmacSHA256 salt)
  := by
  intro salt s t h
  apply List.append_cancel_left h

/-- A space is accepted for the project, and the grant answers for it without a `*`. -/
theorem grantSemantics_fails_on_blank_project :
  ValidNames (str "acme") (str " ") ∧
    ¬ GrantSemantics openStore [{ token := str "reader", tenant := str "acme", canRead := true }]
      (str "reader") (str "acme") (str " ") false
  := by
  constructor
  · exact ⟨⟨str "acme", by decide⟩, .inl (by decide)⟩
  · intro h
    have hboot : ¬ IsBootstrap openStore.host (str "reader") := fun hb => hb.1 rfl
    obtain ⟨g, hg, -, hcovers⟩ := (h.succeeds hboot).mp ⟨_, rfl⟩
    rw [List.mem_singleton] at hg
    rw [hg] at hcovers
    rcases hcovers with ⟨p, hp, -⟩ | ⟨hne, -⟩
    · cases hp
    · exact hne (by decide)

/-- The same request for no project at all is refused as it should be. -/
theorem grantSemantics_empty_project :
  GrantSemantics openStore [{ token := str "reader", tenant := str "acme", canRead := true }]
    (str "reader") (str "acme") [] false
  := by
  have hnames : ValidNames (str "acme") [] := ⟨⟨str "acme", by decide⟩, .inl rfl⟩
  apply (grantSemantics_iff openStore _ rfl openStore_hmac _ _ _ hnames false).mpr
  intro _ hne
  exact absurd rfl hne

/-! ### Hashed grants -/

/-- A grant that keeps the code of a token is for that token and no other. -/
theorem hashTokenGrant_matches {host : Host} {salt plaintext : Str} {grant g : TokenGrant}
    (hmac : ∀ salt, Function.Injective (host.hmacSHA256 salt))
    (hcode : ∀ salt message, host.hmacSHA256 salt message ≠ []) (hsalt : salt ≠ [])
    (h : hashTokenGrant host salt grant plaintext = .ok g) (token : Str) :
  tokenGrantMatches host g token = true ↔ trimSpace token = trimSpace plaintext
  := by
  rw [hashTokenGrant] at h
  split_ifs at h with hplain
  obtain rfl := Except.ok.inj h
  have hhash : hexEncode (host.hmacSHA256 salt (trimSpace plaintext)) ≠ [] := by
    intro hnil
    have hdecode := hexDecode_hexEncode (host.hmacSHA256 salt (trimSpace plaintext))
    rw [hnil] at hdecode
    exact hcode _ _ (Option.some.inj hdecode).symm
  have hrecords : TokenGrant.RecordsSecret host
      { grant with
        token := []
        tokenHashSalt := base64Encode salt
        tokenHash := hexEncode (host.hmacSHA256 salt (trimSpace plaintext)) }
      (trimSpace plaintext) := by
    refine ⟨hplain, ?_⟩
    rw [trimSpace_of_graphic (hexEncode_graphic _), if_neg hhash]
    refine ⟨salt, ?_, hsalt, hexDecode_hexEncode _, hcode _ _⟩
    rw [trimSpace_of_graphic (base64Encode_graphic _), base64Decode_base64Encode]
  rw [tokenGrantMatches_iff_recordsSecret]
  constructor
  · intro htoken
    apply htoken.unique hmac hrecords
  · intro htoken
    rw [htoken]
    exact hrecords

end CloudRegistry
