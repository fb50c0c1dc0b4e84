import BpfCompat.Api.WriteAuth
import BpfCompat.Go.Join

/-!
# The projects of an identity

The claims of a token may name a tenant and projects, and both are held against the tenant and the
project of a request.  Of the projects only the names that are left by `normalizeJWTProjectsClaim`
count, and where none is left the tenant alone decides.  A projects claim that is there but names
nothing is so the same as none.

A projects claim restricts its token to the projects it lists, exactly if it names one at all or the
tenant is refused anyway (`projects_claim_iff`).
-/

namespace Api

open Go Go.Json
open CloudRegistry (collectMultiValues)

/-! ### The source -/

section

variable [CaseTables]

def enforceWriteIdentityTenantProject (identity : WriteAuthIdentity) (tenant project : Str) :
    Except Str Unit :=
  if ¬ identityCarriesClaims identity then .ok ()
  else
    let tenant := trimSpace tenant
    let project := trimSpace project
    if tenant = [] ∨ project = [] then .ok ()
    else
      let identityTenant := trimSpace identity.tenant
      if identityTenant = [] ∧ identity.projects = [] then
        .error (str "identity has no tenant or projects claim; cannot authorize tenant " ++
          quote tenant ++ str " project " ++ quote project)
      else if identityTenant ≠ [] ∧ identityTenant ≠ tenant then
        .error (str "identity tenant " ++ quote identityTenant ++
          str " is not authorized for tenant " ++ quote tenant)
      else if identity.projects ≠ [] ∧ ¬ identity.projects.any fun candidate =>
          let candidate := trimSpace candidate
          candidate ≠ [] && (candidate = str "*" || candidate = project) then
        .error (str "identity token is not authorized for project " ++ quote project)
      else .ok ()

end

/-! ### What a claim lists -/

/-- The claims of a token, as its second segment has them. -/
def tokenClaims (host : Host) (token : Str) : Option (List (Str × Value)) :=
  match (trimSpace token).splitOn '.'.toUInt8 with
  | [_, body, _] =>
    (rawURLDecode body).bind fun raw =>
      (decodeMembers host (str "parse claims JSON: ") raw).toOption
  | _ => none

/-- The texts of a claim: it may be a text, or a list with texts in it and blanks around them. -/
def claimTexts : Value → List Str
  | .string text => [text]
  | .array entries => entries.filterMap fun
    | .string text => some (trimSpace text)
    | _ => none
  | _ => []

/-- A claim lists a name: it stands between the commas of one of its texts, with blanks around it. -/
def Lists (claim : Value) (name : Str) : Prop :=
  ∃ text ∈ claimTexts claim, ∃ part ∈ text.splitOn ','.toUInt8, trimSpace part = name

/-- The identity passes the check for a tenant and a project, both of them named. -/
def AuthorizedFor [CaseTables] (identity : WriteAuthIdentity) (tenant project : Str) : Prop :=
  trimSpace tenant ≠ [] ∧ trimSpace project ≠ [] ∧
    enforceWriteIdentityTenantProject identity tenant project = .ok ()

theorem mem_collectMultiValues {values : List Str} {name : Str} :
  name ∈ collectMultiValues values ↔
    name ≠ [] ∧ ∃ text ∈ values, ∃ part ∈ text.splitOn ','.toUInt8, trimSpace part = name
  := by
  rw [collectMultiValues, Registry.mem_dedupeSorted]
  simp only [List.mem_flatMap]
  constructor
  · rintro ⟨hname, part, ⟨text, htext, hpart⟩, htrim⟩
    exact ⟨hname, text, htext, part, hpart, htrim⟩
  · rintro ⟨hname, text, htext, part, hpart, htrim⟩
    exact ⟨hname, part, ⟨text, htext, hpart⟩, htrim⟩

/-- A blank text has no commas. -/
theorem trimSpace_of_mem_splitOn {text part : Str} (htext : trimSpace text = [])
    (hpart : part ∈ text.splitOn ','.toUInt8) :
  trimSpace part = []
  := by
  obtain ⟨before, after, hsplit, hbytes⟩ := trimSpace_split text
  have hcomma : ','.toUInt8 ∉ text := by
    rw [hsplit, htext, List.nil_append]
    intro hmem
    exact absurd (hbytes _ hmem) (by decide)
  rw [splitOn_of_notMem hcomma, List.mem_singleton] at hpart
  rw [hpart, htext]

theorem mem_claimTexts_array {entries : List Value} {text : Str} :
  text ∈ claimTexts (.array entries) ↔ ∃ s, Value.string s ∈ entries ∧ trimSpace s = text
  := by
  rw [claimTexts, List.mem_filterMap]
  constructor
  · rintro ⟨entry, hentry, htext⟩
    cases entry with
    | string s => exact ⟨s, hentry, Option.some.inj htext⟩
    | _ => cases htext
  · rintro ⟨s, hs, rfl⟩
    exact ⟨.string s, hs, rfl⟩

/-- The names a claim comes to are those it lists. -/
theorem mem_normalizeJWTProjectsClaim {claim : Value} {name : Str} :
  name ∈ normalizeJWTProjectsClaim (some claim) ↔ name ≠ [] ∧ Lists claim name
  := by
  cases claim with
  | string text =>
      rw [normalizeJWTProjectsClaim.eq_def, Lists, claimTexts]
      dsimp only
      split_ifs with htext
      · apply iff_of_false List.not_mem_nil
        rintro ⟨hname, text', htext', part, hpart, hlists⟩
        rw [List.mem_singleton.mp htext'] at hpart
        rw [trimSpace_of_mem_splitOn htext hpart] at hlists
        exact hname hlists.symm
      · rw [mem_collectMultiValues]
  | array entries =>
      have htexts : ∀ text, text ∈ (entries.map fun entry =>
          trimSpace (anyToString (some entry))).filter (· ≠ []) ↔
          text ≠ [] ∧ text ∈ claimTexts (.array entries) := by
        intro text
        rw [mem_claimTexts_array, List.mem_filter, List.mem_map, decide_eq_true_iff]
        constructor
        · rintro ⟨⟨entry, hentry, htext⟩, hne⟩
          cases entry with
          | string s => exact ⟨hne, s, hentry, htext⟩
          | _ => exact absurd htext.symm hne
        · rintro ⟨hne, s, hs, htext⟩
          exact ⟨⟨.string s, hs, htext⟩, hne⟩
      rw [normalizeJWTProjectsClaim.eq_def, Lists, mem_collectMultiValues]
      apply and_congr_right
      intro hname
      constructor
      · rintro ⟨text, htext, part, hpart, hlists⟩
        exact ⟨text, ((htexts text).mp htext).2, part, hpart, hlists⟩
      · rintro ⟨text, htext, part, hpart, hlists⟩
        refine ⟨text, (htexts text).mpr ⟨?_, htext⟩, part, hpart, hlists⟩
        -- a blank text has no name in it
        rintro rfl
        rw [trimSpace_of_mem_splitOn rfl hpart] at hlists
        exact hname hlists.symm
  | null => simp [normalizeJWTProjectsClaim, Lists, claimTexts]
  | bool b => simp [normalizeJWTProjectsClaim, Lists, claimTexts]
  | number text => simp [normalizeJWTProjectsClaim, Lists, claimTexts]
  | object ms => simp [normalizeJWTProjectsClaim, Lists, claimTexts]

/-! ### What a projects claim restricts -/

/-- The claim names a project at all. -/
def Names (claim : Value) : Prop := ∃ name, name ≠ [] ∧ Lists claim name

theorem normalizeJWTProjectsClaim_eq_nil_iff {claim : Value} :
  normalizeJWTProjectsClaim (some claim) = [] ↔ ¬Names claim
  := by
  rw [List.eq_nil_iff_forall_not_mem, Names, not_exists]
  exact forall_congr' fun name => mem_normalizeJWTProjectsClaim.not

/-- The identity of a token that is accepted is that of its claims. -/
theorem tokenClaims_of_parse [CaseTables] {host : Host} {cfg : WriteJWTVerificationConfig}
    {token : Str} {identity : WriteAuthIdentity}
    (hparse : parseWriteIdentityJWTContext host token cfg = .ok identity) :
  ∃ claims, tokenClaims host token = some claims ∧ identity = identityOfClaims claims
  := by
  obtain ⟨head, body, signature, sigRaw, claimsRaw, claims, hparts, -, -, hraw, hdecode, -, hidentity⟩ :=
    validToken_of_parse hparse
  refine ⟨claims, ?_, hidentity⟩
  rw [tokenClaims, hparts]
  dsimp only
  rw [hraw, Option.bind_some, hdecode]
  rfl

section

variable [CaseTables]

/-- The check of an identity that has projects, and of one that has none. -/
theorem authorizedFor_iff {identity : WriteAuthIdentity} {tenant project : Str}
    (hclaims : identityCarriesClaims identity = true)
    (htrim : ∀ name ∈ identity.projects, name ≠ [] ∧ trimSpace name = name) :
  AuthorizedFor identity tenant project ↔
    trimSpace tenant ≠ [] ∧ trimSpace project ≠ [] ∧
      (trimSpace identity.tenant = [] → identity.projects ≠ []) ∧
      (trimSpace identity.tenant ≠ [] → trimSpace identity.tenant = trimSpace tenant) ∧
      (identity.projects ≠ [] →
        str "*" ∈ identity.projects ∨ trimSpace project ∈ identity.projects)
  := by
  rw [AuthorizedFor, enforceWriteIdentityTenantProject, if_neg (by simp [hclaims])]
  apply and_congr_right
  intro htenant
  apply and_congr_right
  intro hproject
  have hany : (identity.projects.any fun candidate =>
      let candidate := trimSpace candidate
      candidate ≠ [] && (candidate = str "*" || candidate = trimSpace project)) = true ↔
      str "*" ∈ identity.projects ∨ trimSpace project ∈ identity.projects := by
    rw [List.any_eq_true]
    constructor
    · rintro ⟨name, hname, hcandidate⟩
      rw [(htrim name hname).2] at hcandidate
      simp only [Bool.and_eq_true, Bool.or_eq_true, decide_eq_true_iff] at hcandidate
      obtain ⟨-, rfl | rfl⟩ := hcandidate
      · exact .inl hname
      · exact .inr hname
    · rintro (hname | hname)
      · refine ⟨_, hname, ?_⟩
        rw [(htrim _ hname).2]
        simp [(htrim _ hname).1]
      · refine ⟨_, hname, ?_⟩
        rw [(htrim _ hname).2]
        simp [hproject]
  dsimp only
  rw [if_neg (by simp [htenant, hproject]), refuse_if_eq_ok_iff, refuse_if_eq_ok_iff,
    refuse_if_eq_ok_iff, hany]
  constructor
  · rintro ⟨hnone, hother, hlisted, -⟩
    refine ⟨fun ht hp => hnone ⟨ht, hp⟩, ?_, ?_⟩
    · intro ht
      by_contra hne
      exact hother ⟨ht, hne⟩
    · intro hp
      by_contra hnot
      exact hlisted ⟨hp, hnot⟩
  · rintro ⟨hnone, hother, hlisted⟩
    exact ⟨fun h => hnone h.1 h.2, fun h => h.2 (hother h.1), fun h => h.2 (hlisted h.1), rfl⟩

/-- A token with a projects claim is authorized only for the projects the claim lists, exactly if the
claim names a project at all, or the token names no tenant, or another one than is asked for. -/
theorem projects_claim_iff {host : Host} {cfg : WriteJWTVerificationConfig} {token : Str}
    {identity : WriteAuthIdentity} {claims : List (Str × Value)} {claim : Value}
    (hparse : parseWriteIdentityJWTContext host token cfg = .ok identity)
    (hclaims : tokenClaims host token = some claims)
    (hprojects : member claims "projects" = some claim) (tenant project : Str) :
  (AuthorizedFor identity tenant project →
      Lists claim (str "*") ∨ Lists claim (trimSpace project)) ↔
    Names claim ∨ trimSpace (anyToString (member claims "tenant")) ≠ trimSpace tenant ∨
      trimSpace tenant = [] ∨ trimSpace project = []
  := by
  obtain ⟨claims', hclaims', rfl⟩ := tokenClaims_of_parse hparse
  obtain rfl : claims = claims' := Option.some.inj (hclaims.symm.trans hclaims')
  have hidentity : (identityOfClaims claims).projects = normalizeJWTProjectsClaim (some claim) := by
    rw [← hprojects]
    rfl
  have htrim : ∀ name ∈ (identityOfClaims claims).projects, name ≠ [] ∧ trimSpace name = name := by
    intro name hname
    rw [hidentity, mem_normalizeJWTProjectsClaim] at hname
    obtain ⟨hne, text, htext, part, hpart, rfl⟩ := hname
    exact ⟨hne, trimSpace_trimSpace part⟩
  have htenant : trimSpace (identityOfClaims claims).tenant =
      trimSpace (anyToString (member claims "tenant")) := trimSpace_trimSpace _
  rw [authorizedFor_iff rfl htrim, htenant, hidentity]
  by_cases hnames : Names claim
  · have hsome : normalizeJWTProjectsClaim (some claim) ≠ [] :=
      normalizeJWTProjectsClaim_eq_nil_iff.not_left.mpr hnames
    apply iff_of_true _ (.inl hnames)
    rintro ⟨-, -, -, -, hlisted⟩
    obtain hall | hone := hlisted hsome
    · exact .inl (mem_normalizeJWTProjectsClaim.mp hall).2
    · exact .inr (mem_normalizeJWTProjectsClaim.mp hone).2
  · have hnone : normalizeJWTProjectsClaim (some claim) = [] :=
      normalizeJWTProjectsClaim_eq_nil_iff.mpr hnames
    constructor
    · -- the tenant alone decides
      intro honly
      by_contra hasked
      simp only [not_or, not_not] at hasked
      obtain ⟨-, hequal, hasked, hproject⟩ := hasked
      obtain hall | hone := honly
        ⟨hasked, hproject, fun h => absurd (hequal.symm.trans h) hasked, fun _ => hequal,
          fun h => absurd hnone h⟩
      · exact hnames ⟨_, by decide, hall⟩
      · exact hnames ⟨_, hproject, hone⟩
    · rintro (hnames' | hother | hblank | hblank) ⟨hasked, hproject, hneither, hequal, -⟩
      · exact absurd hnames' hnames
      · exact absurd (hequal fun h => hneither h hnone) hother
      · exact absurd hblank hasked
      · exact absurd hblank hproject

end

attribute [local instance] asciiCaseTables

/-- The segments of a token. -/
structure SignedSegments where
  head : Str
  body : Str
  signature : Str

def SignedSegments.token (s : SignedSegments) : Str :=
  s.head ++ str "." ++ s.body ++ str "." ++ s.signature

/-- The token of the claims `sub` ci, `exp` 4102444800, `tenant` acme and `projects` with the one entry demo. -/
def demoToken : SignedSegments where
  head := str "eyJhbGciOiJIUzI1NiJ9"
  body := str "eyJzdWIiOiJjaSIsImV4cCI6NDEwMjQ0NDgwMCwidGVuYW50IjoiYWNtZSIsInByb2plY3RzIjpbImRlbW8iXX0"
  signature := str "glvPGLZsdMjklBxpupcZU_YPsKVUDyBEAjw4PN6H8cY"

/-- The token of the same claims with an empty list of projects. -/
def emptyListToken : SignedSegments where
  head := str "eyJhbGciOiJIUzI1NiJ9"
  body := str "eyJzdWIiOiJjaSIsImV4cCI6NDEwMjQ0NDgwMCwidGVuYW50IjoiYWNtZSIsInByb2plY3RzIjpbXX0"
  signature := str "P2cb3OGBsFuYkoEsR9_7wpqZukPuFay3qwzc-Rno-ok"

/-- A server that shares a secret with the issuer, with the codes of the two tokens. -/
def sharedSecretHost : Host where
  getenv _ := []
  now := 1700000000
  keySet _ _ := .error []
  forceRefreshAllowed _ := false
  identityMap _ := .error []
  hmacSHA256 _ message :=
    (([demoToken, emptyListToken].find? fun s => s.head ++ str "." ++ s.body = message).bind fun s =>
      rawURLDecode s.signature).getD []
  sha256 _ := []
  verifyPKCS1v15 _ _ _ _ := false
  float64 := atoi
  base64Error _ := []
  jsonError _ := []

def sharedSecret : WriteJWTVerificationConfig where
  hs256Secret := str "s3cret"

def ciIdentity (projects : List Str) : WriteAuthIdentity where
  subject := str "ci"
  authType := str "jwt"
  tenant := str "acme"
  projects := projects

/-- The token of the project `demo` names a project, and is held to it. -/
theorem demo_token_restricted :
  ∃ claims claim,
    parseWriteIdentityJWTContext sharedSecretHost demoToken.token sharedSecret =
      .ok (ciIdentity [str "demo"]) ∧
    tokenClaims sharedSecretHost demoToken.token = some claims ∧
    member claims "projects" = some claim ∧ Names claim ∧
    (AuthorizedFor (ciIdentity [str "demo"]) (str "acme") (str "prod") →
      Lists claim (str "*") ∨ Lists claim (trimSpace (str "prod")))
  := by
  have hparse : parseWriteIdentityJWTContext sharedSecretHost demoToken.token sharedSecret =
      .ok (ciIdentity [str "demo"]) := by decide +kernel
  obtain ⟨claims, hclaims, hidentity⟩ := tokenClaims_of_parse hparse
  have hdemo : str "demo" ∈ normalizeJWTProjectsClaim (member claims "projects") := by
    have hmem : str "demo" ∈ (ciIdentity [str "demo"]).projects := List.mem_singleton_self _
    rw [hidentity] at hmem
    exact hmem
  cases hprojects : member claims "projects" with
  | none =>
      rw [hprojects] at hdemo
      cases hdemo
  | some claim =>
      rw [hprojects] at hdemo
      have hnames : Names claim := ⟨str "demo", mem_normalizeJWTProjectsClaim.mp hdemo⟩
      exact ⟨claims, claim, hparse, hclaims, hprojects, hnames,
        (projects_claim_iff hparse hclaims hprojects _ _).mpr (.inl hnames)⟩

/-- The projects claim of a token, where it is a list of texts. -/
def projectTexts (host : Host) (token : Str) : Option (List Str) :=
  match (tokenClaims host token).bind fun claims => member claims "projects" with
  | some (.array entries) => some (entries.map fun entry => anyToString (some entry))
  | _ => none

theorem claims_of_projectTexts {host : Host} {token : Str} {texts : List Str}
    (h : projectTexts host token = some texts) :
  ∃ claims entries, tokenClaims host token = some claims ∧
    member claims "projects" = some (.array entries) ∧
    entries.map (fun entry => anyToString (some entry)) = texts
  := by
  rw [projectTexts] at h
  cases hclaims : tokenClaims host token with
  | none =>
      rw [hclaims] at h
      cases h
  | some claims =>
      rw [hclaims, Option.bind_some] at h
      split at h
      · rename_i entries hentries
        exact ⟨claims, entries, rfl, hentries, Option.some.inj h⟩
      · cases h

/-- A token with an empty list of projects is authorized for every project of its tenant. -/
theorem empty_projects_authorize :
  ¬∀ identity claims claim,
    parseWriteIdentityJWTContext sharedSecretHost emptyListToken.token sharedSecret = .ok identity →
    tokenClaims sharedSecretHost emptyListToken.token = some claims →
    member claims "projects" = some claim →
    AuthorizedFor identity (str "acme") (str "prod") →
      Lists claim (str "*") ∨ Lists claim (trimSpace (str "prod"))
  := by
  intro h
  have hparse : parseWriteIdentityJWTContext sharedSecretHost emptyListToken.token sharedSecret =
      .ok (ciIdentity []) := by decide +kernel
  have htexts : projectTexts sharedSecretHost emptyListToken.token = some [] := by decide +kernel
  obtain ⟨claims, entries, hclaims, hprojects, hentries⟩ := claims_of_projectTexts htexts
  rw [List.map_eq_nil_iff] at hentries
  subst hentries
  have hauthorized : AuthorizedFor (ciIdentity []) (str "acme") (str "prod") :=
    ⟨by decide, by decide, by decide⟩
  obtain ⟨text, htext, -⟩ | ⟨text, htext, -⟩ := h _ _ _ hparse hclaims hprojects hauthorized
  · cases htext
  · cases htext

end Api
