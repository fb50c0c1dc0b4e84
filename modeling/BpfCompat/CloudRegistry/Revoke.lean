import BpfCompat.CloudRegistry.Authorize
import BpfCompat.Go.Collections

/-!
# Revocation

The command that revokes the grants of a subject removes whole grants.  It compares texts, where
authorisation matches patterns, so the two need not agree: a grant for every tenant stays and still
serves the tenant, and a grant for several projects goes as a whole.

A grant reaches some requests (`TokenGrant.Reaches`), and the scope of a revocation holds some.
Revocation does what it says where no usable grant of the subject reaches requests on both sides of
the scope (`revocation_exact`), and nowhere else: such a grant can neither stay nor go.
-/

namespace CloudRegistry

open Go

/-! ### The source -/

/-- The flags of the command. -/
structure RevokeFlags where
  subject : Str := []
  tenant : Str := []
  project : Str := []
  allTenants : Bool := false
  dryRun : Bool := false

/-- What the command comes to; the label of a scope in which no grant was found is left out. -/
inductive RevokeResult where
  | failed (message : Str)
  | notFound
  | wouldRemove (removed remaining : Nat)
  | removed (kept : List TokenGrant)

def tokenGrantMatchesRevokeScope (grant : TokenGrant) (subject tenant project : Str)
    (allTenants : Bool) : Bool :=
  if trimSpace grant.subject ≠ subject then false
  else if !allTenants ∧ trimSpace grant.tenant ≠ tenant then false
  else if project = [] then true
  else if grant.projects = [] then true
  else grant.projects.any fun candidate =>
    trimSpace candidate = str "*" || trimSpace candidate = project

/-- The command on the grants of the configuration; writing it back may fail. -/
def runAdminRevokeToken (flags : RevokeFlags) (authConfig : Except Str (List TokenGrant))
    (writeError : Option Str) : RevokeResult :=
  let subj := trimSpace flags.subject
  let tenantScope := trimSpace flags.tenant
  let projectScope := trimSpace flags.project
  if subj = [] then .failed (str "--subject is required")
  else if flags.allTenants ∧ tenantScope ≠ [] then
    .failed (str "--tenant cannot be combined with --all-tenants")
  else if !flags.allTenants ∧ tenantScope = [] then
    .failed (str "--tenant is required unless --all-tenants is set")
  else if flags.allTenants ∧ projectScope ≠ [] then
    .failed (str "--project requires --tenant; use tenant-scoped revoke for project-specific grants")
  else
    match authConfig with
    | .error e => .failed (str "load auth config: " ++ e)
    | .ok grants =>
      let kept := grants.filter fun g =>
        !tokenGrantMatchesRevokeScope g subj tenantScope projectScope flags.allTenants
      if kept.length = grants.length then .notFound
      else if flags.dryRun then .wouldRemove (grants.length - kept.length) kept.length
      else
        match writeError with
        | some e => .failed (str "write auth config: " ++ e)
        | none => .removed kept

/-! ### What a grant is good for -/

section

variable (host : Host)

/-- The grant by itself lets a token make a request. -/
def TokenGrant.Authorizes (grant : TokenGrant) (now : Int) (token tenant project : Str)
    (write : Bool) : Prop :=
  ¬ IsBootstrap host token ∧
    ∃ p, authorizeToken { host := host, now := now, authConfig := .ok [grant] } token tenant project
      write = .ok p

/-- A token may make a request on behalf of a subject. -/
def AuthorizedAs (grants : List TokenGrant) (subject : Str) (now : Int) (token tenant project : Str)
    (write : Bool) : Prop :=
  ∃ g ∈ grants, trimSpace g.subject = subject ∧ g.Authorizes host now token tenant project write

/-- The grant serves some token at some hour. -/
def TokenGrant.Serves (grant : TokenGrant) (now : Int) (token : Str) (write : Bool) : Prop :=
  ¬ IsBootstrap host token ∧ tokenGrantMatches host grant (trimSpace token) = true ∧
    grantValidityWindow host grant now = true ∧
    (if write then grant.canWrite else grant.canRead || grant.canWrite) = true

def TokenGrant.Usable (grant : TokenGrant) : Prop :=
  ∃ now token write, grant.Serves host now token write

/-- The grant is for the tenant and project of a request. -/
def TokenGrant.Reaches (grant : TokenGrant) (tenant project : Str) : Prop :=
  ValidNames tenant project ∧ matchScope (trimSpace tenant) (trimSpace grant.tenant) = true ∧
    (if requestProject project = [] then tenantWideAccess grant.projects
      else matchProject (requestProject project) grant.projects) = true

end

/-- The request is for the tenant of a revocation, and for its project if it has one. -/
def InScope (flags : RevokeFlags) (tenant project : Str) : Prop :=
  trimSpace tenant = trimSpace flags.tenant ∧
    (trimSpace flags.project = [] ∨ trimSpace project = trimSpace flags.project)

/-- No grant of the subject that is left authorises a request in the scope. -/
def Complete (host : Host) (flags : RevokeFlags) (kept : List TokenGrant) : Prop :=
  ∀ g ∈ kept, trimSpace g.subject = trimSpace flags.subject → ∀ now token tenant project write,
    InScope flags tenant project → ¬ g.Authorizes host now token tenant project write

/-- Outside the scope every token is authorised as before. -/
def Scoped (host : Host) (flags : RevokeFlags) (grants kept : List TokenGrant) : Prop :=
  ∀ subject now token tenant project write,
    subject ≠ trimSpace flags.subject ∨ ¬ InScope flags tenant project →
      (AuthorizedAs host kept subject now token tenant project write ↔
        AuthorizedAs host grants subject now token tenant project write)

/-- The grant reaches requests in the scope only, or none of them. -/
def OneSided (flags : RevokeFlags) (g : TokenGrant) : Prop :=
  ∀ tenant project tenant' project', g.Reaches tenant project → g.Reaches tenant' project' →
    InScope flags tenant project → InScope flags tenant' project'

/-- The flags name a tenant and a project that requests can have. -/
def NamesRequests (flags : RevokeFlags) : Prop :=
  ValidNames (trimSpace flags.tenant) (trimSpace flags.project)

/-- The usable grants of the subject are one-sided; where no request has the names of the flags,
as with `*`, none that reaches a request is taken for those names. -/
structure Clean (host : Host) (flags : RevokeFlags) (grants : List TokenGrant) : Prop where
  oneSided : ∀ g ∈ grants, trimSpace g.subject = trimSpace flags.subject → g.Usable host →
    OneSided flags g
  named : ¬ NamesRequests flags → ∀ g ∈ grants, g.Usable host →
    tokenGrantMatchesRevokeScope g (trimSpace flags.subject) (trimSpace flags.tenant)
      (trimSpace flags.project) false = true →
    ∀ tenant project, ¬ g.Reaches tenant project

/-- No token is for two grants of the subject. -/
def Unshared (host : Host) (flags : RevokeFlags) (grants : List TokenGrant) : Prop :=
  ∀ g ∈ grants, ∀ g' ∈ grants, trimSpace g.subject = trimSpace flags.subject →
    trimSpace g'.subject = trimSpace flags.subject → ∀ token,
      tokenGrantMatches host g token = true → tokenGrantMatches host g' token = true → g = g'

/-! ### What the command decides -/

/-- A request that is authorised has names that are accepted. -/
theorem validNames_of_authorizeToken {store : Store} {token tenant project : Str} {write : Bool}
    {p : Principal} (h : authorizeToken store token tenant project write = .ok p) :
  ValidNames tenant project
  := by
  rw [authorizeToken] at h
  obtain ⟨t, ht, h⟩ := bind_eq_ok_iff.mp h
  obtain ⟨q, hq, -⟩ := bind_eq_ok_iff.mp h
  constructor
  · cases hvalid : validateID (str "tenant") tenant with
    | error e =>
        rw [hvalid] at ht
        cases ht
    | ok t' => exact ⟨t', rfl⟩
  · by_cases hblank : trimSpace project = []
    · exact .inl hblank
    · right
      rw [if_pos hblank] at hq
      cases hvalid : validateID (str "project") project with
      | error e =>
          rw [hvalid] at hq
          cases hq
      | ok p' => exact ⟨p', rfl⟩

section

variable {host : Host} {now : Int} {token tenant project : Str} {write : Bool}
  {g : TokenGrant} {flags : RevokeFlags} {grants kept : List TokenGrant}

/-- A grant authorises what it reaches, for the tokens it serves. -/
theorem authorizes_iff :
  g.Authorizes host now token tenant project write ↔
    g.Serves host now token write ∧ g.Reaches tenant project
  := by
  rw [TokenGrant.Authorizes, TokenGrant.Serves, TokenGrant.Reaches]
  by_cases hboot : IsBootstrap host token
  · simp [hboot]
  · by_cases hnames : ValidNames tenant project
    · rw [← resultClass_eq_none_iff, authorizeToken_grants rfl hnames hboot]
      simp only [List.any_cons, List.any_nil, Bool.or_false, passes]
      cases tokenGrantMatches host g (trimSpace token) <;> cases grantValidityWindow host g now <;>
        cases matchScope (trimSpace tenant) (trimSpace g.tenant) <;>
        simp [hboot, hnames, and_comm]
    · simp only [hnames, false_and, and_false, iff_false, not_and]
      rintro - ⟨p, hp⟩
      apply hnames
      apply validNames_of_authorizeToken hp

theorem matchesRevokeScope_iff {subject tenant project : Str} :
  tokenGrantMatchesRevokeScope g subject tenant project false = true ↔
    trimSpace g.subject = subject ∧ trimSpace g.tenant = tenant ∧
      (project = [] ∨ g.projects = [] ∨
        ∃ c ∈ g.projects, trimSpace c = str "*" ∨ trimSpace c = project)
  := by
  rw [tokenGrantMatchesRevokeScope]
  split_ifs with hsubject htenant hproject hprojects
  · simp [hsubject]
  · simp [htenant.2]
  · simp_all
  · simp_all
  · simp_all

/-- What the command leaves, when it succeeds for a tenant. -/
theorem kept_of_removed {writeError : Option Str} (htenant : flags.allTenants = false)
    (h : runAdminRevokeToken flags (.ok grants) writeError = .removed kept) :
  trimSpace flags.tenant ≠ [] ∧
    ∀ g, g ∈ kept ↔ g ∈ grants ∧ ¬ tokenGrantMatchesRevokeScope g (trimSpace flags.subject)
      (trimSpace flags.tenant) (trimSpace flags.project) false = true
  := by
  rw [runAdminRevokeToken] at h
  simp only [htenant] at h
  split_ifs at h with h₁ h₂ h₃ h₄ h₅
  cases writeError with
  | some e => cases h
  | none =>
      cases h
      constructor
      · simpa using h₃
      · intro g
        rw [List.mem_filter]
        simp

/-- There is an identifier besides any text. -/
theorem exists_other_id (s : Str) :
  ∃ t, t ≠ s ∧ trimSpace t = t ∧ t ≠ [] ∧ ∀ field, validateID field t = .ok t
  := by
  have hid : ∀ t, trimSpace t = t → t ≠ [] → matchesIDPattern t = true →
      ∀ field, validateID field t = .ok t := by
    intro t htrim hne hpattern field
    rw [validateID, htrim, if_neg hne, hpattern]
    rfl
  by_cases ha : str "a" = s
  · use str "b"
    refine ⟨?_, by decide, by decide, ?_⟩
    · rw [← ha]
      decide
    · apply hid <;> decide
  · use str "a", ha
    refine ⟨by decide, by decide, ?_⟩
    apply hid <;> decide

/-! ### One-sided grants -/

theorem requestProject_of_ne {project : Str} (h : trimSpace project ≠ []) :
  requestProject project = trimSpace project
  := if_pos h

/-- A one-sided grant that reaches into the scope has no pattern for its tenant. -/
theorem OneSided.tenant_eq (h : OneSided flags g) (hreach : g.Reaches tenant project)
    (hin : InScope flags tenant project) :
  trimSpace g.tenant = trimSpace flags.tenant
  := by
  obtain ⟨t, hother, htrim, -, hid⟩ := exists_other_id (trimSpace flags.tenant)
  have hpattern : ¬ (trimSpace g.tenant = [] ∨ trimSpace g.tenant = str "*") := by
    intro hpattern
    have hcovers : g.CoversTenant t := hpattern.imp_right .inl
    have hreach' : g.Reaches t project :=
      ⟨⟨⟨t, hid _⟩, hreach.1.2⟩, matchScope_iff.mpr hcovers, hreach.2.2⟩
    have hin' := h _ _ _ _ hreach hreach' hin
    apply hother
    rw [← htrim]
    apply hin'.1
  rw [not_or] at hpattern
  have hcovers := matchScope_iff.mp hreach.2.1
  rw [← hin.1]
  apply (hcovers.resolve_left hpattern.1).resolve_left hpattern.2

/-- A one-sided grant that reaches into the scope is taken for it. -/
theorem OneSided.matches_scope (h : OneSided flags g)
    (hsubject : trimSpace g.subject = trimSpace flags.subject) (hreach : g.Reaches tenant project)
    (hin : InScope flags tenant project) :
  tokenGrantMatchesRevokeScope g (trimSpace flags.subject) (trimSpace flags.tenant)
    (trimSpace flags.project) false = true
  := by
  rw [matchesRevokeScope_iff]
  refine ⟨hsubject, h.tenant_eq hreach hin, ?_⟩
  by_cases hproject : trimSpace flags.project = []
  · exact .inl hproject
  · right
    have hsame := hin.2.resolve_left hproject
    have hne : trimSpace project ≠ [] := hsame ▸ hproject
    have hmatch := hreach.2.2
    rw [requestProject_of_ne hne, if_neg hne, matchProject_iff, hsame] at hmatch
    rcases hmatch with ⟨c, hc, hstar⟩ | (hnone | ⟨c, hc, hblank⟩) | ⟨c, hc, hname⟩
    · exact .inr ⟨c, hc, .inl hstar⟩
    · exact .inl hnone
    · -- a blank entry reaches every project, so the grant has two sides
      obtain ⟨q, hother, htrim, hq, hid⟩ := exists_other_id (trimSpace flags.project)
      have hne' : trimSpace q ≠ [] := htrim.symm ▸ hq
      have hreach' : g.Reaches tenant q := by
        refine ⟨⟨hreach.1.1, .inr ⟨q, hid _⟩⟩, hreach.2.1, ?_⟩
        rw [requestProject_of_ne hne', if_neg hne', matchProject_iff]
        exact .inr (.inl (.inr ⟨c, hc, hblank⟩))
      have hin' := h _ _ _ _ hreach hreach' hin
      exfalso
      apply hother
      rw [← htrim]
      apply hin'.2.resolve_left hproject
    · exact .inr ⟨c, hc, .inr hname⟩

/-- A grant that is taken for a scope of requests reaches requests in the scope only, or one of
them. -/
theorem reaches_scope (htenant : trimSpace flags.tenant ≠ []) (hnames : NamesRequests flags)
    (hmatch : tokenGrantMatchesRevokeScope g (trimSpace flags.subject) (trimSpace flags.tenant)
      (trimSpace flags.project) false = true) (hreach : g.Reaches tenant project) :
  InScope flags tenant project ∨ ∃ t q, g.Reaches t q ∧ InScope flags t q
  := by
  obtain ⟨-, hsame, hprojects⟩ := matchesRevokeScope_iff.mp hmatch
  obtain ⟨⟨t, ht⟩, hvalid⟩ := hnames
  by_cases hproject : trimSpace flags.project = []
  · left
    refine ⟨?_, .inl hproject⟩
    have hstar : trimSpace flags.tenant ≠ str "*" := by
      intro hstar
      rw [hstar] at ht
      revert ht
      have hbad : validateID (str "tenant") (str "*") = .error (str
          "tenant must match ^[A-Za-z0-9][A-Za-z0-9._-]\x7b0,63\x7d$") := by decide
      rw [hbad]
      intro hok
      cases hok
    have hcovers := matchScope_iff.mp hreach.2.1
    rw [TokenGrant.CoversTenant, hsame] at hcovers
    apply ((hcovers.resolve_left htenant).resolve_left hstar).symm
  · right
    have hne : trimSpace (trimSpace flags.project) ≠ [] := by
      rw [trimSpace_trimSpace]
      exact hproject
    refine ⟨trimSpace flags.tenant, trimSpace flags.project, ⟨⟨⟨t, ht⟩, hvalid⟩, ?_, ?_⟩, ?_⟩
    · rw [matchScope_iff, TokenGrant.CoversTenant, hsame, trimSpace_trimSpace]
      exact .inr (.inr rfl)
    · rw [requestProject_of_ne hne, if_neg hne, matchProject_iff, trimSpace_trimSpace]
      rcases hprojects with hnone | hopen | ⟨c, hc, hstar | hname⟩
      · exact absurd hnone hproject
      · exact .inr (.inl (.inl hopen))
      · exact .inl ⟨c, hc, hstar⟩
      · exact .inr (.inr ⟨c, hc, hname⟩)
    · exact ⟨trimSpace_trimSpace _, .inr (trimSpace_trimSpace _)⟩

/-! ### Revocation -/

/-- Clean grants leave nothing behind in the scope. -/
theorem Clean.complete (hclean : Clean host flags grants)
    (hkept : ∀ g, g ∈ kept ↔ g ∈ grants ∧ ¬ tokenGrantMatchesRevokeScope g
      (trimSpace flags.subject) (trimSpace flags.tenant) (trimSpace flags.project) false = true) :
  Complete host flags kept
  := by
  intro g hg hsubject now token tenant project write hin hauthorizes
  obtain ⟨hserves, hreach⟩ := authorizes_iff.mp hauthorizes
  obtain ⟨hmem, hstays⟩ := (hkept g).mp hg
  apply hstays
  apply OneSided.matches_scope _ hsubject hreach hin
  apply hclean.oneSided g hmem hsubject
  exact ⟨now, token, write, hserves⟩

/-- Clean grants that go have nothing outside the scope. -/
theorem Clean.scoped (hclean : Clean host flags grants) (htenant : trimSpace flags.tenant ≠ [])
    (hkept : ∀ g, g ∈ kept ↔ g ∈ grants ∧ ¬ tokenGrantMatchesRevokeScope g
      (trimSpace flags.subject) (trimSpace flags.tenant) (trimSpace flags.project) false = true) :
  Scoped host flags grants kept
  := by
  intro subject now token tenant project write hout
  constructor
  · rintro ⟨g, hg, hsubject, hauthorizes⟩
    exact ⟨g, ((hkept g).mp hg).1, hsubject, hauthorizes⟩
  · rintro ⟨g, hg, hsubject, hauthorizes⟩
    refine ⟨g, (hkept g).mpr ⟨hg, ?_⟩, hsubject, hauthorizes⟩
    intro hmatch
    obtain ⟨hserves, hreach⟩ := authorizes_iff.mp hauthorizes
    have hsame := (matchesRevokeScope_iff.mp hmatch).1
    have husable : g.Usable host := ⟨now, token, write, hserves⟩
    have hbeyond : ¬ InScope flags tenant project :=
      hout.resolve_left (fun hne => hne (hsubject.symm.trans hsame))
    by_cases hnames : NamesRequests flags
    · rcases reaches_scope htenant hnames hmatch hreach with hin | ⟨t, q, hreach', hin⟩
      · exact hbeyond hin
      · apply hbeyond
        apply hclean.oneSided g hg hsame husable _ _ _ _ hreach' hreach hin
    · apply hclean.named hnames g hg husable hmatch _ _ hreach

/-- A grant that goes has nothing outside the scope, where no other grant is for its tokens. -/
theorem Scoped.inScope (hscoped : Scoped host flags grants kept)
    (hkept : ∀ g, g ∈ kept ↔ g ∈ grants ∧ ¬ tokenGrantMatchesRevokeScope g
      (trimSpace flags.subject) (trimSpace flags.tenant) (trimSpace flags.project) false = true)
    (hunshared : Unshared host flags grants) (hg : g ∈ grants) (husable : g.Usable host)
    (hmatch : tokenGrantMatchesRevokeScope g (trimSpace flags.subject) (trimSpace flags.tenant)
      (trimSpace flags.project) false = true) (hreach : g.Reaches tenant project) :
  InScope flags tenant project
  := by
  obtain ⟨now, token, write, hserves⟩ := husable
  have hsubject := (matchesRevokeScope_iff.mp hmatch).1
  by_contra hout
  obtain ⟨g', hg', hsubject', hauthorizes⟩ :=
    (hscoped _ now token tenant project write (.inr hout)).mpr
      ⟨g, hg, hsubject, authorizes_iff.mpr ⟨hserves, hreach⟩⟩
  obtain ⟨hmem, hstays⟩ := (hkept g').mp hg'
  apply hstays
  have hserves' := (authorizes_iff.mp hauthorizes).1
  rw [← hunshared g hg g' hmem hsubject hsubject' _ hserves.2.1 hserves'.2.1]
  apply hmatch

theorem clean_of_exact (hkept : ∀ g, g ∈ kept ↔ g ∈ grants ∧ ¬ tokenGrantMatchesRevokeScope g
      (trimSpace flags.subject) (trimSpace flags.tenant) (trimSpace flags.project) false = true)
    (hunshared : Unshared host flags grants) (hcomplete : Complete host flags kept)
    (hscoped : Scoped host flags grants kept) :
  Clean host flags grants
  := by
  constructor
  · intro g hg hsubject husable tenant project tenant' project' hreach hreach' hin
    by_cases hmatch : tokenGrantMatchesRevokeScope g (trimSpace flags.subject)
        (trimSpace flags.tenant) (trimSpace flags.project) false = true
    · apply hscoped.inScope hkept hunshared hg husable hmatch hreach'
    · obtain ⟨now, token, write, hserves⟩ := husable
      exfalso
      apply hcomplete g ((hkept g).mpr ⟨hg, hmatch⟩) hsubject now token tenant project write hin
      apply authorizes_iff.mpr ⟨hserves, hreach⟩
  · intro hnames g hg husable hmatch tenant project hreach
    have hin := hscoped.inScope hkept hunshared hg husable hmatch hreach
    apply hnames
    obtain ⟨⟨⟨t, ht⟩, hvalid⟩, -⟩ := hreach
    constructor
    · use t
      rw [← hin.1, validateID, trimSpace_trimSpace]
      apply ht
    · rw [trimSpace_trimSpace]
      rcases hin.2 with hnone | hsame
      · exact .inl hnone
      · rw [← hsame]
        apply hvalid.imp_right
        rintro ⟨q, hq⟩
        use q
        rw [validateID, trimSpace_trimSpace]
        apply hq

end

/-- Revocation for a tenant removes what the subject may do in the scope and nothing else if its
usable grants lie on one side of the scope each, and, where they do not share tokens, only then. -/
theorem revocation_exact (host : Host) (flags : RevokeFlags) (grants kept : List TokenGrant)
    (writeError : Option Str) (htenant : flags.allTenants = false)
    (h : runAdminRevokeToken flags (.ok grants) writeError = .removed kept) :
  (Clean host flags grants → Complete host flags kept ∧ Scoped host flags grants kept) ∧
    (Unshared host flags grants →
      Complete host flags kept ∧ Scoped host flags grants kept → Clean host flags grants)
  := by
  obtain ⟨hne, hkept⟩ := kept_of_removed htenant h
  constructor
  · intro hclean
    exact ⟨hclean.complete hkept, hclean.scoped hne hkept⟩
  · rintro hunshared ⟨hcomplete, hscoped⟩
    apply clean_of_exact hkept hunshared hcomplete hscoped

/-! ### Two revocations -/

/-- A grant to read, for some projects of one tenant. -/
def readGrant (token : String) (projects : List String) : TokenGrant where
  token := str token
  subject := str "svc"
  tenant := str "acme"
  projects := projects.map str
  canRead := true

def demoFlags : RevokeFlags where
  subject := str "svc"
  tenant := str "acme"
  project := str "demo"

theorem oneSided_readGrant :
  OneSided demoFlags (readGrant "reader" ["demo"])
  := by
  rintro tenant project tenant' project' - ⟨-, htenant, hproject⟩ -
  constructor
  · have hcovers := matchScope_iff.mp htenant
    have hnamed : trimSpace (readGrant "reader" ["demo"]).tenant = str "acme" := by decide
    rw [TokenGrant.CoversTenant, hnamed] at hcovers
    have hflags : trimSpace demoFlags.tenant = str "acme" := by decide
    rw [hflags]
    rcases hcovers with hnone | hstar | hsame
    · cases hnone
    · exact absurd hstar (by decide)
    · exact hsame.symm
  · right
    have hdemo : trimSpace (str "demo") = str "demo" := by decide
    have hpatterns : (readGrant "reader" ["demo"]).projects = [str "demo"] := rfl
    have hflags : trimSpace demoFlags.project = str "demo" := by decide
    have hname : requestProject project' = str "demo" := by
      rw [hpatterns] at hproject
      split_ifs at hproject with hblank
      · exact absurd hproject (by decide)
      · simp only [matchProject, List.isEmpty_cons, List.any_cons, List.any_nil, hdemo,
          Bool.false_or, Bool.or_false, Bool.or_eq_true, decide_eq_true_eq] at hproject
        rcases hproject with (hnone | hstar) | hsame
        · exact absurd hnone (by decide)
        · exact absurd hstar (by decide)
        · exact hsame
    rw [hflags]
    rw [requestProject] at hname
    split_ifs at hname with hne
    · exact hname
    · rw [hname, hdemo] at hne
      exact absurd (by decide) hne

/-- A grant for one project is revoked with nothing else. -/
theorem revocation_exact_demo :
  runAdminRevokeToken demoFlags (.ok [readGrant "reader" ["demo"]]) none = .removed [] ∧
    Complete openStore.host demoFlags [] ∧
    Scoped openStore.host demoFlags [readGrant "reader" ["demo"]] []
  := by
  have hrun : runAdminRevokeToken demoFlags (.ok [readGrant "reader" ["demo"]]) none
      = .removed [] := by rfl
  use hrun
  apply (revocation_exact openStore.host demoFlags [readGrant "reader" ["demo"]] [] none rfl hrun).1
  constructor
  · intro g hg _ _
    rw [List.mem_singleton] at hg
    rw [hg]
    apply oneSided_readGrant
  · intro hnames
    exfalso
    apply hnames
    exact ⟨⟨str "acme", by decide⟩, .inr ⟨str "demo", by decide⟩⟩

/-- Revoking one project leaves a grant whose list of projects has a blank entry, which still
serves the project, and takes a grant for two projects, so that the other one is lost as well. -/
theorem revocation_incomplete_and_unscoped :
  runAdminRevokeToken demoFlags
      (.ok [readGrant "open" [""], readGrant "both" ["demo", "prod"]]) none
        = .removed [readGrant "open" [""]] ∧
    ¬ Complete openStore.host demoFlags [readGrant "open" [""]] ∧
    ¬ Scoped openStore.host demoFlags [readGrant "open" [""], readGrant "both" ["demo", "prod"]]
      [readGrant "open" [""]]
  := by
  have hboot : ∀ token, ¬ IsBootstrap openStore.host token := fun _ hb => hb.1 rfl
  refine ⟨by rfl, ?_, ?_⟩
  · intro h
    apply h _ (List.mem_singleton_self _) (by decide) 0 (str "open") (str "acme")
      (str "demo") false ⟨by decide, .inr (by decide)⟩
    exact ⟨hboot _, _, rfl⟩
  · intro h
    have hout : ¬ InScope demoFlags (str "acme") (str "prod") := by
      rintro ⟨-, hnone | hsame⟩
      · exact absurd hnone (by decide)
      · exact absurd hsame (by decide)
    have hbefore : AuthorizedAs openStore.host
        [readGrant "open" [""], readGrant "both" ["demo", "prod"]] (str "svc") 0 (str "both")
          (str "acme") (str "prod") false :=
      ⟨_, List.mem_cons_of_mem _ (List.mem_singleton_self _), by decide, hboot _, _, rfl⟩
    obtain ⟨g, hg, -, -, p, hp⟩ :=
      (h (str "svc") 0 (str "both") (str "acme") (str "prod") false (.inr hout)).mpr hbefore
    rw [List.mem_singleton] at hg
    rw [hg] at hp
    cases hp

end CloudRegistry
