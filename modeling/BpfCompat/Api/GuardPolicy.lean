import BpfCompat.FirstMatch
import BpfCompat.Agent.LoadPolicy

/-!
# The guard of the execute endpoint

The server keeps a policy of its own that says which artifacts may be executed on its host.  Its
rules are lists of names; the first rule that matches decides, and where none matches the default
action does.  Before it decides, the endpoint asks the policy whether a probe of the host and the
manifest of the artifact are needed at all (`runtimeExecutePolicyNeedsHostProbe`,
`runtimeExecutePolicyNeedsManifest`), and gathers only what is.

Whether the manifest is needed is answered right.  Whether the probe is needed is not: when a
target profile is requested, the rules that name profiles are taken not to need the probe, but the
profile that the probed host is like is one of the profiles they are matched with.  The decision
does not depend on the probe exactly when no rule that the host's own profile brings to match
stands ahead of the deciding one, or it decides the same (`guard_context_suffices_iff`).
-/

namespace Api

open Go Registry Runtime
open Agent (Manifest Program)

/-! ### The source -/

structure RuntimeExecuteGuardRule where
  name : Str := []
  action : Str := []
  tenants : List Str := []
  projects : List Str := []
  artifacts : List Str := []
  profiles : List Str := []
  programTypes : List Str := []
  attachKinds : List Str := []
  kernelMin : Str := []
  kernelMax : Str := []
  requireVerifiedHistory : Option Bool := none
deriving DecidableEq

structure RuntimeExecuteGuardPolicy where
  schemaVersion : Str := []
  defaultAction : Str := []
  rules : List RuntimeExecuteGuardRule := []

structure RuntimeExecuteGuardContext where
  tenant : Str := []
  project : Str := []
  artifactName : Str := []
  targetProfileID : Str := []
  selectedRecord : ArtifactVersionRecord := {}
  hostProbe : Option HostCapabilities := none
  historyVerified : Bool := false
  manifest : Option Manifest := none

structure RuntimeExecuteGuardDecision where
  allowed : Bool
  ruleName : Str
  action : Str
  reason : Str
deriving DecidableEq

structure KernelVersion where
  major : Int := 0
  minor : Int := 0
  patch : Int := 0
deriving DecidableEq

/-- A run of digits as a number; one that no `int` holds is read as the largest. -/
def digitsValue (digits : Str) : Int := (atoi digits).getD (2 ^ 63 - 1)

/-- The version at the start of a text, `major.minor` with an optional `.patch`. -/
def parseKernelVersion (raw : Str) : Option KernelVersion :=
  let raw := trimSpace raw
  let major := raw.takeWhile isDecimal
  let afterMajor := raw.dropWhile isDecimal
  let minor := afterMajor.tail.takeWhile isDecimal
  let afterMinor := afterMajor.tail.dropWhile isDecimal
  let patch := if afterMinor.head? = some 46 then afterMinor.tail.takeWhile isDecimal else []
  if major = [] ∨ afterMajor.head? ≠ some 46 ∨ minor = [] then none
  else
    some {
      major := digitsValue major
      minor := digitsValue minor
      patch := if patch = [] then 0 else digitsValue patch }

def compareKernelVersion (a b : KernelVersion) : Int :=
  if a.major < b.major then -1
  else if b.major < a.major then 1
  else if a.minor < b.minor then -1
  else if b.minor < a.minor then 1
  else if a.patch < b.patch then -1
  else if b.patch < a.patch then 1
  else 0

/-- Whether a value is one of the patterns; no patterns admit every value. -/
def matchStringPatterns (value : Str) (patterns : List Str) : Bool :=
  patterns = [] || patterns.any fun pattern =>
    trimSpace pattern = str "*" || trimSpace pattern = trimSpace value

def matchAnyPattern (values patterns : List Str) : Bool :=
  patterns = [] || values.any fun value => matchStringPatterns value patterns

/-- A rule bounds the kernel of the host. -/
def boundsKernel (rule : RuntimeExecuteGuardRule) : Bool :=
  trimSpace rule.kernelMin ≠ [] || trimSpace rule.kernelMax ≠ []

/-- The kernel of the host is within the bounds of a rule. -/
def kernelWithin (rule : RuntimeExecuteGuardRule) (ctx : RuntimeExecuteGuardContext) : Bool :=
  !boundsKernel rule ||
    match ctx.hostProbe.bind fun host => parseKernelVersion host.kernelRelease with
    | none => false
    | some hostVersion =>
      (trimSpace rule.kernelMin = [] ||
        0 ≤ compareKernelVersion hostVersion ((parseKernelVersion rule.kernelMin).getD {})) &&
      (trimSpace rule.kernelMax = [] ||
        compareKernelVersion hostVersion ((parseKernelVersion rule.kernelMax).getD {}) ≤ 0)

def runtimeExecutePolicyNeedsHostProbe (policy : RuntimeExecuteGuardPolicy)
    (targetProfile : Str) : Bool :=
  policy.rules.any fun rule =>
    boundsKernel rule || trimSpace targetProfile = [] && rule.profiles ≠ []

def runtimeExecutePolicyNeedsManifest (policy : RuntimeExecuteGuardPolicy) : Bool :=
  policy.rules.any fun rule => rule.programTypes ≠ [] || rule.attachKinds ≠ []

section

variable [CaseTables]

def normalizePolicyAction (value : Str) : Str := toLower (trimSpace value)

/-- The profiles an execution is for: the requested one, those the record supports and the one the
probed host is like. -/
def runtimeExecuteProfileCandidates (ctx : RuntimeExecuteGuardContext) : List Str :=
  collect [] ((([ctx.targetProfileID] ++ ctx.selectedRecord.supportedProfiles ++
    (ctx.hostProbe.map hostProfileHint).toList).map fun v => toLower (trimSpace v)).filter (· ≠ []))

/-- A list of a rule that looks at the programs of the manifest, the unnamed ones passed over. -/
def matchPrograms (field : Program → Str) (patterns : List Str)
    (ctx : RuntimeExecuteGuardContext) : Bool :=
  patterns = [] ||
    match ctx.manifest with
    | none => false
    | some m => m.programs.any fun program =>
        let value := toUpper (trimSpace (field program))
        value ≠ [] && matchStringPatterns value patterns

/-- The profiles of a rule admit one of the profiles an execution is for. -/
def profilesMatch (rule : RuntimeExecuteGuardRule) (ctx : RuntimeExecuteGuardContext) : Bool :=
  rule.profiles = [] || matchAnyPattern (runtimeExecuteProfileCandidates ctx) rule.profiles

/-- What a rule asks for that neither the host nor the manifest decides. -/
def scopeMatches (rule : RuntimeExecuteGuardRule) (ctx : RuntimeExecuteGuardContext) : Bool :=
  matchStringPatterns (toLower (trimSpace ctx.tenant)) rule.tenants &&
  matchStringPatterns (toLower (trimSpace ctx.project)) rule.projects &&
  matchStringPatterns (toLower (trimSpace ctx.artifactName)) rule.artifacts &&
  rule.requireVerifiedHistory.all (· = ctx.historyVerified)

def runtimeExecuteRuleMatches (rule : RuntimeExecuteGuardRule)
    (ctx : RuntimeExecuteGuardContext) : Bool :=
  scopeMatches rule ctx && profilesMatch rule ctx && kernelWithin rule ctx &&
  matchPrograms Program.type rule.programTypes ctx &&
  matchPrograms Program.attachKind rule.attachKinds ctx

/-- What a rule that matches decides. -/
def ruleDecision (rule : RuntimeExecuteGuardRule) : RuntimeExecuteGuardDecision where
  allowed := rule.action = str "allow"
  ruleName := rule.name
  action := rule.action
  reason := str "matched policy rule " ++ quote rule.name

/-- What is decided when no rule matches. -/
def defaultDecision (policy : RuntimeExecuteGuardPolicy) : RuntimeExecuteGuardDecision :=
  let defaultAction := normalizePolicyAction policy.defaultAction
  let defaultAction := if defaultAction = [] then str "allow" else defaultAction
  { allowed := defaultAction = str "allow"
    ruleName := str "default"
    action := defaultAction
    reason := str "no policy rule matched; default_action applied" }

def evaluateRuntimeExecuteGuardPolicy (policy : RuntimeExecuteGuardPolicy)
    (ctx : RuntimeExecuteGuardContext) : RuntimeExecuteGuardDecision :=
  match policy.rules.find? fun rule => runtimeExecuteRuleMatches rule ctx with
  | some rule => ruleDecision rule
  | none => defaultDecision policy

/-- What the endpoint can find out where it has to: the probe of the host, and the manifest that
the selected record names. -/
structure GuardSources where
  probe : Except Str HostCapabilities
  manifest : Except Str Manifest

/-- The probe the guard decides on.  The selection of the record may have made one already. -/
def gatherProbe (policy : RuntimeExecuteGuardPolicy) (targetProfile : Str)
    (probed : Option HostCapabilities) (sources : GuardSources) :
    Except Str (Option HostCapabilities) :=
  match probed with
  | some probe => .ok (some probe)
  | none =>
    if runtimeExecutePolicyNeedsHostProbe policy targetProfile then sources.probe.map some
    else .ok none

/-- The manifest the guard decides on. -/
def gatherManifest (policy : RuntimeExecuteGuardPolicy) (sources : GuardSources) :
    Except Str (Option Manifest) :=
  if runtimeExecutePolicyNeedsManifest policy then sources.manifest.map some else .ok none

/-- The guard of the endpoint. -/
def guardExecute (policy : RuntimeExecuteGuardPolicy) (ctx : RuntimeExecuteGuardContext)
    (probed : Option HostCapabilities) (sources : GuardSources) :
    Except Str RuntimeExecuteGuardDecision := do
  let hostProbe ← gatherProbe policy ctx.targetProfileID probed sources
  let manifest ← gatherManifest policy sources
  .ok (evaluateRuntimeExecuteGuardPolicy policy
    { ctx with hostProbe := hostProbe, manifest := manifest })

/-! ### What a probe and a manifest can change -/

/-- The context without a probe. -/
def RuntimeExecuteGuardContext.unprobed (ctx : RuntimeExecuteGuardContext) :
    RuntimeExecuteGuardContext :=
  { ctx with hostProbe := none }

/-- The context with a probe. -/
def RuntimeExecuteGuardContext.probed (ctx : RuntimeExecuteGuardContext)
    (probe : HostCapabilities) : RuntimeExecuteGuardContext :=
  { ctx with hostProbe := some probe }

/-- The profile that a host is like, as rules are matched with it. -/
def hintOf (probe : HostCapabilities) : Str := toLower (trimSpace (hostProfileHint probe))

/-- The profiles of a rule admit the profile that a host is like. -/
def admitsHint (rule : RuntimeExecuteGuardRule) (probe : HostCapabilities) : Bool :=
  hintOf probe ≠ [] && matchStringPatterns (hintOf probe) rule.profiles

theorem mem_candidates_probed {ctx : RuntimeExecuteGuardContext} {probe : HostCapabilities}
    {v : Str} :
  v ∈ runtimeExecuteProfileCandidates (ctx.probed probe) ↔
    v ∈ runtimeExecuteProfileCandidates ctx.unprobed ∨ v = hintOf probe ∧ v ≠ []
  := by
  have hhint : v ∈ ([hostProfileHint probe].map fun v => toLower (trimSpace v)).filter (· ≠ []) ↔
      v = hintOf probe ∧ v ≠ [] := by
    rw [List.map_singleton, List.mem_filter, List.mem_singleton, decide_eq_true_eq, hintOf]
  rw [runtimeExecuteProfileCandidates, runtimeExecuteProfileCandidates, mem_collect, mem_collect,
    ← hhint]
  simp only [RuntimeExecuteGuardContext.probed, RuntimeExecuteGuardContext.unprobed,
    Option.map_some, Option.toList_some, Option.map_none, Option.toList_none, List.append_nil,
    List.map_append, List.filter_append, List.mem_append, or_assoc]

/-- The probed host adds the profile it is like to those a rule may name. -/
theorem profilesMatch_probed (rule : RuntimeExecuteGuardRule) (ctx : RuntimeExecuteGuardContext)
    (probe : HostCapabilities) :
  profilesMatch rule (ctx.probed probe) = true ↔
    profilesMatch rule ctx.unprobed = true ∨ admitsHint rule probe = true
  := by
  simp only [profilesMatch, matchAnyPattern, admitsHint, Bool.or_eq_true, Bool.and_eq_true,
    List.any_eq_true, decide_eq_true_eq]
  constructor
  · rintro (hnil | hnil | ⟨v, hv, hmatch⟩)
    · exact .inl (.inl hnil)
    · exact .inl (.inl hnil)
    · rw [mem_candidates_probed] at hv
      rcases hv with hv | ⟨hhint, hne⟩
      · exact .inl (.inr (.inr ⟨v, hv, hmatch⟩))
      · rw [hhint] at hne hmatch
        exact .inr ⟨hne, hmatch⟩
  · rintro ((hnil | hnil | ⟨v, hv, hmatch⟩) | ⟨hne, hmatch⟩)
    · exact .inl hnil
    · exact .inl hnil
    · exact .inr (.inr ⟨v, mem_candidates_probed.mpr (.inl hv), hmatch⟩)
    · exact .inr (.inr ⟨hintOf probe, mem_candidates_probed.mpr (.inr ⟨rfl, hne⟩), hmatch⟩)

/-- The profile that a host is like is what brings a rule to match. -/
structure BroughtByHint (rule : RuntimeExecuteGuardRule) (ctx : RuntimeExecuteGuardContext)
    (probe : HostCapabilities) : Prop where
  scope : scopeMatches rule ctx = true
  types : matchPrograms Program.type rule.programTypes ctx = true
  kinds : matchPrograms Program.attachKind rule.attachKinds ctx = true
  unmatched : profilesMatch rule ctx.unprobed = false
  hint : admitsHint rule probe = true

omit [CaseTables] in
theorem boundsKernel_of_needs {policy : RuntimeExecuteGuardPolicy} {target : Str}
    (h : runtimeExecutePolicyNeedsHostProbe policy target = false)
    {rule : RuntimeExecuteGuardRule} (hrule : rule ∈ policy.rules) :
  boundsKernel rule = false
  := by
  rw [runtimeExecutePolicyNeedsHostProbe, List.any_eq_false] at h
  have hneeds := h rule hrule
  rw [Bool.not_eq_true, Bool.or_eq_false_iff] at hneeds
  exact hneeds.1

/-- Without bounds on the kernel, the probe only adds the profile that the host is like. -/
theorem matches_probed_iff {rule : RuntimeExecuteGuardRule} (hbounds : boundsKernel rule = false)
    (ctx : RuntimeExecuteGuardContext) (probe : HostCapabilities) :
  runtimeExecuteRuleMatches rule (ctx.probed probe) = true ↔
    runtimeExecuteRuleMatches rule ctx.unprobed = true ∨ BroughtByHint rule ctx probe
  := by
  have hkernel : ∀ ctx', kernelWithin rule ctx' = true := by
    intro ctx'
    rw [kernelWithin, hbounds]
    rfl
  have hprobed : runtimeExecuteRuleMatches rule (ctx.probed probe) = true ↔
      scopeMatches rule ctx = true ∧ profilesMatch rule (ctx.probed probe) = true ∧
        matchPrograms Program.type rule.programTypes ctx = true ∧
        matchPrograms Program.attachKind rule.attachKinds ctx = true := by
    simp only [runtimeExecuteRuleMatches, hkernel, Bool.and_eq_true, and_true, and_assoc]
    rfl
  have hunprobed : runtimeExecuteRuleMatches rule ctx.unprobed = true ↔
      scopeMatches rule ctx = true ∧ profilesMatch rule ctx.unprobed = true ∧
        matchPrograms Program.type rule.programTypes ctx = true ∧
        matchPrograms Program.attachKind rule.attachKinds ctx = true := by
    simp only [runtimeExecuteRuleMatches, hkernel, Bool.and_eq_true, and_true, and_assoc]
    rfl
  rw [hprobed, hunprobed, profilesMatch_probed]
  constructor
  · rintro ⟨hscope, hprofiles, htypes, hkinds⟩
    cases hmatch : profilesMatch rule ctx.unprobed with
    | true => exact .inl ⟨hscope, rfl, htypes, hkinds⟩
    | false =>
        rw [hmatch] at hprofiles
        exact .inr ⟨hscope, htypes, hkinds, hmatch, hprofiles.resolve_left Bool.false_ne_true⟩
  · rintro (⟨hscope, hprofiles, htypes, hkinds⟩ | h)
    · exact ⟨hscope, .inl hprofiles, htypes, hkinds⟩
    · exact ⟨h.scope, .inr h.hint, h.types, h.kinds⟩

/-- A rule that the profile of the host brings to match does not match without the probe. -/
theorem BroughtByHint.not_matches {rule : RuntimeExecuteGuardRule}
    {ctx : RuntimeExecuteGuardContext} {probe : HostCapabilities}
    (h : BroughtByHint rule ctx probe) :
  runtimeExecuteRuleMatches rule ctx.unprobed = false
  := by
  rw [runtimeExecuteRuleMatches, h.unmatched, Bool.and_false]
  rfl

/-- A policy that is said not to need the manifest does not look at it. -/
theorem matches_manifest {policy : RuntimeExecuteGuardPolicy}
    (h : runtimeExecutePolicyNeedsManifest policy = false) {rule : RuntimeExecuteGuardRule}
    (hrule : rule ∈ policy.rules) (ctx : RuntimeExecuteGuardContext) (m m' : Option Manifest) :
  runtimeExecuteRuleMatches rule { ctx with manifest := m }
    = runtimeExecuteRuleMatches rule { ctx with manifest := m' }
  := by
  rw [runtimeExecutePolicyNeedsManifest, List.any_eq_false] at h
  have hneeds := h rule hrule
  simp only [Bool.or_eq_true, decide_eq_true_eq, not_or, not_not] at hneeds
  obtain ⟨htypes, hkinds⟩ := hneeds
  simp only [runtimeExecuteRuleMatches, matchPrograms, htypes, hkinds]
  rfl

/-! ### What is gathered suffices -/

/-- A policy that is said not to need the probe decides the same on every probe and on none, and
one that is said not to need the manifest decides the same on every manifest and on none. -/
def ContextSuffices (policy : RuntimeExecuteGuardPolicy) (ctx : RuntimeExecuteGuardContext) :
    Prop :=
  (runtimeExecutePolicyNeedsHostProbe policy ctx.targetProfileID = false →
    ∀ probe, evaluateRuntimeExecuteGuardPolicy policy (ctx.probed probe)
      = evaluateRuntimeExecuteGuardPolicy policy ctx.unprobed) ∧
  (runtimeExecutePolicyNeedsManifest policy = false →
    ∀ m, evaluateRuntimeExecuteGuardPolicy policy { ctx with manifest := some m }
      = evaluateRuntimeExecuteGuardPolicy policy { ctx with manifest := none })

/-- The first rule that a host's own profile brings to match, where no rule before it matches, is
followed by a rule of the same name and action that matches without it. -/
def HintImmaterial (policy : RuntimeExecuteGuardPolicy) (ctx : RuntimeExecuteGuardContext) : Prop :=
  ∀ probe before rule after, policy.rules = before ++ rule :: after →
    (∀ r ∈ before, runtimeExecuteRuleMatches r ctx.unprobed = false ∧ ¬ BroughtByHint r ctx probe) →
    BroughtByHint rule ctx probe →
    ∃ rule', after.find? (fun r => runtimeExecuteRuleMatches r ctx.unprobed) = some rule' ∧
      rule'.name = rule.name ∧ rule'.action = rule.action

theorem ruleDecision_eq_iff {rule rule' : RuntimeExecuteGuardRule} :
  ruleDecision rule = ruleDecision rule' ↔ rule'.name = rule.name ∧ rule'.action = rule.action
  := by
  constructor
  · intro h
    rw [ruleDecision, ruleDecision, RuntimeExecuteGuardDecision.mk.injEq] at h
    exact ⟨h.2.1.symm, h.2.2.1.symm⟩
  · rintro ⟨hname, haction⟩
    rw [ruleDecision, ruleDecision, hname, haction]

theorem ruleDecision_ne_defaultDecision (rule : RuntimeExecuteGuardRule)
    (policy : RuntimeExecuteGuardPolicy) :
  ruleDecision rule ≠ defaultDecision policy
  := by
  intro h
  have hreason := congrArg (List.head? ∘ RuntimeExecuteGuardDecision.reason) h
  have hrule : (ruleDecision rule).reason.head? = some 109 := by
    show (str "matched policy rule " ++ quote rule.name).head? = _
    have hhead : (str "matched policy rule ").head? = some 109 := by decide
    rw [List.head?_append, hhead, Option.some_or]
  have hdefault : (defaultDecision policy).reason.head? = some 110 := by
    show (str "no policy rule matched; default_action applied").head? = _
    decide
  rw [Function.comp_apply, Function.comp_apply, hrule, hdefault] at hreason
  exact absurd hreason (by decide)

/-- The decision of a policy is that of the first rule which matches. -/
theorem evaluate_of_find? {policy : RuntimeExecuteGuardPolicy} {ctx : RuntimeExecuteGuardContext}
    {rule : RuntimeExecuteGuardRule}
    (h : policy.rules.find? (fun r => runtimeExecuteRuleMatches r ctx) = some rule) :
  evaluateRuntimeExecuteGuardPolicy policy ctx = ruleDecision rule
  := by
  rw [evaluateRuntimeExecuteGuardPolicy, h]

/-- Behind a rule that the profile of the host brings to match, the search without the probe goes
on. -/
theorem find?_unprobed {ctx : RuntimeExecuteGuardContext} {probe : HostCapabilities}
    {before after : List RuntimeExecuteGuardRule} {rule : RuntimeExecuteGuardRule}
    (hbefore : ∀ r ∈ before, runtimeExecuteRuleMatches r ctx.unprobed = false)
    (hrule : BroughtByHint rule ctx probe) :
  (before ++ rule :: after).find? (fun r => runtimeExecuteRuleMatches r ctx.unprobed)
    = after.find? (fun r => runtimeExecuteRuleMatches r ctx.unprobed)
  := by
  have hnone : before.find? (fun r => runtimeExecuteRuleMatches r ctx.unprobed) = none := by
    rw [List.find?_eq_none]
    intro r hr
    rw [hbefore r hr]
    exact Bool.false_ne_true
  rw [List.find?_append, hnone, Option.none_or, List.find?_cons, hrule.not_matches]

/-- What is gathered for a policy suffices exactly when no host's own profile brings a rule to
match that decides otherwise. -/
theorem guard_context_suffices_iff (policy : RuntimeExecuteGuardPolicy)
    (ctx : RuntimeExecuteGuardContext) :
  ContextSuffices policy ctx ↔
    (runtimeExecutePolicyNeedsHostProbe policy ctx.targetProfileID = false →
      HintImmaterial policy ctx)
  := by
  constructor
  · rintro ⟨hprobe, -⟩ hneeds probe before rule after hrules hbefore hrule
    have hmem : ∀ r ∈ before ++ rule :: after, boundsKernel r = false := by
      intro r hr
      rw [← hrules] at hr
      exact boundsKernel_of_needs hneeds hr
    have hprobed : policy.rules.find? (fun r => runtimeExecuteRuleMatches r (ctx.probed probe))
        = some rule := by
      rw [List.find?_eq_some_iff_append]
      refine ⟨(matches_probed_iff (hmem rule (by simp)) ctx probe).mpr (.inr hrule), before, after,
        hrules, ?_⟩
      intro r hr
      rw [Bool.not_eq_true', ← Bool.not_eq_true, matches_probed_iff (hmem r (by simp [hr])), not_or,
        Bool.not_eq_true]
      exact hbefore r hr
    have hsame := hprobe hneeds probe
    rw [evaluate_of_find? hprobed, evaluateRuntimeExecuteGuardPolicy, hrules,
      find?_unprobed (fun r hr => (hbefore r hr).1) hrule] at hsame
    cases hafter : after.find? (fun r => runtimeExecuteRuleMatches r ctx.unprobed) with
    | none =>
        rw [hafter] at hsame
        exact absurd hsame (ruleDecision_ne_defaultDecision rule policy)
    | some rule' =>
        rw [hafter] at hsame
        exact ⟨rule', rfl, ruleDecision_eq_iff.mp hsame⟩
  · intro h
    constructor
    · intro hneeds probe
      have himp : ∀ r ∈ policy.rules, runtimeExecuteRuleMatches r ctx.unprobed = true →
          runtimeExecuteRuleMatches r (ctx.probed probe) = true := by
        intro r hr hmatch
        exact (matches_probed_iff (boundsKernel_of_needs hneeds hr) ctx probe).mpr (.inl hmatch)
      cases hprobed : policy.rules.find? (fun r => runtimeExecuteRuleMatches r (ctx.probed probe))
        with
      | none =>
          rw [evaluateRuntimeExecuteGuardPolicy, evaluateRuntimeExecuteGuardPolicy, hprobed,
            FirstMatch.find?_none_of_imp himp hprobed]
      | some rule =>
          obtain ⟨hmatch, before, after, hrules, hbefore⟩ :=
            List.find?_eq_some_iff_append.mp hprobed
          have hmem : ∀ r ∈ before ++ rule :: after, boundsKernel r = false := by
            intro r hr
            rw [← hrules] at hr
            exact boundsKernel_of_needs hneeds hr
          have hahead : ∀ r ∈ before, runtimeExecuteRuleMatches r ctx.unprobed = false ∧
              ¬ BroughtByHint r ctx probe := by
            intro r hr
            have hr' := hbefore r hr
            rwa [Bool.not_eq_true', ← Bool.not_eq_true,
              matches_probed_iff (hmem r (by simp [hr])), not_or, Bool.not_eq_true] at hr'
          rw [evaluate_of_find? hprobed]
          rcases (matches_probed_iff (hmem rule (by simp)) ctx probe).mp hmatch with hkept | hbrought
          · rw [evaluate_of_find? (FirstMatch.find?_of_imp himp hprobed hkept)]
          · obtain ⟨rule', hafter, hsame⟩ := h hneeds probe before rule after hrules hahead hbrought
            have hunprobed : policy.rules.find?
                (fun r => runtimeExecuteRuleMatches r ctx.unprobed) = some rule' := by
              rw [hrules, find?_unprobed (fun r hr => (hahead r hr).1) hbrought, hafter]
            rw [evaluate_of_find? hunprobed]
            exact ruleDecision_eq_iff.mpr hsame
    · intro hneeds m
      rw [evaluateRuntimeExecuteGuardPolicy, evaluateRuntimeExecuteGuardPolicy,
        FirstMatch.find?_congr fun r hr => matches_manifest hneeds hr ctx (some m) none]

/-- Where what is gathered suffices, the endpoint decides as if it had gathered everything. -/
theorem guardExecute_eq {policy : RuntimeExecuteGuardPolicy} {ctx : RuntimeExecuteGuardContext}
    {sources : GuardSources} {probe : HostCapabilities} {m : Manifest}
    (hprobe : sources.probe = .ok probe) (hmanifest : sources.manifest = .ok m)
    (h : ∀ m, ContextSuffices policy { ctx with hostProbe := some probe, manifest := m }) :
  guardExecute policy ctx none sources
    = .ok (evaluateRuntimeExecuteGuardPolicy policy
        { ctx with hostProbe := some probe, manifest := some m })
  := by
  obtain ⟨m', hread, hsame⟩ : ∃ m', gatherManifest policy sources = .ok m' ∧
      evaluateRuntimeExecuteGuardPolicy policy { ctx with hostProbe := some probe, manifest := m' }
        = evaluateRuntimeExecuteGuardPolicy policy
            { ctx with hostProbe := some probe, manifest := some m } := by
    rw [gatherManifest, hmanifest]
    split_ifs with hneeds
    · exact ⟨some m, rfl, rfl⟩
    · exact ⟨none, rfl, ((h none).2 (Bool.not_eq_true _ ▸ hneeds) m).symm⟩
  obtain ⟨probe', hfound, hdecided⟩ : ∃ probe', gatherProbe policy ctx.targetProfileID none sources
      = .ok probe' ∧
      evaluateRuntimeExecuteGuardPolicy policy { ctx with hostProbe := probe', manifest := m' }
        = evaluateRuntimeExecuteGuardPolicy policy
            { ctx with hostProbe := some probe, manifest := m' } := by
    rw [gatherProbe, hprobe]
    split_ifs with hneeds
    · exact ⟨some probe, rfl, rfl⟩
    · exact ⟨none, rfl, ((h m').1 (Bool.not_eq_true _ ▸ hneeds) probe).symm⟩
  rw [guardExecute, hfound, hread, ← hsame, ← hdecided]
  rfl

end

/-! ### A target profile hides the probe -/

attribute [local instance] asciiCaseTables

/-- A policy that refuses one distribution. -/
def refusesUbuntu : RuntimeExecuteGuardPolicy where
  defaultAction := str "allow"
  rules := [{
    name := str "no-ubuntu"
    action := str "deny"
    profiles := [str "ubuntu-22.04-5.15"] }]

/-- An execution for another profile. -/
def debianContext : RuntimeExecuteGuardContext where
  tenant := str "acme"
  project := str "demo"
  artifactName := str "execsnoop"
  targetProfileID := str "debian-12-6.1"

/-- A host of the distribution. -/
def ubuntuHost : HostCapabilities where
  osID := str "ubuntu"
  osVersionID := str "22.04"
  kernelRelease := str "5.15.0-105-generic"

/-- The policy is said not to need the probe, and the probe turns the decision around. -/
theorem skipped_probe_allows :
  runtimeExecutePolicyNeedsHostProbe refusesUbuntu debianContext.targetProfileID = false ∧
    (evaluateRuntimeExecuteGuardPolicy refusesUbuntu (debianContext.probed ubuntuHost)).allowed
      = false ∧
    (evaluateRuntimeExecuteGuardPolicy refusesUbuntu debianContext.unprobed).allowed = true ∧
    ¬ ContextSuffices refusesUbuntu debianContext
  := by
  have hneeds : runtimeExecutePolicyNeedsHostProbe refusesUbuntu debianContext.targetProfileID
      = false := by decide +kernel
  have hprobed : (evaluateRuntimeExecuteGuardPolicy refusesUbuntu
      (debianContext.probed ubuntuHost)).allowed = false := by decide +kernel
  have hunprobed : (evaluateRuntimeExecuteGuardPolicy refusesUbuntu
      debianContext.unprobed).allowed = true := by decide +kernel
  refine ⟨hneeds, hprobed, hunprobed, ?_⟩
  rintro ⟨hsame, -⟩
  rw [hsame hneeds ubuntuHost, hunprobed] at hprobed
  cases hprobed

end Api
