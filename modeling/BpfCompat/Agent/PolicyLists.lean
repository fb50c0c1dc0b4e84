import BpfCompat.Agent.LoadPolicy

/-!
# The lists of a load policy

A list of a policy that is empty restricts nothing.  Normalisation drops blank entries, so a list
that has entries, all of them blank, becomes one that restricts nothing: a list restricts what it
is meant to precisely when it is empty in the file or has an entry that is not blank, and a blank
entry revokes nobody (`policy_lists_iff`).
-/

namespace Agent

open Go Registry Runtime

section

variable [CaseTables]

/-! ### Entries -/

/-- The pattern an entry of a list stands for. -/
def patternOf (upper : Bool) (entry : Str) : Str :=
  if upper then toUpper (trimSpace entry) else toLower (trimSpace entry)

theorem patternOf_false (entry : Str) :
  patternOf false entry = mapChars UnicodeTables.toLower (trimSpace entry)
  := by
  rw [patternOf, if_neg Bool.false_ne_true]
  rfl

theorem patternOf_true (entry : Str) :
  patternOf true entry = mapChars CaseTables.toUpper (trimSpace entry)
  := by
  rw [patternOf, if_pos rfl]
  rfl

/-- An entry of a list matches a value. -/
def Fits (upper : Bool) (value entry : Str) : Prop :=
  trimSpace entry ≠ [] ∧ (patternOf upper entry = str "*" ∨
    patternOf upper entry = trimSpace value ∨
    pathMatch (patternOf upper entry) (trimSpace value) = some true)

theorem mem_normalizePatternList {values : List Str} {upper : Bool} {pattern : Str} :
  pattern ∈ normalizePatternList values upper
    ↔ ∃ entry ∈ values, trimSpace entry ≠ [] ∧ patternOf upper entry = pattern
  := by
  rw [normalizePatternList, mem_sortKeys, mem_collect]
  cases upper with
  | false => simp [patternOf, and_assoc]
  | true => simp [patternOf, and_assoc]

theorem normalizePatternList_eq_nil {values : List Str} {upper : Bool} :
  normalizePatternList values upper = [] ↔ ∀ entry ∈ values, trimSpace entry = []
  := by
  rw [List.eq_nil_iff_forall_not_mem]
  simp only [mem_normalizePatternList]
  constructor
  · intro h entry hentry
    by_contra hblank
    exact h _ ⟨entry, hentry, hblank, rfl⟩
  · rintro h pattern ⟨entry, hentry, hblank, -⟩
    exact hblank (h entry hentry)

section

variable (hcase : SettledCase)

include hcase

/-- A pattern stands for itself. -/
theorem patternOf_patternOf (upper : Bool) (entry : Str) :
  trimSpace (patternOf upper entry) = patternOf upper entry ∧
    patternOf upper (patternOf upper entry) = patternOf upper entry
  := by
  have hsettled : ∀ f : Char → Char, (∀ c, f (f c) = f c) → (∀ c, isSpace (f c) = isSpace c) →
      trimSpace (mapChars f (trimSpace entry)) = mapChars f (trimSpace entry) ∧
        mapChars f (trimSpace (mapChars f (trimSpace entry))) = mapChars f (trimSpace entry) := by
    intro f hf hspace
    rw [trimSpace_mapChars hspace, trimSpace_trimSpace]
    exact ⟨rfl, mapChars_mapChars hf _⟩
  cases upper with
  | false =>
      have h := hsettled UnicodeTables.toLower hcase.toLower_toLower hcase.isSpace_toLower
      simp only [patternOf_false]
      exact h
  | true =>
      have h := hsettled CaseTables.toUpper hcase.toUpper_toUpper hcase.isSpace_toUpper
      simp only [patternOf_true]
      exact h

omit hcase in
theorem patternOf_eq_nil {upper : Bool} {entry : Str} :
  patternOf upper entry = [] ↔ trimSpace entry = []
  := by
  cases upper with
  | false => rw [patternOf_false, mapChars_eq_nil]
  | true => rw [patternOf_true, mapChars_eq_nil]

/-- Normalisation changes nothing the second time. -/
theorem normalizePatternList_again (values : List Str) (upper : Bool) :
  normalizePatternList (normalizePatternList values upper) upper
    = normalizePatternList values upper
  := by
  apply sortKeys_eq_of_mem_iff (nodup_collect List.nodup_nil) (nodup_collect List.nodup_nil)
  intro pattern
  have hleft := @mem_normalizePatternList _ (normalizePatternList values upper) upper pattern
  have hright := @mem_normalizePatternList _ values upper pattern
  rw [normalizePatternList, mem_sortKeys] at hleft
  rw [normalizePatternList, mem_sortKeys] at hright
  rw [hleft, hright]
  constructor
  · rintro ⟨pattern', hmem, hblank, rfl⟩
    obtain ⟨entry, hentry, hne, rfl⟩ := mem_normalizePatternList.mp hmem
    exact ⟨entry, hentry, hne, (patternOf_patternOf hcase upper entry).2.symm⟩
  · rintro ⟨entry, hentry, hne, rfl⟩
    obtain ⟨htrim, hself⟩ := patternOf_patternOf hcase upper entry
    refine ⟨patternOf upper entry, ?_, ?_, hself⟩
    · exact mem_normalizePatternList.mpr ⟨entry, hentry, hne, rfl⟩
    · rw [htrim]
      exact mt patternOf_eq_nil.mp hne

/-- A value matches a list that restricts something precisely when an entry matches it. -/
theorem matchStringPatterns_iff {values : List Str} {upper : Bool} {value : Str}
    (h : normalizePatternList values upper ≠ []) :
  matchStringPatterns value (normalizePatternList values upper) = true
    ↔ ∃ entry ∈ values, Fits upper value entry
  := by
  rw [matchStringPatterns, decide_eq_false h, Bool.false_or, List.any_eq_true]
  simp only [Bool.and_eq_true, Bool.or_eq_true, decide_eq_true_eq, or_assoc]
  constructor
  · rintro ⟨pattern, hpattern, -, hmatch⟩
    obtain ⟨entry, hentry, hne, rfl⟩ := mem_normalizePatternList.mp hpattern
    rw [(patternOf_patternOf hcase upper entry).1] at hmatch
    exact ⟨entry, hentry, hne, hmatch⟩
  · rintro ⟨entry, hentry, hne, hmatch⟩
    refine ⟨patternOf upper entry, mem_normalizePatternList.mpr ⟨entry, hentry, hne, rfl⟩, ?_⟩
    rw [(patternOf_patternOf hcase upper entry).1]
    exact ⟨mt patternOf_eq_nil.mp hne, hmatch⟩

theorem exists_fits_of_matchAny {entries values : List Str} {upper : Bool}
    (h : normalizePatternList entries upper ≠ [])
    (hmatch : matchAnyPattern values (normalizePatternList entries upper) = true) :
  ∃ value ∈ values, ∃ entry ∈ entries, Fits upper value entry
  := by
  rw [matchAnyPattern, decide_eq_false h, Bool.false_or, List.any_eq_true] at hmatch
  obtain ⟨value, hvalue, hmatch⟩ := hmatch
  exact ⟨value, hvalue, (matchStringPatterns_iff hcase h).mp hmatch⟩

end

/-! ### The lists of a rule -/

/-- The lists of a rule. -/
inductive RuleList where
  | agents
  | tenants
  | projects
  | artifacts
  | profiles
  | programTypes
  | attachKinds
deriving DecidableEq

namespace RuleList

/-- The list of a rule. -/
def entries : RuleList → LoadPolicyRule → List Str
  | agents, rule => rule.agents
  | tenants, rule => rule.tenants
  | projects, rule => rule.projects
  | artifacts, rule => rule.artifacts
  | profiles, rule => rule.profiles
  | programTypes, rule => rule.programTypes
  | attachKinds, rule => rule.attachKinds

/-- A rule that allows what one list of it admits. -/
def rule (entries : List Str) : RuleList → LoadPolicyRule
  | agents => { action := str "allow", agents := entries }
  | tenants => { action := str "allow", tenants := entries }
  | projects => { action := str "allow", projects := entries }
  | artifacts => { action := str "allow", artifacts := entries }
  | profiles => { action := str "allow", profiles := entries }
  | programTypes => { action := str "allow", programTypes := entries }
  | attachKinds => { action := str "allow", attachKinds := entries }

/-- The letter case the entries of the list are compared in. -/
def upper : RuleList → Bool
  | programTypes | attachKinds => true
  | _ => false

/-- The values of a context the list is about. -/
def values : RuleList → LoadPolicyContext → List Str
  | agents, ctx => [toLower (trimSpace ctx.agentID)]
  | tenants, ctx => [toLower (trimSpace ctx.tenant)]
  | projects, ctx => [toLower (trimSpace ctx.project)]
  | artifacts, ctx => [toLower (trimSpace ctx.artifactName)]
  | profiles, ctx => loadPolicyProfileCandidates ctx
  | programTypes, ctx =>
    (ctx.manifest.map fun m => m.programs.map fun p => toUpper (trimSpace p.type)).getD []
  | attachKinds, ctx =>
    (ctx.manifest.map fun m => m.programs.map fun p => toUpper (trimSpace p.attachKind)).getD []

end RuleList

/-- A rule matches only what each of its lists admits. -/
theorem matchAny_of_loadRuleMatches {rule : LoadPolicyRule} {ctx : LoadPolicyContext}
    (h : loadRuleMatches rule ctx = true) (place : RuleList) (hne : place.entries rule ≠ []) :
  matchAnyPattern (place.values ctx) (place.entries rule) = true
  := by
  have hsingle : ∀ value patterns, matchStringPatterns value patterns = true →
      matchAnyPattern [value] patterns = true := by
    intro value patterns hmatch
    simp [matchAnyPattern, hmatch]
  have hprograms : ∀ field patterns, patterns ≠ [] → matchPrograms field patterns ctx = true →
      matchAnyPattern ((ctx.manifest.map fun m =>
        m.programs.map fun p => toUpper (trimSpace (field p))).getD []) patterns = true := by
    intro field patterns hne hmatch
    rw [matchPrograms, decide_eq_false hne, Bool.false_or] at hmatch
    cases hmanifest : ctx.manifest with
    | none => simp [hmanifest] at hmatch
    | some m => simpa [hmanifest] using hmatch
  simp only [loadRuleMatches, Bool.and_eq_true] at h
  obtain ⟨⟨⟨⟨⟨⟨⟨⟨hagents, htenants⟩, hprojects⟩, hartifacts⟩, -⟩, hprofiles⟩, -⟩, htypes⟩, hkinds⟩ := h
  cases place with
  | agents => exact hsingle _ _ hagents
  | tenants => exact hsingle _ _ htenants
  | projects => exact hsingle _ _ hprojects
  | artifacts => exact hsingle _ _ hartifacts
  | profiles =>
      rw [Bool.or_eq_true, decide_eq_true_eq] at hprofiles
      exact hprofiles.resolve_left hne
  | programTypes => exact hprograms Program.type _ hne htypes
  | attachKinds => exact hprograms Program.attachKind _ hne hkinds

/-! ### Normalisation of a policy -/

/-- Normalisation of a rule refuses it with its lists as they are, or normalises them all. -/
theorem normalizeRule_cases (i : Nat) (rule : LoadPolicyRule) :
  (∃ rule' e, normalizeRule i rule = (rule', some e) ∧
      ∀ place : RuleList, place.entries rule' = place.entries rule) ∨
    ∃ rule' e, normalizeRule i rule = (rule', e) ∧ ∀ place : RuleList,
      place.entries rule' = normalizePatternList (place.entries rule) place.upper
  := by
  rw [normalizeRule]
  dsimp only
  by_cases haction : (!isLoadAction (normalizeLoadAction rule.action)) = true
  · rw [if_pos haction]
    refine .inl ⟨_, _, rfl, ?_⟩
    intro place
    cases place <;> rfl
  · rw [if_neg haction]
    right
    split
    · refine ⟨_, _, rfl, ?_⟩
      intro place
      cases place <;> rfl
    · split
      all_goals
        refine ⟨_, _, rfl, ?_⟩
        intro place
        cases place <;> rfl

/-- Normalisation of a rule leaves a list as it is, or normalises it. -/
theorem entries_normalizeRule (place : RuleList) (i : Nat) (rule : LoadPolicyRule) :
  place.entries (normalizeRule i rule).1 = place.entries rule ∨
    place.entries (normalizeRule i rule).1
      = normalizePatternList (place.entries rule) place.upper
  := by
  rcases normalizeRule_cases i rule with ⟨rule', e, hrule, hlists⟩ | ⟨rule', e, hrule, hlists⟩
  · rw [hrule]
    exact .inl (hlists place)
  · rw [hrule]
    exact .inr (hlists place)

/-- A rule that is accepted has its lists normalised. -/
theorem entries_of_normalizeRule {place : RuleList} {i : Nat} {rule rule' : LoadPolicyRule}
    (h : normalizeRule i rule = (rule', none)) :
  place.entries rule' = normalizePatternList (place.entries rule) place.upper
  := by
  rcases normalizeRule_cases i rule with ⟨_, _, hrule, -⟩ | ⟨_, _, hrule, hlists⟩
  · rw [hrule] at h
    cases h
  · rw [hrule] at h
    obtain ⟨rfl, -⟩ := Prod.mk.inj h
    exact hlists place

/-- Normalisation of the rules leaves each list as it is, or normalises it. -/
theorem entries_normalizeRules (place : RuleList) {i j : Nat} {rules : List LoadPolicyRule}
    {rule' : LoadPolicyRule} (h : (normalizeRules i rules).1[j]? = some rule') :
  ∃ rule, rules[j]? = some rule ∧ (place.entries rule' = place.entries rule ∨
    place.entries rule' = normalizePatternList (place.entries rule) place.upper)
  := by
  induction rules generalizing i j with
  | nil => cases h
  | cons rule rules ih =>
      rw [normalizeRules] at h
      cases hrule : normalizeRule i rule with
      | mk first e =>
          have hfirst := entries_normalizeRule place i rule
          rw [hrule] at hfirst
          cases e with
          | some e =>
              simp only [hrule] at h
              cases j with
              | zero =>
                  cases h
                  exact ⟨rule, rfl, hfirst⟩
              | succ j => exact ⟨rule', h, .inl rfl⟩
          | none =>
              simp only [hrule] at h
              cases j with
              | zero =>
                  cases h
                  exact ⟨rule, rfl, hfirst⟩
              | succ j => exact ih h

/-- Rules that are accepted have their lists normalised. -/
theorem entries_of_normalizeRules {place : RuleList} {i j : Nat}
    {rules rules' : List LoadPolicyRule} (h : normalizeRules i rules = (rules', none))
    {rule' : LoadPolicyRule} (hget : rules'[j]? = some rule') :
  ∃ rule, rules[j]? = some rule ∧
    place.entries rule' = normalizePatternList (place.entries rule) place.upper
  := by
  induction rules generalizing i j rules' with
  | nil =>
      cases h
      cases hget
  | cons rule rules ih =>
      rw [normalizeRules] at h
      cases hrule : normalizeRule i rule with
      | mk first e =>
          cases e with
          | some e => simp [hrule] at h
          | none =>
              simp only [hrule, Prod.mk.injEq] at h
              obtain ⟨rfl, hrest⟩ := h
              cases j with
              | zero =>
                  cases hget
                  exact ⟨rule, rfl, entries_of_normalizeRule hrule⟩
              | succ j => exact ih (Prod.ext rfl hrest) hget

theorem loadLoadPolicy_eq_ok {file policy : LoadPolicy} :
  loadLoadPolicy (.ok file) = .ok policy ↔ normalizeAndValidate file = (policy, none)
  := by
  rw [loadLoadPolicy]
  cases normalizeAndValidate file with
  | mk normalized e =>
      cases e with
      | some e => simp
      | none => simp

/-- Normalisation of a policy refuses it with its lists as they are, or normalises them all. -/
theorem normalizeAndValidate_cases (policy : LoadPolicy) :
  (∃ policy' e, normalizeAndValidate policy = (policy', some e) ∧
      policy'.allowedAgents = policy.allowedAgents ∧
      policy'.revokedAgents = policy.revokedAgents ∧ policy'.rules = policy.rules) ∨
    ∃ policy', normalizeAndValidate policy = (policy', (normalizeRules 0 policy.rules).2) ∧
      policy'.allowedAgents = normalizePatternList policy.allowedAgents false ∧
      policy'.revokedAgents = normalizePatternList policy.revokedAgents false ∧
      policy'.rules = (normalizeRules 0 policy.rules).1
  := by
  rw [normalizeAndValidate]
  dsimp only
  generalize (if normalizeLoadAction policy.defaultAction = [] then str "deny"
    else normalizeLoadAction policy.defaultAction) = action
  split
  · exact .inl ⟨_, _, rfl, rfl, rfl, rfl⟩
  · split
    · exact .inl ⟨_, _, rfl, rfl, rfl, rfl⟩
    · exact .inr ⟨_, rfl, rfl, rfl, rfl⟩

/-- A policy that is accepted has its lists normalised. -/
theorem lists_of_accepted {file policy : LoadPolicy}
    (h : normalizeAndValidate file = (policy, none)) :
  policy.allowedAgents = normalizePatternList file.allowedAgents false ∧
    policy.revokedAgents = normalizePatternList file.revokedAgents false ∧
    normalizeRules 0 file.rules = (policy.rules, none)
  := by
  rcases normalizeAndValidate_cases file with ⟨_, _, hfile, -⟩ | ⟨_, hfile, hallowed, hrevoked, hrules⟩
  · rw [hfile] at h
    cases h
  · rw [hfile] at h
    obtain ⟨rfl, hnone⟩ := Prod.mk.inj h
    exact ⟨hallowed, hrevoked, Prod.ext hrules.symm hnone⟩

/-! ### What is evaluated -/

section

variable (hcase : SettledCase)

include hcase

/-- The lists of a policy that was accepted, as they are evaluated. -/
theorem lists_of_evaluated {file policy : LoadPolicy}
    (h : loadLoadPolicy (.ok file) = .ok policy) :
  (normalizeAndValidate policy).1.allowedAgents = normalizePatternList file.allowedAgents false ∧
    (normalizeAndValidate policy).1.revokedAgents
      = normalizePatternList file.revokedAgents false
  := by
  obtain ⟨hallowed, hrevoked, -⟩ := lists_of_accepted (loadLoadPolicy_eq_ok.mp h)
  rcases normalizeAndValidate_cases policy with
    ⟨_, _, hsecond, hagain, hagain', -⟩ | ⟨_, hsecond, hagain, hagain', -⟩
  · rw [hsecond, hagain, hagain', hallowed, hrevoked]
    exact ⟨rfl, rfl⟩
  · rw [hsecond, hagain, hagain', hallowed, hrevoked, normalizePatternList_again hcase,
      normalizePatternList_again hcase]
    exact ⟨rfl, rfl⟩

/-- The lists of the rules of a policy that was accepted, as they are evaluated. -/
theorem entries_of_evaluated {file policy : LoadPolicy}
    (h : loadLoadPolicy (.ok file) = .ok policy) (place : RuleList) {i : Nat}
    {rule' : LoadPolicyRule} (hget : (normalizeAndValidate policy).1.rules[i]? = some rule') :
  ∃ rule, file.rules[i]? = some rule ∧
    place.entries rule' = normalizePatternList (place.entries rule) place.upper
  := by
  obtain ⟨-, -, hrules⟩ := lists_of_accepted (loadLoadPolicy_eq_ok.mp h)
  rcases normalizeAndValidate_cases policy with
    ⟨_, _, hsecond, -, -, hagain⟩ | ⟨_, hsecond, -, -, hagain⟩
  · rw [hsecond, hagain] at hget
    exact entries_of_normalizeRules hrules hget
  · rw [hsecond, hagain] at hget
    obtain ⟨rule₁, hget₁, hentries⟩ := entries_normalizeRules place hget
    obtain ⟨rule, hrule, hfirst⟩ := (entries_of_normalizeRules hrules hget₁ : ∃ rule,
      file.rules[i]? = some rule ∧
        place.entries rule₁ = normalizePatternList (place.entries rule) place.upper)
    refine ⟨rule, hrule, ?_⟩
    rcases hentries with hentries | hentries
    · rw [hentries, hfirst]
    · rw [hentries, hfirst, normalizePatternList_again hcase]

end

/-! ### What the lists promise -/

/-- An agent is allowed only if the list of allowed agents, where it has entries in the file, has
one that matches it. -/
def AllowedRestricts (entries : List Str) : Prop :=
  ∀ file policy ctx, loadLoadPolicy (.ok file) = .ok policy → file.allowedAgents = entries →
    entries ≠ [] → (evaluateLoadPolicy policy ctx).allowed = true →
      ∃ entry ∈ entries, Fits false (toLower (trimSpace ctx.agentID)) entry

/-- A rule matches only if the list, where it has entries in the file, has one that matches a value
it is about. -/
def RuleRestricts (place : RuleList) (entries : List Str) : Prop :=
  ∀ file policy ctx (i : Nat) rule rule', loadLoadPolicy (.ok file) = .ok policy →
    file.rules[i]? = some rule → place.entries rule = entries → entries ≠ [] →
      (normalizeAndValidate policy).1.rules[i]? = some rule' → loadRuleMatches rule' ctx = true →
        ∃ value ∈ place.values ctx, ∃ entry ∈ entries, Fits place.upper value entry

/-- An agent that the list of revoked agents names is denied. -/
def RevokedDenies (entries : List Str) : Prop :=
  ∀ file policy ctx, loadLoadPolicy (.ok file) = .ok policy → file.revokedAgents = entries →
    ∀ entry ∈ entries, toLower (trimSpace entry) = toLower (trimSpace ctx.agentID) →
      (evaluateLoadPolicy policy ctx).allowed = false

/-- A list is empty, or has an entry that is not blank. -/
def Restrictive (entries : List Str) : Prop := entries = [] ∨ ∃ entry ∈ entries, trimSpace entry ≠ []

/-- A list has no blank entry, or one that matches the agent without a name. -/
def Denying (entries : List Str) : Prop :=
  (∀ entry ∈ entries, trimSpace entry ≠ []) ∨ ∃ entry ∈ entries, Fits false [] entry

theorem normalizePatternList_ne_nil {entries : List Str} (h : Restrictive entries)
    (hne : entries ≠ []) (upper : Bool) :
  normalizePatternList entries upper ≠ []
  := by
  rw [ne_eq, normalizePatternList_eq_nil]
  intro hblank
  obtain ⟨entry, hentry, hentry'⟩ := h.resolve_left hne
  exact hentry' (hblank entry hentry)

theorem not_fits_of_blank {entries : List Str} (h : ¬ Restrictive entries) {upper : Bool}
    {value entry : Str} (hentry : entry ∈ entries) :
  ¬ Fits upper value entry
  := by
  rintro ⟨hne, -⟩
  exact h (.inr ⟨entry, hentry, hne⟩)

theorem normalizePatternList_of_blank {entries : List Str} (h : ¬ Restrictive entries)
    (upper : Bool) :
  normalizePatternList entries upper = []
  := by
  rw [normalizePatternList_eq_nil]
  intro entry hentry
  by_contra hne
  exact h (.inr ⟨entry, hentry, hne⟩)

/-! ### Policies that show a list -/

theorem normalizeLoadAction_allow :
  normalizeLoadAction (str "allow") = str "allow"
  := by
  have htrim : trimSpace (str "allow") = str "allow" := by decide
  rw [normalizeLoadAction, htrim]
  apply toLower_of_ascii
  decide

/-- A policy that allows by default. -/
def openPolicy (allowed revoked : List Str) (rules : List LoadPolicyRule) : LoadPolicy where
  defaultAction := str "allow"
  allowedAgents := allowed
  revokedAgents := revoked
  rules := rules

theorem normalizeAndValidate_open (allowed revoked : List Str) (rules : List LoadPolicyRule) :
  normalizeAndValidate (openPolicy allowed revoked rules)
    = (openPolicy (normalizePatternList allowed false) (normalizePatternList revoked false)
        (normalizeRules 0 rules).1, (normalizeRules 0 rules).2)
  := by
  have hne : str "allow" ≠ [] := by decide
  have haction : isLoadAction (str "allow") = true := by decide
  have hschema : trimSpace ([] : Str) = [] := rfl
  simp [normalizeAndValidate, openPolicy, normalizeLoadAction_allow, hne, haction, hschema]

/-- A rule that allows and has no bounds is accepted. -/
theorem normalizeRule_open {rule : LoadPolicyRule} (haction : rule.action = str "allow")
    (hmin : rule.kernelMin = []) (hmax : rule.kernelMax = []) (i : Nat) :
  ∃ rule', normalizeRule i rule = (rule', none) ∧ rule'.action = str "allow" ∧
    rule'.kernelMin = [] ∧ rule'.kernelMax = [] ∧
    rule'.requireVerifiedHistory = rule.requireVerifiedHistory
  := by
  have haction' : isLoadAction (str "allow") = true := by decide
  have hblank : trimSpace ([] : Str) = [] := rfl
  rw [normalizeRule]
  simp only [haction, hmin, hmax, hblank, normalizeLoadAction_allow, haction', Bool.not_true,
    Bool.false_eq_true, if_false, ne_eq, not_true_eq_false, false_and]
  exact ⟨_, rfl, rfl, rfl, rfl, rfl⟩

/-- A rule without lists and bounds matches every context. -/
theorem loadRuleMatches_of_lists {rule : LoadPolicyRule} {ctx : LoadPolicyContext}
    (hlists : ∀ place : RuleList, place.entries rule = [])
    (hverified : rule.requireVerifiedHistory = none) (hmin : rule.kernelMin = [])
    (hmax : rule.kernelMax = []) :
  loadRuleMatches rule ctx = true
  := by
  have hagents : rule.agents = [] := hlists .agents
  have htenants : rule.tenants = [] := hlists .tenants
  have hprojects : rule.projects = [] := hlists .projects
  have hartifacts : rule.artifacts = [] := hlists .artifacts
  have hprofiles : rule.profiles = [] := hlists .profiles
  have htypes : rule.programTypes = [] := hlists .programTypes
  have hkinds : rule.attachKinds = [] := hlists .attachKinds
  have hblank : trimSpace ([] : Str) = [] := rfl
  simp [loadRuleMatches, matchStringPatterns, matchPrograms, kernelWithin, hagents, htenants,
    hprojects, hartifacts, hprofiles, htypes, hkinds, hverified, hmin, hmax, hblank]

/-! ### What the lists keep -/

/-- What decides on a context whose agent passes the two lists of agents: the first rule that
matches, or the default. -/
theorem allowed_of_decideLoad {policy : LoadPolicy} {ctx : LoadPolicyContext}
    (h : (decideLoad policy ctx).allowed = true) :
  ¬ (policy.revokedAgents ≠ [] ∧
      matchStringPatterns (toLower (trimSpace ctx.agentID)) policy.revokedAgents = true) ∧
    ¬ (policy.allowedAgents ≠ [] ∧
      (!matchStringPatterns (toLower (trimSpace ctx.agentID)) policy.allowedAgents) = true)
  := by
  constructor
  · intro hrevoked
    rw [decideLoad, if_pos hrevoked] at h
    cases h
  · intro hrefused
    rw [decideLoad, if_pos hrefused] at h
    split at h
    · cases h
    · cases h

/-- A policy that allows by default allows whoever its lists of agents let through. -/
theorem allowed_open {policy : LoadPolicy} {ctx : LoadPolicyContext}
    (haction : policy.defaultAction = str "allow") (hrules : policy.rules = [])
    (hallowed : policy.allowedAgents = []) (hrevoked : ¬ (policy.revokedAgents ≠ [] ∧
      matchStringPatterns (toLower (trimSpace ctx.agentID)) policy.revokedAgents = true)) :
  (decideLoad policy ctx).allowed = true
  := by
  have hne : str "allow" ≠ [] := by decide
  rw [decideLoad, if_neg hrevoked]
  simp [hallowed, hrules, haction, hne]

section

variable (hcase : SettledCase)

include hcase

theorem allowedRestricts_iff {entries : List Str} :
  AllowedRestricts entries ↔ Restrictive entries
  := by
  constructor
  · intro h
    by_contra hblank
    have hne : entries ≠ [] := fun hnil => hblank (.inl hnil)
    have hload : loadLoadPolicy (.ok (openPolicy entries [] []))
        = .ok (openPolicy (normalizePatternList entries false) (normalizePatternList [] false) []) :=
      loadLoadPolicy_eq_ok.mpr (normalizeAndValidate_open entries [] [])
    have hallowed : (evaluateLoadPolicy (openPolicy (normalizePatternList entries false)
        (normalizePatternList [] false) []) {}).allowed = true := by
      rw [evaluateLoadPolicy, normalizeAndValidate_open]
      apply allowed_open rfl rfl
      · rw [normalizePatternList_again hcase]
        exact normalizePatternList_of_blank hblank false
      · rintro ⟨hsome, -⟩
        exact hsome rfl
    obtain ⟨entry, hentry, hfits⟩ := h _ _ {} hload rfl hne hallowed
    exact not_fits_of_blank hblank hentry hfits
  · intro h file policy ctx hload hentries hne hallowed
    obtain ⟨hlist, -⟩ := lists_of_evaluated hcase hload
    obtain ⟨-, hpass⟩ := allowed_of_decideLoad hallowed
    rw [hlist, hentries] at hpass
    have hsome := normalizePatternList_ne_nil h hne false
    rw [← matchStringPatterns_iff hcase hsome]
    by_contra hmatch
    exact hpass ⟨hsome, by simpa using hmatch⟩

theorem ruleRestricts_iff {place : RuleList} {entries : List Str} :
  RuleRestricts place entries ↔ Restrictive entries
  := by
  constructor
  · intro h
    by_contra hblank
    have hne : entries ≠ [] := fun hnil => hblank (.inl hnil)
    let rule := place.rule entries
    have hopen : rule.action = str "allow" ∧ rule.kernelMin = [] ∧ rule.kernelMax = [] ∧
        rule.requireVerifiedHistory = none := by
      cases place <;> exact ⟨rfl, rfl, rfl, rfl⟩
    have hplace : place.entries rule = entries := by cases place <;> rfl
    have hlists : ∀ place' : RuleList, normalizePatternList (place'.entries rule) place'.upper = [] := by
      intro place'
      by_cases hsame : place' = place
      · rw [hsame, hplace]
        exact normalizePatternList_of_blank hblank _
      · have hempty : place'.entries rule = [] := by
          cases place <;> cases place' <;> first | rfl | exact absurd rfl hsame
        rw [hempty]
        rfl
    obtain ⟨rule₁, hrule₁, haction₁, hmin₁, hmax₁, hverified₁⟩ :=
      normalizeRule_open hopen.1 hopen.2.1 hopen.2.2.1 0
    obtain ⟨rule₂, hrule₂, -, hmin₂, hmax₂, hverified₂⟩ :=
      normalizeRule_open haction₁ hmin₁ hmax₁ 0
    have hload : loadLoadPolicy (.ok (openPolicy [] [] [rule]))
        = .ok (openPolicy (normalizePatternList [] false) (normalizePatternList [] false)
            [rule₁]) := by
      rw [loadLoadPolicy_eq_ok, normalizeAndValidate_open]
      simp [normalizeRules, hrule₁]
    have hget : (normalizeAndValidate (openPolicy (normalizePatternList [] false)
        (normalizePatternList [] false) [rule₁])).1.rules[0]? = some rule₂ := by
      rw [normalizeAndValidate_open]
      simp [openPolicy, normalizeRules, hrule₂]
    have hmatch : loadRuleMatches rule₂ {} = true := by
      apply loadRuleMatches_of_lists _ _ hmin₂ hmax₂
      · intro place'
        rw [entries_of_normalizeRule hrule₂, entries_of_normalizeRule hrule₁, hlists]
        rfl
      · rw [hverified₂, hverified₁, hopen.2.2.2]
    obtain ⟨value, -, entry, hentry, hfits⟩ :=
      h _ _ {} 0 rule rule₂ hload rfl hplace hne hget hmatch
    exact not_fits_of_blank hblank hentry hfits
  · intro h file policy ctx i rule rule' hload hget hentries hne hget' hmatch
    obtain ⟨rule₁, hrule₁, hlist⟩ := entries_of_evaluated hcase hload place hget'
    rw [hget, Option.some_inj] at hrule₁
    subst hrule₁
    rw [hentries] at hlist
    have hsome := normalizePatternList_ne_nil h hne place.upper
    have hany := matchAny_of_loadRuleMatches hmatch place (by rwa [hlist])
    rw [hlist] at hany
    exact exists_fits_of_matchAny hcase hsome hany

theorem revokedDenies_iff {entries : List Str} :
  RevokedDenies entries ↔ Denying entries
  := by
  constructor
  · intro h
    by_contra hdenying
    rw [Denying, not_or] at hdenying
    obtain ⟨hblank, hfits⟩ := hdenying
    push Not at hblank
    obtain ⟨entry, hentry, hblank⟩ := hblank
    have hload : loadLoadPolicy (.ok (openPolicy [] entries []))
        = .ok (openPolicy (normalizePatternList [] false) (normalizePatternList entries false) []) :=
      loadLoadPolicy_eq_ok.mpr (normalizeAndValidate_open [] entries [])
    have hsame : toLower (trimSpace entry) = toLower (trimSpace []) := by
      rw [hblank]
      rfl
    have hdenied := h _ _ {} hload rfl entry hentry hsame
    have hallowed : (evaluateLoadPolicy (openPolicy (normalizePatternList [] false)
        (normalizePatternList entries false) []) {}).allowed = true := by
      rw [evaluateLoadPolicy, normalizeAndValidate_open]
      apply allowed_open rfl rfl
      · rfl
      · rw [normalizePatternList_again hcase entries false]
        rintro ⟨hsome, hmatch⟩
        obtain ⟨entry', hentry', hfits'⟩ := (matchStringPatterns_iff hcase hsome).mp hmatch
        exact hfits ⟨entry', hentry', hfits'⟩
    rw [hdenied] at hallowed
    cases hallowed
  · intro h file policy ctx hload hentries entry hentry hsame
    obtain ⟨-, hlist⟩ := lists_of_evaluated hcase hload
    rw [hentries] at hlist
    have hfits : ∃ entry ∈ entries, Fits false (toLower (trimSpace ctx.agentID)) entry := by
      by_cases hblank : trimSpace entry = []
      · rcases h with hnone | hsome
        · exact absurd hblank (hnone entry hentry)
        · rw [hblank] at hsame
          rwa [← hsame]
      · refine ⟨entry, hentry, hblank, .inr (.inl ?_)⟩
        have htrim := (patternOf_patternOf hcase false entry).1
        rw [← hsame]
        exact htrim.symm
    have hne : normalizePatternList entries false ≠ [] := by
      rw [ne_eq, normalizePatternList_eq_nil]
      intro hall
      obtain ⟨entry, hentry, hne, -⟩ := hfits
      exact hne (hall entry hentry)
    have hmatch := (matchStringPatterns_iff hcase hne).mpr hfits
    rw [Bool.eq_false_iff]
    intro hallowed
    obtain ⟨hpass, -⟩ := allowed_of_decideLoad hallowed
    rw [hlist] at hpass
    exact hpass ⟨hne, hmatch⟩

end

/-- The lists of a policy keep what they are meant to precisely when those that restrict have an
entry that is not blank, and the one that revokes has none that is. -/
theorem policy_lists_iff (hcase : SettledCase) (place : RuleList)
    (allowed entries revoked : List Str) :
  AllowedRestricts allowed ∧ RuleRestricts place entries ∧ RevokedDenies revoked
    ↔ Restrictive allowed ∧ Restrictive entries ∧ Denying revoked
  := by
  rw [allowedRestricts_iff hcase, ruleRestricts_iff hcase, revokedDenies_iff hcase]

end

/-! ### A list of blanks -/

section

attribute [local instance] asciiCaseTables

theorem policy_lists_team :
  SettledCase ∧ AllowedRestricts [str "agent-1"] ∧
    RuleRestricts .projects [str " ", str "team-*"] ∧ RevokedDenies [str "agent-9"]
  := by
  use settledCase_ascii
  apply (policy_lists_iff settledCase_ascii .projects _ _ _).mpr
  refine ⟨.inr ⟨_, List.mem_cons_self, ?_⟩, .inr ⟨str "team-*", ?_, ?_⟩, .inl ?_⟩
  · decide
  · decide
  · decide
  · decide

/-- A file whose only allowed agent is blank lets every agent load. -/
theorem blank_list_restricts_nothing :
  ¬ ∀ (place : RuleList) (allowed entries revoked : List Str),
    AllowedRestricts allowed ∧ RuleRestricts place entries ∧ RevokedDenies revoked
  := by
  intro h
  have hload : loadLoadPolicy (.ok (openPolicy [str " "] [] [])) = .ok (openPolicy [] [] []) := by
    rw [loadLoadPolicy_eq_ok, normalizeAndValidate_open]
    rfl
  have hallowed : (evaluateLoadPolicy (openPolicy [] [] [])
      { agentID := str "intruder" }).allowed = true := by
    rw [evaluateLoadPolicy, normalizeAndValidate_open]
    exact allowed_open rfl rfl rfl (fun h => h.1 rfl)
  obtain ⟨entry, hentry, hfits, -⟩ :=
    (h .agents [str " "] [] []).1 _ _ _ hload rfl (List.cons_ne_nil _ _) hallowed
  rw [List.mem_singleton] at hentry
  subst hentry
  exact hfits (by decide)

end

end Agent
