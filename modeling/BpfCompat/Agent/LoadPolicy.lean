import BpfCompat.Go.Glob
import BpfCompat.Runtime.Policy

/-!
# Load policies

The operator of a host keeps a file that says which agents may load what.  Its rules are patterns
over the agent, the tenant, the project, the artifact, the profile, the kernel and the programs of
the manifest; the first rule that matches decides, and revoked agents are refused before any rule
is looked at (`evaluateLoadPolicy_revoked`).

The policy decides on a context that the caller puts together, so it is only as good as the
context.
-/

namespace Agent

open Go Registry Runtime

/-! ### The source -/

/-- A program a manifest declares: what a policy reads of it. -/
structure Program where
  type : Str
  attachKind : Str

/-- A manifest: the programs it declares. -/
structure Manifest where
  programs : List Program := []

structure LoadPolicyRule where
  name : Str := []
  action : Str := []
  agents : List Str := []
  tenants : List Str := []
  projects : List Str := []
  artifacts : List Str := []
  profiles : List Str := []
  programTypes : List Str := []
  attachKinds : List Str := []
  kernelMin : Str := []
  kernelMax : Str := []
  requireVerifiedHistory : Option Bool := none

structure LoadPolicy where
  schemaVersion : Str := []
  defaultAction : Str := []
  allowedAgents : List Str := []
  revokedAgents : List Str := []
  rules : List LoadPolicyRule := []

/-- What a policy decides on. -/
structure LoadPolicyContext where
  agentID : Str := []
  tenant : Str := []
  project : Str := []
  artifactName : Str := []
  targetProfileID : Str := []
  selectedRecord : ArtifactVersionRecord := {}
  hostProbe : Option HostCapabilities := none
  historyVerified : Bool := false
  manifest : Option Manifest := none

structure LoadPolicyDecision where
  schemaVersion : Str
  allowed : Bool
  ruleName : Str
  action : Str
  reason : Str
deriving DecidableEq

def loadPolicySchemaVersion : Str := str "agent_load_policy.v0.1"

/-- The first runs of digits of a text, at most so many. -/
def digitRuns : Nat → Str → List Str
  | 0, _ => []
  | fuel + 1, s =>
    let s := s.dropWhile fun b => !isDecimal b
    if s = [] then []
    else s.takeWhile isDecimal :: digitRuns fuel (s.dropWhile isDecimal)

def parseAgentKernelVersion (raw : Str) : Option (Int × Int × Int) :=
  match digitRuns 3 raw with
  | [major, minor] => do
    let major ← atoi major
    let minor ← atoi minor
    return (major, minor, 0)
  | [major, minor, patch] => do
    let major ← atoi major
    let minor ← atoi minor
    let patch ← atoi patch
    return (major, minor, patch)
  | _ => none

/-- One version is earlier than another. -/
def earlierKernel : Int × Int × Int → Int × Int × Int → Bool
  | (a, b, c), (a', b', c') => a < a' || a = a' && (b < b' || b = b' && c < c')

section

variable [CaseTables]

def normalizeLoadAction (value : Str) : Str := toLower (trimSpace value)

def isLoadAction (value : Str) : Bool := value = str "allow" || value = str "deny"

/-- The patterns in one letter case, the blank and the repeated ones dropped, in order. -/
def normalizePatternList (values : List Str) (upper : Bool) : List Str :=
  sortKeys (collect [] (((values.map trimSpace).filter (· ≠ [])).map
    (if upper then toUpper else toLower)))

/-- The rule at a position as normalisation leaves it, and the error if it is refused: its action
or a bound on the kernel is malformed. -/
def normalizeRule (i : Nat) (rule : LoadPolicyRule) : LoadPolicyRule × Option Str :=
  let name := if trimSpace rule.name = [] then str "rule-" ++ decimal (i + 1) else trimSpace rule.name
  let action := normalizeLoadAction rule.action
  let kernelMin := trimSpace rule.kernelMin
  let kernelMax := trimSpace rule.kernelMax
  let normalized : LoadPolicyRule :=
    { rule with
      name := name
      action := action
      agents := normalizePatternList rule.agents false
      tenants := normalizePatternList rule.tenants false
      projects := normalizePatternList rule.projects false
      artifacts := normalizePatternList rule.artifacts false
      profiles := normalizePatternList rule.profiles false
      programTypes := normalizePatternList rule.programTypes true
      attachKinds := normalizePatternList rule.attachKinds true
      kernelMin := kernelMin
      kernelMax := kernelMax }
  let malformed := fun text : Str => text ≠ [] ∧ (parseAgentKernelVersion text).isNone
  if !isLoadAction action then
    ({ rule with name := name, action := action },
      some (str "agent load policy rule " ++ quote name ++ str " action must be allow or deny"))
  else if malformed kernelMin then
    (normalized, some (str "agent load policy rule " ++ quote name ++ str " invalid kernel_min " ++
      quote kernelMin))
  else if malformed kernelMax then
    (normalized, some (str "agent load policy rule " ++ quote name ++ str " invalid kernel_max " ++
      quote kernelMax))
  else (normalized, none)

/-- The loop over the rules, which stops at the first one that is refused. -/
def normalizeRules (i : Nat) : List LoadPolicyRule → List LoadPolicyRule × Option Str
  | [] => ([], none)
  | rule :: rules =>
    match normalizeRule i rule with
    | (rule, some e) => (rule :: rules, some e)
    | (rule, none) =>
      let (rules, e) := normalizeRules (i + 1) rules
      (rule :: rules, e)

/-- The policy as normalisation leaves it, and the error if it is refused. -/
def normalizeAndValidate (policy : LoadPolicy) : LoadPolicy × Option Str :=
  let action := normalizeLoadAction policy.defaultAction
  let action := if action = [] then str "deny" else action
  if trimSpace policy.schemaVersion ≠ [] ∧
      trimSpace policy.schemaVersion ≠ loadPolicySchemaVersion then
    (policy, some (str "agent load policy schema_version must be " ++ loadPolicySchemaVersion))
  else if !isLoadAction action then
    ({ policy with defaultAction := action },
      some (str "agent load policy default_action must be allow or deny"))
  else
    let (rules, e) := normalizeRules 0 policy.rules
    ({ policy with
      defaultAction := action
      allowedAgents := normalizePatternList policy.allowedAgents false
      revokedAgents := normalizePatternList policy.revokedAgents false
      rules := rules }, e)

/-- The policy of a file, which was decoded or could not be. -/
def loadLoadPolicy (decoded : Except Str LoadPolicy) : Except Str LoadPolicy :=
  match decoded with
  | .error e => .error e
  | .ok policy =>
    match normalizeAndValidate policy with
    | (_, some e) => .error e
    | (policy, none) => .ok policy

omit [CaseTables] in
/-- Whether a value is of one of the patterns; no patterns admit every value. -/
def matchStringPatterns (value : Str) (patterns : List Str) : Bool :=
  patterns = [] || patterns.any fun pattern =>
    let pattern := trimSpace pattern
    pattern ≠ [] && (pattern = str "*" || pattern = trimSpace value ||
      pathMatch pattern (trimSpace value) = some true)

omit [CaseTables] in
def matchAnyPattern (values patterns : List Str) : Bool :=
  patterns = [] || values.any fun value => matchStringPatterns value patterns

/-- The profiles a load is for: the requested one, those the record supports and the one the host
is like. -/
def loadPolicyProfileCandidates (ctx : LoadPolicyContext) : List Str :=
  collect [] ((([ctx.targetProfileID] ++ ctx.selectedRecord.supportedProfiles ++
    (ctx.hostProbe.map hostProfileHint).toList).map fun v => toLower (trimSpace v)).filter (· ≠ []))

omit [CaseTables] in
/-- The kernel of the host is within the bounds of a rule. -/
def kernelWithin (rule : LoadPolicyRule) (ctx : LoadPolicyContext) : Bool :=
  let kernelMin := trimSpace rule.kernelMin
  let kernelMax := trimSpace rule.kernelMax
  if kernelMin = [] ∧ kernelMax = [] then true
  else
    match ctx.hostProbe.bind fun host => parseAgentKernelVersion host.kernelRelease with
    | none => false
    | some hostVersion =>
      (kernelMin = [] ||
        !earlierKernel hostVersion ((parseAgentKernelVersion rule.kernelMin).getD (0, 0, 0))) &&
      (kernelMax = [] ||
        !earlierKernel ((parseAgentKernelVersion rule.kernelMax).getD (0, 0, 0)) hostVersion)

/-- A pattern list of a rule that looks at the programs of the manifest. -/
def matchPrograms (field : Program → Str) (patterns : List Str) (ctx : LoadPolicyContext) : Bool :=
  patterns = [] ||
    match ctx.manifest with
    | none => false
    | some m => matchAnyPattern (m.programs.map fun p => toUpper (trimSpace (field p))) patterns

def loadRuleMatches (rule : LoadPolicyRule) (ctx : LoadPolicyContext) : Bool :=
  matchStringPatterns (toLower (trimSpace ctx.agentID)) rule.agents &&
  matchStringPatterns (toLower (trimSpace ctx.tenant)) rule.tenants &&
  matchStringPatterns (toLower (trimSpace ctx.project)) rule.projects &&
  matchStringPatterns (toLower (trimSpace ctx.artifactName)) rule.artifacts &&
  rule.requireVerifiedHistory.all (· = ctx.historyVerified) &&
  (rule.profiles = [] || matchAnyPattern (loadPolicyProfileCandidates ctx) rule.profiles) &&
  kernelWithin rule ctx &&
  matchPrograms Program.type rule.programTypes ctx &&
  matchPrograms Program.attachKind rule.attachKinds ctx

/-- What a normalised policy decides on a context. -/
def decideLoad (policy : LoadPolicy) (ctx : LoadPolicyContext) : LoadPolicyDecision :=
  let agentID := toLower (trimSpace ctx.agentID)
  if policy.revokedAgents ≠ [] ∧ matchStringPatterns agentID policy.revokedAgents then
    { schemaVersion := loadPolicySchemaVersion
      allowed := false
      ruleName := str "revoked_agents"
      action := str "deny"
      reason := str "agent identity is revoked by local load policy" }
  else if policy.allowedAgents ≠ [] ∧ !matchStringPatterns agentID policy.allowedAgents then
    { schemaVersion := loadPolicySchemaVersion
      allowed := false
      ruleName := str "allowed_agents"
      action := str "deny"
      reason := str "agent identity is not in local load policy allowed_agents" }
  else
    match policy.rules.find? fun rule => loadRuleMatches rule ctx with
    | some rule =>
      { schemaVersion := loadPolicySchemaVersion
        allowed := rule.action = str "allow"
        ruleName := rule.name
        action := rule.action
        reason := str "matched local load policy rule " ++ quote rule.name }
    | none =>
      let action := if policy.defaultAction = [] then str "deny" else policy.defaultAction
      { schemaVersion := loadPolicySchemaVersion
        allowed := action = str "allow"
        ruleName := str "default"
        action := action
        reason := str "no local load policy rule matched; default_action applied" }

/-- The decision on a context.  The policy of a file has been normalised before, and is once
more. -/
def evaluateLoadPolicy (policy : LoadPolicy) (ctx : LoadPolicyContext) : LoadPolicyDecision :=
  decideLoad (normalizeAndValidate policy).1 ctx

/-! ### Revocation -/

/-- The policy revokes an agent. -/
def Revokes (policy : LoadPolicy) (agentID : Str) : Prop :=
  let revoked := (normalizeAndValidate policy).1.revokedAgents
  revoked ≠ [] ∧ matchStringPatterns (toLower (trimSpace agentID)) revoked = true

instance decidableRevokes (policy : LoadPolicy) (agentID : Str) :
    Decidable (Revokes policy agentID) :=
  inferInstanceAs (Decidable (_ ∧ _))

/-- A revoked agent is refused whatever the rules say. -/
theorem evaluateLoadPolicy_revoked {policy : LoadPolicy} {ctx : LoadPolicyContext}
    (h : Revokes policy ctx.agentID) :
  (evaluateLoadPolicy policy ctx).allowed = false
  := by
  obtain ⟨hne, hmatch⟩ := h
  rw [evaluateLoadPolicy, decideLoad, if_pos ⟨hne, hmatch⟩]

end

end Agent
