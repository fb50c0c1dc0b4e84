import BpfCompat.Agent.Ledger
import BpfCompat.Go.Flag
import BpfCompat.Transition

/-!
# Rolling back

`agent rollback` plans to go back to the load that the entry of the current load names, and can
execute the plan: it runs `agent apply` with the arguments of the plan.

The entry names the load before the current one whatever its version.  So the plan goes back to
another version as long as no run loads the version again that is current (`rollback_restores`),
and after a version was loaded twice it goes back to that version.  The arguments ask for the
version and not for the hash: what is loaded has the recorded hash where the artifact that is
selected for the version still states it.
-/

namespace Agent

open Go Registry Runtime

/-! ### Arguments -/

/-- The flags of `agent apply` that a rollback gives and that take a value, with what each sets. -/
def applySettings : List (Str × (Str → ApplyFlags → ApplyFlags)) :=
  [(str "api-url", fun v f => { f with apiURL := v }),
    (str "tenant", fun v f => { f with tenant := v }),
    (str "project", fun v f => { f with project := v }),
    (str "agent-id", fun v f => { f with agentID := v }),
    (str "artifact-name", fun v f => { f with artifactName := v }),
    (str "version", fun v f => { f with version := v }),
    (str "target-profile", fun v f => { f with targetProfile := v }),
    (str "workdir", fun v f => { f with workDir := v }),
    (str "out-dir", fun v f => { f with outDir := v }),
    (str "out", fun _ f => f),
    (str "load-policy", fun v f => { f with loadPolicyPath := v }),
    (str "manifest", fun v f => { f with manifestPath := v }),
    (str "registry-token", fun v f => { f with registryToken := v }),
    (str "identity-token", fun v f => { f with identityToken := v })]

/-- The flags of `agent apply` that a rollback gives. -/
def applyFlagSet : FlagSet ApplyFlags :=
  (str "approve-load", ⟨true, fun _ f => .ok { f with approveLoad := true }⟩) ::
    applySettings.map fun p => (p.1, Flag.string p.2)

/-- What the value after an argument sets. -/
def applySetting (arg : Str) : Str → ApplyFlags → ApplyFlags :=
  (applySettings.lookup (arg.drop 2)).getD fun _ f => f

/-- Whether a value is given at all. -/
def isGiven (p : Str × Str) : Bool := trimSpace p.2 ≠ []

/-- The arguments of a rollback that take a value. -/
def rollbackPairs (apiURL tenant project agentID artifactName version targetProfile workDir outDir
    outPath loadPolicyPath manifestPath : Str) : List (Str × Str) :=
  [(str "--api-url", apiURL), (str "--tenant", tenant), (str "--project", project),
    (str "--agent-id", agentID), (str "--artifact-name", artifactName), (str "--version", version),
    (str "--target-profile", targetProfile), (str "--workdir", workDir), (str "--out-dir", outDir),
    (str "--out", outPath), (str "--load-policy", loadPolicyPath),
    (str "--manifest", manifestPath)]

/-- The arguments of the tokens. -/
def tokenPairs (registryToken identityToken : Str) : List (Str × Str) :=
  [(str "--registry-token", registryToken), (str "--identity-token", identityToken)]

/-- What stands in the place of a token. -/
def redacted : Str := str "[redacted]"

def buildAgentRollbackApplyArgs (apiURL tenant project agentID artifactName version targetProfile
    registryToken identityToken workDir outDir outPath loadPolicyPath manifestPath : Str) :
    List Str :=
  [str "bpfcompat", str "agent", str "apply"] ++
    pairArgs ((rollbackPairs apiURL tenant project agentID artifactName version targetProfile
      workDir outDir outPath loadPolicyPath manifestPath).filter isGiven) ++
    str "--approve-load" ::
      pairArgs (((tokenPairs registryToken identityToken).filter isGiven).map fun p =>
        (p.1, redacted))

/-- The arguments with the first redacted value after a flag replaced. -/
def replaceFirstRedacted (flag value : Str) : List Str → Option (List Str)
  | arg :: next :: rest =>
    if arg = flag ∧ next = redacted then some (arg :: value :: rest)
    else (replaceFirstRedacted flag value (next :: rest)).map (arg :: ·)
  | _ => none

def replaceRedacted (flag value : Str) (args : List Str) : List Str :=
  if trimSpace value = [] then args
  else (replaceFirstRedacted flag value args).getD (args ++ [flag, value])

def rollbackExecuteArgs (displayArgs : List Str) (registryToken identityToken : Str) : List Str :=
  if displayArgs.length < 3 then []
  else
    replaceRedacted (str "--identity-token") identityToken
      (replaceRedacted (str "--registry-token") registryToken (displayArgs.drop 3))

/-- The arguments of pairs whose names are neither the flag nor a redacted value are passed
over. -/
theorem replaceFirstRedacted_pairArgs {flag value : Str} {arg : Str} {rest : List Str}
    (harg : arg ≠ redacted) (pairs : List (Str × Str))
    (h : ∀ p ∈ pairs, p.1 ≠ flag ∧ p.1 ≠ redacted) :
  replaceFirstRedacted flag value (pairArgs pairs ++ arg :: rest)
    = (replaceFirstRedacted flag value (arg :: rest)).map (pairArgs pairs ++ ·)
  := by
  induction pairs with
  | nil => simp
  | cons p pairs ih =>
      have hrest := ih fun q hq => h q (List.mem_cons_of_mem p hq)
      have hne := (h p List.mem_cons_self).1
      -- the argument after the value is a name, and no redacted value
      obtain ⟨next, tail, hnext, htail⟩ : ∃ next tail,
          pairArgs pairs ++ arg :: rest = next :: tail ∧ next ≠ redacted := by
        cases pairs with
        | nil => exact ⟨arg, rest, rfl, harg⟩
        | cons q pairs => exact ⟨q.1, _, rfl, (h q (by simp)).2⟩
      rw [pairArgs_cons, List.cons_append, List.cons_append, replaceFirstRedacted,
        if_neg fun hc => hne hc.1, hnext, replaceFirstRedacted, if_neg fun hc => htail hc.2,
        ← hnext, hrest, Option.map_map, Option.map_map]
      rfl

section

variable (apiURL tenant project agentID artifactName version targetProfile registryToken
  identityToken workDir outDir outPath loadPolicyPath manifestPath : Str)

theorem rollbackPairs_map_fst :
  (rollbackPairs apiURL tenant project agentID artifactName version targetProfile workDir outDir
      outPath loadPolicyPath manifestPath).map Prod.fst
    = [str "--api-url", str "--tenant", str "--project", str "--agent-id", str "--artifact-name",
        str "--version", str "--target-profile", str "--workdir", str "--out-dir", str "--out",
        str "--load-policy", str "--manifest"]
  := rfl

/-- A token that is given is put back into its place. -/
theorem replaceRedacted_tokens (pairs : List (Str × Str))
    (h : ∀ p ∈ pairs, p.1 ≠ str "--registry-token" ∧ p.1 ≠ str "--identity-token" ∧
      p.1 ≠ redacted) :
  replaceRedacted (str "--identity-token") identityToken
      (replaceRedacted (str "--registry-token") registryToken
        (pairArgs pairs ++ str "--approve-load" ::
          pairArgs (((tokenPairs registryToken identityToken).filter isGiven).map fun p =>
            (p.1, redacted))))
    = pairArgs pairs ++ str "--approve-load" ::
        pairArgs ((tokenPairs registryToken identityToken).filter isGiven)
  := by
  have happrove : str "--approve-load" ≠ redacted := by decide
  have hregistry : str "--approve-load" ≠ str "--registry-token" := by decide
  have hidentity : str "--approve-load" ≠ str "--identity-token" := by decide
  have hother : str "--registry-token" ≠ str "--identity-token" := by decide
  have hname : str "--identity-token" ≠ redacted := by decide
  have hfirst : ∀ value rest, replaceFirstRedacted (str "--registry-token") value
      (pairArgs pairs ++ str "--approve-load" :: rest)
        = (replaceFirstRedacted (str "--registry-token") value
          (str "--approve-load" :: rest)).map (pairArgs pairs ++ ·) := by
    intro value rest
    exact replaceFirstRedacted_pairArgs happrove pairs fun p hp => ⟨(h p hp).1, (h p hp).2.2⟩
  have hsecond : ∀ value rest, replaceFirstRedacted (str "--identity-token") value
      (pairArgs pairs ++ str "--approve-load" :: rest)
        = (replaceFirstRedacted (str "--identity-token") value
          (str "--approve-load" :: rest)).map (pairArgs pairs ++ ·) := by
    intro value rest
    exact replaceFirstRedacted_pairArgs happrove pairs fun p hp => ⟨(h p hp).2.1, (h p hp).2.2⟩
  by_cases hr : trimSpace registryToken = []
  · by_cases hi : trimSpace identityToken = []
    · simp [replaceRedacted, tokenPairs, isGiven, hr, hi]
    · simp [replaceRedacted, tokenPairs, isGiven, hr, hi, hsecond, replaceFirstRedacted, hidentity]
  · by_cases hi : trimSpace identityToken = []
    · simp [replaceRedacted, tokenPairs, isGiven, hr, hi, hfirst, replaceFirstRedacted, hregistry]
    · simp [replaceRedacted, tokenPairs, isGiven, hr, hi, hfirst, hsecond, replaceFirstRedacted,
        hregistry, hidentity, hother, hname]

/-- The flags a rollback runs `agent apply` with. -/
def rollbackApplyFlags (defaults : ApplyFlags) : ApplyFlags :=
  let given := ((rollbackPairs apiURL tenant project agentID artifactName version targetProfile
    workDir outDir outPath loadPolicyPath manifestPath).filter isGiven).foldl
      (fun f p => applySetting p.1 p.2 f) defaults
  ((tokenPairs registryToken identityToken).filter isGiven).foldl
    (fun f p => applySetting p.1 p.2 f) { given with approveLoad := true }

theorem applyFlagSet_lookup {arg : Str}
    (h : arg ∈ [str "--api-url", str "--tenant", str "--project", str "--agent-id",
      str "--artifact-name", str "--version", str "--target-profile", str "--workdir",
      str "--out-dir", str "--out", str "--load-policy", str "--manifest",
      str "--registry-token", str "--identity-token"]) :
  readArgument arg = .flag (arg.drop 2) none ∧
    applyFlagSet.lookup (arg.drop 2) = some (Flag.string (applySetting arg))
  := by
  simp only [List.mem_cons, List.not_mem_nil, or_false] at h
  rcases h with rfl | rfl | rfl | rfl | rfl | rfl | rfl | rfl | rfl | rfl | rfl | rfl | rfl | rfl
  all_goals exact ⟨by decide, rfl⟩

theorem mem_names_of_mem_rollbackPairs {p : Str × Str}
    (h : p ∈ (rollbackPairs apiURL tenant project agentID artifactName version targetProfile workDir
      outDir outPath loadPolicyPath manifestPath).filter isGiven) :
  p.1 ∈ [str "--api-url", str "--tenant", str "--project", str "--agent-id", str "--artifact-name",
    str "--version", str "--target-profile", str "--workdir", str "--out-dir", str "--out",
    str "--load-policy", str "--manifest"]
  := by
  rw [← rollbackPairs_map_fst apiURL tenant project agentID artifactName version targetProfile
    workDir outDir outPath loadPolicyPath manifestPath]
  apply List.mem_map_of_mem
  exact List.mem_of_mem_filter h

/-- The arguments of a rollback are read back. -/
theorem parse_rollbackExecuteArgs (defaults : ApplyFlags) :
  applyFlagSet.parse (rollbackExecuteArgs (buildAgentRollbackApplyArgs apiURL tenant project
      agentID artifactName version targetProfile registryToken identityToken workDir outDir outPath
      loadPolicyPath manifestPath) registryToken identityToken) defaults
    = .ok (rollbackApplyFlags apiURL tenant project agentID artifactName version targetProfile
        registryToken identityToken workDir outDir outPath loadPolicyPath manifestPath defaults, [])
  := by
  have hlength : ¬ (buildAgentRollbackApplyArgs apiURL tenant project agentID artifactName version
      targetProfile registryToken identityToken workDir outDir outPath loadPolicyPath
      manifestPath).length < 3 := by
    simp [buildAgentRollbackApplyArgs]
  have hcommand : ∀ args : List Str,
      ([str "bpfcompat", str "agent", str "apply"] ++ args).drop 3 = args := fun args => rfl
  have happrove : readArgument (str "--approve-load") = .flag (str "approve-load") none := by
    decide
  rw [rollbackExecuteArgs, if_neg hlength, buildAgentRollbackApplyArgs, List.append_assoc,
    hcommand, replaceRedacted_tokens]
  · rw [FlagSet.parse_pairs applySetting]
    · rw [FlagSet.parse_switch happrove rfl rfl,
        ← List.append_nil (pairArgs ((tokenPairs registryToken identityToken).filter isGiven)),
        FlagSet.parse_pairs applySetting]
      · rfl
      · intro p hp
        have hmem := List.mem_of_mem_filter hp
        simp only [tokenPairs, List.mem_cons, List.not_mem_nil, or_false] at hmem
        use p.1.drop 2
        apply applyFlagSet_lookup
        rcases hmem with rfl | rfl
        · simp
        · simp
    · intro p hp
      use p.1.drop 2
      apply applyFlagSet_lookup
      exact List.mem_append_left [str "--registry-token", str "--identity-token"]
        (mem_names_of_mem_rollbackPairs _ _ _ _ _ _ _ _ _ _ _ _ hp)
  · intro p hp
    have hmem := mem_names_of_mem_rollbackPairs _ _ _ _ _ _ _ _ _ _ _ _ hp
    generalize p.1 = name at hmem
    revert name
    decide

/-- A setting that a list of arguments leaves alone. -/
theorem foldl_applySetting {α : Type} (field : ApplyFlags → α) (pairs : List (Str × Str))
    (h : ∀ p ∈ pairs, ∀ f, field (applySetting p.1 p.2 f) = field f) (flags : ApplyFlags) :
  field (pairs.foldl (fun f p => applySetting p.1 p.2 f) flags) = field flags
  := by
  induction pairs generalizing flags with
  | nil => rfl
  | cons p pairs ih =>
      rw [List.foldl_cons, ih (fun q hq => h q (List.mem_cons_of_mem p hq)),
        h p List.mem_cons_self]

/-- A rollback asks for the version of its plan. -/
theorem rollbackApplyFlags_version (defaults : ApplyFlags) (h : trimSpace version ≠ []) :
  (rollbackApplyFlags apiURL tenant project agentID artifactName version targetProfile
    registryToken identityToken workDir outDir outPath loadPolicyPath manifestPath
    defaults).version = version
  := by
  have hsplit : rollbackPairs apiURL tenant project agentID artifactName version targetProfile
      workDir outDir outPath loadPolicyPath manifestPath
        = [(str "--api-url", apiURL), (str "--tenant", tenant), (str "--project", project),
            (str "--agent-id", agentID), (str "--artifact-name", artifactName)] ++
          (str "--version", version) ::
            [(str "--target-profile", targetProfile), (str "--workdir", workDir),
              (str "--out-dir", outDir), (str "--out", outPath),
              (str "--load-policy", loadPolicyPath), (str "--manifest", manifestPath)] := rfl
  have hgiven : isGiven (str "--version", version) = true := by
    simp [isGiven, h]
  rw [rollbackApplyFlags, hsplit, List.filter_append, List.filter_cons_of_pos hgiven,
    List.foldl_append, List.foldl_cons]
  -- neither the tokens nor the arguments after the version change it
  rw [foldl_applySetting fun f : ApplyFlags => f.version]
  · dsimp only
    rw [foldl_applySetting fun f : ApplyFlags => f.version]
    · rfl
    · intro p hp f
      have hmem := List.mem_of_mem_filter hp
      simp only [List.mem_cons, List.not_mem_nil, or_false] at hmem
      rcases hmem with rfl | rfl | rfl | rfl | rfl | rfl
      all_goals rfl
  · intro p hp f
    have hmem := List.mem_of_mem_filter hp
    simp only [tokenPairs, List.mem_cons, List.not_mem_nil, or_false] at hmem
    rcases hmem with rfl | rfl
    all_goals rfl

end

/-! ### The plan -/

structure RollbackFlags where
  workDir : Str := str ".bpfcompat"
  apiURL : Str := []
  tenant : Str := []
  project : Str := []
  agentID : Str := []
  artifactName : Str := []
  targetProfile : Str := []
  registryToken : Str := []
  identityToken : Str := []
  outDir : Str := str "artifacts/agent-selected"
  outPath : Str := []
  loadPolicyPath : Str := []
  manifestPath : Str := []
  execute : Bool := false
  record : Bool := true

structure RollbackPlan where
  schemaVersion : Str
  status : Str
  artifactName : Str
  current : LoadLedgerEntry
  previous : Option LoadLedgerEntry
  rollbackCommand : List Str
  reason : Str

def agentRegistryToken (w : World) (raw : Str) : Str :=
  if trimSpace raw ≠ [] then trimSpace raw
  else trimSpace (w.host.getenv (str "BPFCOMPAT_AGENT_REGISTRY_TOKEN"))

def agentIdentityToken (w : World) (raw : Str) : Str :=
  if trimSpace raw ≠ [] then trimSpace raw
  else trimSpace (w.host.getenv (str "BPFCOMPAT_AGENT_IDENTITY_TOKEN"))

/-- The load a rollback goes back to, as the entry of the current load describes it. -/
def previousLoad (flags : RollbackFlags) (current : LoadLedgerEntry) : LoadLedgerEntry where
  artifactName := trimSpace flags.artifactName
  selectedVersion := current.previousLoadedVersion
  selectedSHA256 := current.previousLoadedSHA256
  artifactPath := current.previousLoadedArtifactPath
  agentID := current.agentID
  tenant := current.tenant
  project := current.project
  targetProfile := firstNonEmpty [flags.targetProfile, current.targetProfile]
  hostProfileHint := current.hostProfileHint
  loadApproved := true

/-- The arguments of `agent apply` for a rollback. -/
def rollbackCommand (w : World) (flags : RollbackFlags) (current : LoadLedgerEntry) : List Str :=
  buildAgentRollbackApplyArgs flags.apiURL (firstNonEmpty [flags.tenant, current.tenant])
    (firstNonEmpty [flags.project, current.project])
    (firstNonEmpty [flags.agentID, current.agentID]) (trimSpace flags.artifactName)
    (previousLoad flags current).selectedVersion
    (firstNonEmpty [flags.targetProfile, current.targetProfile])
    (agentRegistryToken w flags.registryToken) (agentIdentityToken w flags.identityToken)
    flags.workDir flags.outDir flags.outPath flags.loadPolicyPath flags.manifestPath

/-- The plan to go back from a load. -/
def rollbackPlan (w : World) (flags : RollbackFlags) (current : LoadLedgerEntry) : RollbackPlan :=
  let plan : RollbackPlan := {
    schemaVersion := str "agent_rollback_plan.v0.1"
    status := str "ready"
    artifactName := trimSpace flags.artifactName
    current := current
    previous := none
    rollbackCommand := []
    reason := [] }
  if trimSpace current.previousLoadedVersion = [] then
    { plan with
      status := str "blocked"
      reason := str "current successful load has no previous successful version" }
  else
    { plan with
      previous := some (previousLoad flags current)
      rollbackCommand := rollbackCommand w flags current }

/-- The entry that a rollback was planned. -/
def rollbackDrill (plan : RollbackPlan) : LoadLedgerEntry where
  operation := str "rollback_drill"
  status := plan.status
  artifactName := plan.artifactName
  selectedVersion := plan.current.selectedVersion
  selectedSHA256 := plan.current.selectedSHA256
  agentID := plan.current.agentID
  tenant := plan.current.tenant
  project := plan.current.project
  decisionID := plan.current.decisionID
  targetProfile := plan.current.targetProfile
  hostProfileHint := plan.current.hostProfileHint
  artifactPath := plan.current.artifactPath
  previousLoadedVersion := plan.current.previousLoadedVersion
  previousLoadedSHA256 := plan.current.previousLoadedSHA256
  previousLoadedArtifactPath := plan.current.previousLoadedArtifactPath
  rollbackHint := plan.current.rollbackHint
  error := if plan.status ≠ str "ready" then plan.reason else []
  notes := [str ("rollback drill recorded; " ++
    "use agent rollback --execute to load previous version")]

def recordAgentRollbackDrill (faults : LedgerFaults) (ledger : LoadLedger) (plan : RollbackPlan) :
    Except Str LoadLedger :=
  match faults .newEntry, faults .append with
  | none, none => .ok (ledger ++ [rollbackDrill plan])
  | some e, _ => .error e
  | none, some e => .error e

/-! ### The run -/

/-- How a rollback ends: it is refused, its plan is shown, or the plan is executed by a run of
`agent apply` with the flags its arguments parse to. -/
inductive RollbackOutcome where
  | refused (message : Str)
  | planned (plan : RollbackPlan)
  | executed (plan : RollbackPlan) (flags : ApplyFlags) (outcome : ApplyOutcome)

/-- The plan of a rollback, if it came so far. -/
def planRollback (w : World) (faults : LedgerFaults) (ledger : LoadLedger) (flags : RollbackFlags) :
    Except Str RollbackPlan :=
  let artifact := trimSpace flags.artifactName
  if artifact = [] then .error (str "--artifact-name is required")
  else
    match faults .read with
    | some e => .error (str "read rollback ledger: " ++ e)
    | none =>
      match lastSuccessfulLoad ledger artifact with
      | none => .error (str "no successful load found for " ++ artifact)
      | some current => .ok (rollbackPlan w flags current)

section

variable [CaseTables]

/-- The execution of a plan; `defaults` are the flags of `agent apply` before its arguments are
read, some of which the environment sets. -/
def executeRollback (w : World) (defaults : ApplyFlags) (faults : LedgerFaults)
    (ledger : LoadLedger) (flags : RollbackFlags) (plan : RollbackPlan) :
    RollbackOutcome × LoadLedger :=
  if plan.status ≠ str "ready" ∨ plan.previous = none then
    (.refused (str "rollback is not ready: " ++ plan.reason), ledger)
  else
    match applyFlagSet.parse (rollbackExecuteArgs plan.rollbackCommand
      (agentRegistryToken w flags.registryToken) (agentIdentityToken w flags.identityToken))
      defaults with
    | .error e => (.refused e, ledger)
    | .ok (applyFlags, _) =>
      let outcome := runAgentApply w applyFlags
      (.executed plan applyFlags outcome, recordAgentApply faults ledger outcome)

def runAgentRollback (w : World) (defaults : ApplyFlags) (faults applyFaults : LedgerFaults)
    (ledger : LoadLedger) (flags : RollbackFlags) : RollbackOutcome × LoadLedger :=
  match planRollback w faults ledger flags with
  | .error e => (.refused e, ledger)
  | .ok plan =>
    match if flags.record then recordAgentRollbackDrill faults ledger plan else .ok ledger with
    | .error e => (.refused (str "record rollback drill: " ++ e), ledger)
    | .ok ledger =>
      if flags.execute then executeRollback w defaults applyFaults ledger flags plan
      else (.planned plan, ledger)

/-! ### Runs -/

/-- What is done on a host: applying, rolling back, and the other drills, which write entries of
their own into the ledger. -/
inductive LedgerStep where
  | apply (w : World) (flags : ApplyFlags) (faults : LedgerFaults)
  | rollback (w : World) (defaults : ApplyFlags) (flags : RollbackFlags)
      (faults applyFaults : LedgerFaults)
  | drill (entry : LoadLedgerEntry)
      (h : entry.operation = str "unload" ∨ entry.operation = str "revocation_drill")

def LedgerStep.run (ledger : LoadLedger) : LedgerStep → LoadLedger
  | .apply w flags faults => recordAgentApply faults ledger (runAgentApply w flags)
  | .rollback w defaults flags faults applyFaults =>
    (runAgentRollback w defaults faults applyFaults ledger flags).2
  | .drill entry _ => ledger ++ [entry]

/-- The step does not load the version again that is current, nor something without a version. -/
def LedgerStep.Fresh (ledger : LoadLedger) : LedgerStep → Prop
  | .apply w flags _ => Agent.Fresh ledger (runAgentApply w flags)
  | .rollback w defaults flags faults applyFaults =>
    ∀ plan applyFlags outcome, (runAgentRollback w defaults faults applyFaults ledger flags).1
      = .executed plan applyFlags outcome → Agent.Fresh ledger outcome
  | .drill _ _ => True

/-- A ledger becomes another one by a step that loads another version if it loads any. -/
def FreshStep (ledger ledger' : LoadLedger) : Prop :=
  ∃ step : LedgerStep, step.Fresh ledger ∧ ledger' = step.run ledger

/-- The two newest loads of every artifact are of different versions, and the newest names the
other. -/
def Orderly (ledger : LoadLedger) : Prop :=
  ∀ name, trimSpace name ≠ [] →
    Linked (successfulLoads ledger name) ∧ Distinct (successfulLoads ledger name)

omit [CaseTables] in
theorem orderly_append {ledger : LoadLedger} {entry : LoadLedgerEntry} (h : Orderly ledger)
    (hentry : entry.isSuccessfulLoad = false) :
  Orderly (ledger ++ [entry])
  := by
  intro name hname
  rw [successfulLoads_append ledger entry hname, if_neg (by simp [hentry])]
  exact h name hname

omit [CaseTables] in
theorem orderly_recordAgentApply {ledger : LoadLedger} {faults : LedgerFaults}
    {outcome : ApplyOutcome} (h : Orderly ledger) (hfresh : Fresh ledger outcome) :
  Orderly (recordAgentApply faults ledger outcome)
  := by
  intro name hname
  obtain ⟨hlinked, hdistinct⟩ := h name hname
  exact ⟨linked_recordAgentApply faults outcome hname hlinked,
    distinct_recordAgentApply faults outcome hname hfresh hdistinct⟩

omit [CaseTables] in
theorem fresh_append {ledger : LoadLedger} {entry : LoadLedgerEntry} {outcome : ApplyOutcome}
    (hentry : entry.isSuccessfulLoad = false) (h : Fresh ledger outcome) :
  Fresh (ledger ++ [entry]) outcome
  := by
  intro p status hp hstatus hname
  rw [lastSuccessfulLoad_append_of_not _ hentry]
  exact h p status hp hstatus hname

/-- What executing a plan leaves of the ledger. -/
theorem executeRollback_ledger (w : World) (defaults : ApplyFlags) (faults : LedgerFaults)
    (ledger : LoadLedger) (flags : RollbackFlags) (plan : RollbackPlan) :
  (executeRollback w defaults faults ledger flags plan).2 = ledger ∨
    ∃ applyFlags outcome,
      (executeRollback w defaults faults ledger flags plan).1
        = .executed plan applyFlags outcome ∧
      (executeRollback w defaults faults ledger flags plan).2
        = recordAgentApply faults ledger outcome
  := by
  rw [executeRollback]
  split_ifs
  · exact .inl rfl
  · split
    · exact .inl rfl
    · exact .inr ⟨_, _, rfl, rfl⟩

omit [CaseTables] in
theorem isSuccessfulLoad_rollbackDrill (plan : RollbackPlan) :
  (rollbackDrill plan).isSuccessfulLoad = false
  := rfl

omit [CaseTables] in
/-- The ledger after a drill was recorded, if it was to be. -/
theorem ledger_of_recordDrill {flags : RollbackFlags} {faults : LedgerFaults}
    {ledger ledger' : LoadLedger} {plan : RollbackPlan}
    (h : (if flags.record then recordAgentRollbackDrill faults ledger plan else .ok ledger)
      = .ok ledger') :
  ∃ drill : Option LoadLedgerEntry, (∀ entry ∈ drill, entry.isSuccessfulLoad = false) ∧
    ledger' = ledger ++ drill.toList
  := by
  by_cases hflag : flags.record = true
  · rw [if_pos hflag, recordAgentRollbackDrill] at h
    split at h
    · use some (rollbackDrill plan)
      refine ⟨?_, (Except.ok.inj h).symm⟩
      intro entry hentry
      rw [Option.mem_some_iff] at hentry
      rw [← hentry, isSuccessfulLoad_rollbackDrill]
    · cases h
    · cases h
  · rw [if_neg hflag] at h
    use none
    refine ⟨by simp, ?_⟩
    rw [Option.toList_none, List.append_nil]
    exact (Except.ok.inj h).symm

/-- A rollback leaves the ledger alone up to the entry of its drill, and to that of the run of
`agent apply` that executes its plan. -/
theorem runAgentRollback_ledger (w : World) (defaults : ApplyFlags)
    (faults applyFaults : LedgerFaults) (ledger : LoadLedger) (flags : RollbackFlags) :
  ∃ drill : Option LoadLedgerEntry, (∀ entry ∈ drill, entry.isSuccessfulLoad = false) ∧
    ((runAgentRollback w defaults faults applyFaults ledger flags).2 = ledger ++ drill.toList ∨
      ∃ plan applyFlags outcome,
        (runAgentRollback w defaults faults applyFaults ledger flags).1
          = .executed plan applyFlags outcome ∧
        (runAgentRollback w defaults faults applyFaults ledger flags).2
          = recordAgentApply applyFaults (ledger ++ drill.toList) outcome)
  := by
  rw [runAgentRollback]
  split
  · exact ⟨none, by simp, .inl (by simp)⟩
  · rename_i plan hplan
    split
    · exact ⟨none, by simp, .inl (by simp)⟩
    · rename_i ledger' hrecord
      obtain ⟨drill, hdrill, rfl⟩ := ledger_of_recordDrill hrecord
      refine ⟨drill, hdrill, ?_⟩
      by_cases hexecute : flags.execute = true
      · rw [if_pos hexecute]
        obtain h | ⟨applyFlags, outcome, houtcome, h⟩ :=
          executeRollback_ledger w defaults applyFaults (ledger ++ drill.toList) flags plan
        · exact .inl h
        · exact .inr ⟨plan, applyFlags, outcome, houtcome, h⟩
      · rw [if_neg hexecute]
        exact .inl rfl

/-- What a step that loads another version leaves of an orderly ledger. -/
theorem orderly_of_freshStep (ledger ledger' : LoadLedger) (h : Orderly ledger)
    (hstep : FreshStep ledger ledger') :
  Orderly ledger'
  := by
  obtain ⟨step, hfresh, rfl⟩ := hstep
  cases step with
  | apply w flags faults => exact orderly_recordAgentApply h hfresh
  | rollback w defaults flags faults applyFaults =>
      obtain ⟨drill, hdrill, hledger⟩ :=
        runAgentRollback_ledger w defaults faults applyFaults ledger flags
      have horderly : Orderly (ledger ++ drill.toList) ∧
          ∀ outcome, Fresh ledger outcome → Fresh (ledger ++ drill.toList) outcome := by
        cases drill with
        | none => simpa using h
        | some entry =>
            have hentry := hdrill entry rfl
            exact ⟨orderly_append h hentry, fun outcome => fresh_append hentry⟩
      rw [LedgerStep.run]
      obtain hledger | ⟨plan, applyFlags, outcome, houtcome, hledger⟩ := hledger
      · rw [hledger]
        exact horderly.1
      · rw [hledger]
        exact orderly_recordAgentApply horderly.1
          (horderly.2 outcome (hfresh plan applyFlags outcome houtcome))
  | drill entry hentry =>
      apply orderly_append h
      rcases hentry with hentry | hentry
      · simp only [LoadLedgerEntry.isSuccessfulLoad, hentry]
        rfl
      · simp only [LoadLedgerEntry.isSuccessfulLoad, hentry]
        rfl

/-! ### What a rollback restores -/

omit [CaseTables] in
/-- The newest load of an artifact that is of another version than the current one. -/
def earlierLoad (ledger : LoadLedger) (name : Str) : Option LoadLedgerEntry :=
  match successfulLoads ledger name with
  | [] => none
  | current :: before => before.find? fun entry => entry.selectedVersion ≠ current.selectedVersion

omit [CaseTables] in
/-- A plan that is ready names the newest load of another version and its hash, and a plan is
blocked only if there is none. -/
structure Restores (ledger : LoadLedger) (name : Str) (plan : RollbackPlan) : Prop where
  ready : plan.status = str "ready" → ∃ previous earlier, plan.previous = some previous ∧
    earlierLoad ledger name = some earlier ∧
    previous.selectedVersion = earlier.selectedVersion ∧
    previous.selectedSHA256 = earlier.selectedSHA256
  blocked : plan.status = str "blocked" → earlierLoad ledger name = none

/-- The artifact that is selected for a run states a hash, and it is fetched to a path without white
space around it. -/
structure Keeps (w : World) (flags : ApplyFlags) (hash : Str) : Prop where
  stated : hash ≠ []
  selected : ∀ plan, executeAgentPlan w flags.toCommonFlags = .ok plan →
    trimSpace plan.decision.selectedArtifact.sha256 = hash
  path : ∀ plan fetch files, executeAgentPlan w flags.toCommonFlags = .ok plan →
    fetchAgentSelectedArtifact w plan flags.apiURL flags.outDir = .ok (fetch, files) →
    trimSpace fetch.outputPath = fetch.outputPath

omit [CaseTables] in
theorem planRollback_eq_ok {w : World} {faults : LedgerFaults} {ledger : LoadLedger}
    {flags : RollbackFlags} {plan : RollbackPlan}
    (h : planRollback w faults ledger flags = .ok plan) :
  trimSpace flags.artifactName ≠ [] ∧ ∃ current before,
    successfulLoads ledger flags.artifactName = current :: before ∧
    plan = rollbackPlan w flags current
  := by
  rw [planRollback, refuse_if_eq_ok_iff] at h
  obtain ⟨hname, h⟩ := h
  refine ⟨hname, ?_⟩
  cases hread : faults .read with
  | some e =>
      rw [hread] at h
      cases h
  | none =>
      rw [hread, lastSuccessfulLoad_eq_head?, successfulLoads_trimSpace] at h
      cases hloads : successfulLoads ledger flags.artifactName with
      | nil =>
          rw [hloads] at h
          cases h
      | cons current before =>
          rw [hloads] at h
          exact ⟨current, before, rfl, (Except.ok.inj h).symm⟩

omit [CaseTables] in
theorem rollbackPlan_status_ready_iff (w : World) (flags : RollbackFlags)
    (current : LoadLedgerEntry) :
  (rollbackPlan w flags current).status = str "ready" ↔
    trimSpace current.previousLoadedVersion ≠ []
  := by
  rw [rollbackPlan]
  by_cases hblank : trimSpace current.previousLoadedVersion = []
  · have hblocked : str "blocked" ≠ str "ready" := by decide
    rw [if_pos hblank]
    exact iff_of_false hblocked (not_not.mpr hblank)
  · rw [if_neg hblank]
    exact iff_of_true rfl hblank

omit [CaseTables] in
theorem rollbackPlan_of_ready {w : World} {flags : RollbackFlags} {current : LoadLedgerEntry}
    (h : trimSpace current.previousLoadedVersion ≠ []) :
  (rollbackPlan w flags current).previous = some (previousLoad flags current) ∧
    (rollbackPlan w flags current).rollbackCommand = rollbackCommand w flags current
  := by
  rw [rollbackPlan, if_neg h]
  exact ⟨rfl, rfl⟩

omit [CaseTables] in
/-- In an orderly ledger the load before the current one is the newest of another version. -/
theorem restores_of_orderly {w : World} {faults : LedgerFaults} {ledger : LoadLedger}
    {flags : RollbackFlags} {plan : RollbackPlan} (h : Orderly ledger)
    (hplan : planRollback w faults ledger flags = .ok plan) :
  Restores ledger flags.artifactName plan
  := by
  obtain ⟨hname, current, before, hloads, rfl⟩ := planRollback_eq_ok hplan
  obtain ⟨hlinked, hdistinct⟩ := h flags.artifactName hname
  rw [hloads] at hlinked hdistinct
  cases before with
  | nil =>
      have hblank : current.previousLoadedVersion = [] := hlinked.1
      constructor
      · intro hready
        rw [rollbackPlan_status_ready_iff, hblank] at hready
        exact absurd rfl hready
      · intro _
        rw [earlierLoad, hloads]
        rfl
  | cons earlier older =>
      have hversion : current.previousLoadedVersion = earlier.selectedVersion := hlinked.1
      obtain ⟨hgiven, hother⟩ := hdistinct.2 earlier rfl
      have hready : trimSpace current.previousLoadedVersion ≠ [] := by rwa [hversion]
      constructor
      · intro _
        refine ⟨previousLoad flags current, earlier, (rollbackPlan_of_ready hready).1, ?_,
          hversion, hlinked.2⟩
        rw [earlierLoad, hloads]
        exact List.find?_cons_of_pos (by simpa using hother)
      · intro hblocked
        rw [(rollbackPlan_status_ready_iff w flags current).mpr hready] at hblocked
        exact absurd hblocked (by decide)

/-- A run that selects an artifact of a hash loads nothing else. -/
theorem hash_of_keeps {w : World} {flags : ApplyFlags} {p : Payload} {result : Except Str Str}
    {hash content : Str} (h : runAgentApply w flags = .executed p result)
    (hkeeps : Keeps w flags hash) (hloads : Loads w p content) :
  hexEncode (w.crypto.sha256 content) = hash
  := by
  obtain ⟨hplan, hfetch, -, -⟩ := runAgentApply_eq_executed h
  have hfetched := fetched_of_plan hplan hfetch
  rw [hkeeps.selected _ hplan] at hfetched
  obtain ⟨-, hcontent⟩ := loads_iff.mp hloads
  obtain ⟨stored, hstored, hhash⟩ := hfetched.stored
  rw [hkeeps.path _ _ _ hplan hfetch, hstored, Option.some.injEq] at hcontent
  subst hcontent
  rw [← hhash, hfetched.actual_eq hkeeps.stated]

/-- What a rollback that executed its plan did. -/
theorem executeRollback_eq_executed {w : World} {defaults : ApplyFlags} {faults : LedgerFaults}
    {ledger : LoadLedger} {flags : RollbackFlags} {current : LoadLedgerEntry} {plan : RollbackPlan}
    {applyFlags : ApplyFlags} {outcome : ApplyOutcome}
    (h : (executeRollback w defaults faults ledger flags (rollbackPlan w flags current)).1
      = .executed plan applyFlags outcome) :
  plan = rollbackPlan w flags current ∧ outcome = runAgentApply w applyFlags ∧
    trimSpace current.previousLoadedVersion ≠ [] ∧
    applyFlags.version = current.previousLoadedVersion
  := by
  rw [executeRollback] at h
  by_cases hrefused : (rollbackPlan w flags current).status ≠ str "ready" ∨
      (rollbackPlan w flags current).previous = none
  · rw [if_pos hrefused] at h
    cases h
  · have hready : trimSpace current.previousLoadedVersion ≠ [] := by
      rw [← rollbackPlan_status_ready_iff w flags]
      by_contra hstatus
      exact hrefused (.inl hstatus)
    rw [if_neg hrefused, (rollbackPlan_of_ready hready).2, rollbackCommand,
      parse_rollbackExecuteArgs] at h
    simp only [RollbackOutcome.executed.injEq] at h
    obtain ⟨rfl, rfl, rfl⟩ := h
    exact ⟨rfl, rfl, hready, rollbackApplyFlags_version _ _ _ _ _ _ _ _ _ _ _ _ _ _ _ hready⟩

theorem runAgentRollback_eq_executed {w : World} {defaults : ApplyFlags}
    {faults applyFaults : LedgerFaults} {ledger : LoadLedger} {flags : RollbackFlags}
    {plan : RollbackPlan} {applyFlags : ApplyFlags} {outcome : ApplyOutcome}
    (h : (runAgentRollback w defaults faults applyFaults ledger flags).1
      = .executed plan applyFlags outcome) :
  planRollback w faults ledger flags = .ok plan ∧ plan.status = str "ready" ∧
    outcome = runAgentApply w applyFlags ∧
    ∃ previous, plan.previous = some previous ∧ applyFlags.version = previous.selectedVersion
  := by
  rw [runAgentRollback] at h
  cases hplan : planRollback w faults ledger flags with
  | error e =>
      rw [hplan] at h
      cases h
  | ok plan' =>
      obtain ⟨-, current, before, -, rfl⟩ := planRollback_eq_ok hplan
      rw [hplan] at h
      dsimp only at h
      split at h
      · cases h
      · by_cases hexecute : flags.execute = true
        · rw [if_pos hexecute] at h
          obtain ⟨rfl, hrun, hready, hversion⟩ := executeRollback_eq_executed h
          exact ⟨rfl, (rollbackPlan_status_ready_iff w flags current).mpr hready, hrun, _,
            (rollbackPlan_of_ready hready).1, hversion⟩
        · rw [if_neg hexecute] at h
          cases h

/-- After any run of steps that never load the current version again, a rollback goes back to the
newest load of another version; executing it asks for that version, and loads nothing but what has
the recorded hash where the artifact that is selected still states it. -/
theorem rollback_restores (ledger : LoadLedger)
    (hrun : Relation.ReflTransGen FreshStep [] ledger) (w : World) (defaults : ApplyFlags)
    (faults applyFaults : LedgerFaults) (flags : RollbackFlags) :
  (∀ plan, planRollback w faults ledger flags = .ok plan →
      Restores ledger flags.artifactName plan) ∧
    ∀ plan applyFlags outcome,
      (runAgentRollback w defaults faults applyFaults ledger flags).1
        = .executed plan applyFlags outcome →
      ∃ earlier, earlierLoad ledger flags.artifactName = some earlier ∧
        applyFlags.version = earlier.selectedVersion ∧
        (Keeps w applyFlags earlier.selectedSHA256 → ∀ p result content,
          outcome = .executed p result → Loads w p content →
          hexEncode (w.crypto.sha256 content) = earlier.selectedSHA256)
  := by
  have horderly : Orderly ledger := by
    apply Transition.invariant orderly_of_freshStep hrun
    intro name _
    exact ⟨trivial, trivial⟩
  refine ⟨fun plan hplan => restores_of_orderly horderly hplan, ?_⟩
  intro plan applyFlags outcome houtcome
  obtain ⟨hplan, hready, rfl, previous, hprevious, hversion⟩ :=
    runAgentRollback_eq_executed houtcome
  obtain ⟨previous', earlier, hprevious', hearlier, hsame, -⟩ :=
    (restores_of_orderly horderly hplan).ready hready
  rw [hprevious, Option.some.injEq] at hprevious'
  subst hprevious'
  refine ⟨earlier, hearlier, hversion.trans hsame, ?_⟩
  intro hkeeps p result content hexecuted hloads
  exact hash_of_keeps hexecuted hkeeps hloads

end

/-! ### A version that is loaded twice -/

section

attribute [local instance] asciiCaseTables

/-- A control plane that selects a version of the artifact. -/
def versionWorld (version : Str) : World :=
  { edgeWorld with
    respond := fun _ => .ok ⟨200, some { remoteDecision with
      selectedArtifact := { remoteDecision.selectedArtifact with version := version } }⟩ }

/-- Nothing fails. -/
def noFaults : LedgerFaults := fun _ => none

/-- An approved run for a version. -/
def versionStep (version : Str) : LedgerStep :=
  .apply (versionWorld version) (edgeFlags (str "out")) noFaults

/-- The ledger after versions were loaded one after the other. -/
def loadedLedger (versions : List Str) : LoadLedger :=
  versions.foldl (fun ledger version => (versionStep version).run ledger) []

theorem loadedLedger_concat (versions : List Str) (version : Str) :
  loadedLedger (versions ++ [version]) = (versionStep version).run (loadedLedger versions)
  := by
  rw [loadedLedger, loadedLedger, List.foldl_append, List.foldl_cons, List.foldl_nil]

/-- A rollback of the artifact, which is executed on a host without a load policy. -/
def edgeRollback : RollbackFlags where
  artifactName := str "edge"
  apiURL := str "https://control.example"
  outDir := str "out"
  execute := true

/-- The hash of the empty file. -/
def emptyHash : Str := str "e3b0c44298fc1c149afbf4c8996fb92427ae41e4649b934ca495991b7852b855"

/-- A test of a rollback whose run of `agent apply` reached the load. -/
def RollbackOutcome.loadedWith (outcome : RollbackOutcome) (test : ApplyFlags → Payload → Bool) :
    Bool :=
  match outcome with
  | .executed _ flags (.executed p _) => test flags p
  | _ => false

theorem exists_of_loadedWith {o : RollbackOutcome} {t : ApplyFlags → Payload → Bool}
    (h : o.loadedWith t = true) :
  ∃ plan flags p result, o = .executed plan flags (.executed p result) ∧ t flags p = true
  := by
  rw [RollbackOutcome.loadedWith.eq_def] at h
  split at h
  · exact ⟨_, _, _, _, rfl, h⟩
  · cases h

/-- A test whether a run selects an artifact of a hash and fetches it to a path without white space
around it. -/
def keepsTest (w : World) (hash : Str) (flags : ApplyFlags) : Bool :=
  (executeAgentPlan w flags.toCommonFlags).toOption.all fun plan =>
    decide (trimSpace plan.decision.selectedArtifact.sha256 = hash) &&
      (fetchAgentSelectedArtifact w plan flags.apiURL flags.outDir).toOption.all fun fetched =>
        decide (trimSpace fetched.1.outputPath = fetched.1.outputPath)

theorem keeps_of_test {w : World} {flags : ApplyFlags} {hash : Str} (hstated : hash ≠ [])
    (h : keepsTest w hash flags = true) :
  Keeps w flags hash
  := by
  refine ⟨hstated, ?_, ?_⟩
  · intro plan hplan
    rw [keepsTest, hplan, Except.toOption, Option.all_some, Bool.and_eq_true,
      decide_eq_true_eq] at h
    exact h.1
  · intro plan fetch files hplan hfetch
    rw [keepsTest, hplan, Except.toOption, Option.all_some, Bool.and_eq_true, hfetch] at h
    exact of_decide_eq_true h.2

/-- Version 1.0 of the artifact and then version 2.0 was loaded, and the rollback loads 1.0
again. -/
theorem rollback_restores_first :
  Relation.ReflTransGen FreshStep [] (loadedLedger [str "1.0", str "2.0"]) ∧
    (∀ plan, planRollback (versionWorld (str "1.0")) noFaults
        (loadedLedger [str "1.0", str "2.0"]) edgeRollback = .ok plan →
      Restores (loadedLedger [str "1.0", str "2.0"]) (str "edge") plan) ∧
    ∃ plan flags p result earlier content,
      (runAgentRollback (versionWorld (str "1.0")) { requireLoadPolicy := false } noFaults noFaults
        (loadedLedger [str "1.0", str "2.0"]) edgeRollback).1
          = .executed plan flags (.executed p result) ∧
      earlierLoad (loadedLedger [str "1.0", str "2.0"]) (str "edge") = some earlier ∧
      Keeps (versionWorld (str "1.0")) flags earlier.selectedSHA256 ∧
      flags.version = str "1.0" ∧ Loads (versionWorld (str "1.0")) p content ∧
      hexEncode ((versionWorld (str "1.0")).crypto.sha256 content) = earlier.selectedSHA256
  := by
  have hfirst : FreshStep [] (loadedLedger [str "1.0"]) := by
    refine ⟨versionStep (str "1.0"), ?_, loadedLedger_concat [] (str "1.0")⟩
    rw [versionStep, LedgerStep.Fresh]
    decide
  have hsecond : FreshStep (loadedLedger [str "1.0"]) (loadedLedger [str "1.0", str "2.0"]) := by
    refine ⟨versionStep (str "2.0"), ?_, loadedLedger_concat [str "1.0"] (str "2.0")⟩
    rw [versionStep, LedgerStep.Fresh]
    decide
  have hrun := (Relation.ReflTransGen.single hfirst).tail hsecond
  have hload : (earlierLoad (loadedLedger [str "1.0", str "2.0"]) (str "edge")).map
      (fun entry => (entry.selectedVersion, entry.selectedSHA256))
        = some (str "1.0", emptyHash) := by decide +kernel
  obtain ⟨hplan, hexecute⟩ := rollback_restores _ hrun (versionWorld (str "1.0"))
    { requireLoadPolicy := false } noFaults noFaults edgeRollback
  obtain ⟨plan, flags, p, result, houtcome, htest⟩ := exists_of_loadedWith
    (o := (runAgentRollback (versionWorld (str "1.0")) { requireLoadPolicy := false } noFaults
      noFaults (loadedLedger [str "1.0", str "2.0"]) edgeRollback).1)
    (t := fun flags p => keepsTest (versionWorld (str "1.0")) emptyHash flags &&
      decide (trimSpace p.fetch.outputPath ≠ [] ∧
        p.files (absPath (versionWorld (str "1.0")).host.cwd (trimSpace p.fetch.outputPath))
          = some []))
    (by decide +kernel)
  rw [Bool.and_eq_true, decide_eq_true_eq] at htest
  obtain ⟨earlier, hearlier, hversion, hhash⟩ := hexecute _ _ _ houtcome
  rw [show earlierLoad _ (str "edge") = some earlier from hearlier, Option.map_some,
    Option.some.injEq, Prod.mk.injEq] at hload
  have hkeeps : Keeps (versionWorld (str "1.0")) flags earlier.selectedSHA256 := by
    rw [hload.2]
    exact keeps_of_test (by decide) htest.1
  have hloads := loads_iff.mpr htest.2
  exact ⟨hrun, hplan, plan, flags, p, result, earlier, [], houtcome, hearlier, hkeeps,
    hversion.trans hload.1, hloads, hhash hkeeps p result [] rfl hloads⟩

/-- Version 2.0 was loaded a second time after 1.0 and 2.0, and the plan that is ready names
2.0 and not 1.0. -/
theorem rollback_names_current :
  ∃ plan, planRollback edgeWorld noFaults
      (loadedLedger [str "1.0", str "2.0", str "2.0"]) edgeRollback = .ok plan ∧
    plan.status = str "ready" ∧
    ¬ Restores (loadedLedger [str "1.0", str "2.0", str "2.0"]) (str "edge") plan
  := by
  obtain ⟨plan, hok, htest⟩ := exists_ok_of_any
    (x := planRollback edgeWorld noFaults (loadedLedger [str "1.0", str "2.0", str "2.0"])
      edgeRollback)
    (p := fun plan => decide (plan.status = str "ready" ∧
      plan.previous.map (·.selectedVersion) = some (str "2.0")))
    (by decide +kernel)
  have hearlier : (earlierLoad (loadedLedger [str "1.0", str "2.0", str "2.0"])
      (str "edge")).map (·.selectedVersion) = some (str "1.0") := by decide +kernel
  rw [decide_eq_true_eq, Option.map_eq_some_iff] at htest
  rw [Option.map_eq_some_iff] at hearlier
  obtain ⟨hready, previous, hprevious, hnamed⟩ := htest
  obtain ⟨earlier, hload, hversion⟩ := hearlier
  refine ⟨plan, hok, hready, ?_⟩
  intro hrestores
  obtain ⟨previous', earlier', hprevious', hload', hsame, -⟩ := hrestores.ready hready
  rw [hprevious, Option.some.injEq] at hprevious'
  rw [hload, Option.some.injEq] at hload'
  subst hprevious' hload'
  rw [hnamed, hversion] at hsame
  exact absurd hsame (by decide)

end

end Agent
