import BpfCompat.Agent.Decision
import BpfCompat.Agent.LoadPolicy
import BpfCompat.Registry.Writers
import BpfCompat.Runtime.Fetch

/-!
# Applying a decision

`agent apply` plans, locally or by asking a control plane, fetches the selected artifact, and loads
it on the host if that was approved: the approval pins, the manifest and the load policy of the
host are checked in this order before the file is handed to the validator.

A run reads the world it is in: the records and files of the host, the answers of the control
plane, the clock.  It ends in one of the outcomes of `ApplyOutcome`, and reaches the load step in
one of them only.
-/

namespace Agent

open Go Registry Runtime

/-! ### Flags and the world -/

/-- The flags a plan reads; those of the selection policy are kept as the policy they build. -/
structure CommonFlags where
  workDir : Str := str ".bpfcompat"
  apiURL : Str := []
  tenant : Str := []
  project : Str := []
  agentID : Str := []
  artifactName : Str := []
  version : Str := []
  targetProfile : Str := []
  registryToken : Str := []
  identityToken : Str := []
  requireVerifiedHistory : Bool := true
  relaxedPolicy : Bool := false
  policy : Except Str SelectionPolicy := .ok {}

/-- The flags of a run; the timeout is kept as parsed. -/
structure ApplyFlags extends CommonFlags where
  outDir : Str := str "artifacts/agent-selected"
  approveLoad : Bool := false
  manifestPath : Str := []
  timeout : Except Str Unit := .ok ()
  loadPolicyPath : Str := []
  requireLoadPolicy : Bool := true
  expectedDecisionID : Str := []
  expectedSHA256 : Str := []
  requireApprovalPins : Bool := false
  requireManifest : Bool := false

/-- An answer of the control plane: its status and the decision its body decodes to. -/
structure Response where
  status : Nat
  decision : Option DecisionResult

/-- What a run reads: the host and its files, the directories of the registry, the clock, the
control plane, and the files of the policy and the manifest as they decode. -/
structure World where
  crypto : Crypto
  host : FetchHost
  files : Files
  hostname : Option Str
  probe : Except Str HostCapabilities
  workDir : Str → WorkDir
  projectDir : Str → Str → Str → Except Str WorkDir
  draw : Draw
  respond : DecisionRequest → Except Str Response
  get : Str → Str → Except Str (Nat × Str)
  policyFile : Str → Except Str LoadPolicy
  manifestFile : Str → Except Str Manifest
  validate : Str → Except Str Str

/-- The first of the values that is not blank, without white space around it. -/
def firstNonEmpty (values : List Str) : Str :=
  ((values.map trimSpace).find? (· ≠ [])).getD []

/-- A status of success. -/
def isSuccessStatus (status : Nat) : Bool := 200 ≤ status && status < 300

/-! ### Planning -/

def resolveAgentID (w : World) (raw : Str) : Str :=
  if trimSpace raw ≠ [] then trimSpace raw
  else
    match w.hostname with
    | none => str "local-agent"
    | some hostname => if trimSpace hostname = [] then str "local-agent" else trimSpace hostname

/-- The endpoint of the control plane for decisions: where its requests go. -/
def resolveAgentEndpoint (apiURL : Str) : Except Str Destination :=
  match parseUrl (trimSpace apiURL) with
  | none => .error (str "parse api-url")
  | some origin =>
    if origin.scheme = [] ∨ origin.host = [] then
      .error (str "api-url must include scheme and host")
    else .ok (resolve origin.destination { path := str "/api/v1/agent/decision" })

def requestRemoteAgentDecision (w : World) (apiURL : Str) (req : DecisionRequest) :
    Except Str DecisionResult := do
  let _ ← resolveAgentEndpoint apiURL
  let resp ← w.respond req
  if !isSuccessStatus resp.status then
    .error (str "agent decision HTTP " ++ decimal resp.status)
  else
    match resp.decision with
    | none => .error (str "decode agent decision response")
    | some decision =>
      if decision.schemaVersion = [] then .error (str "agent decision response missing decision")
      else .ok decision

def recordFromSelectedArtifact (selected : SelectedArtifact) : ArtifactVersionRecord where
  runID := trimSpace selected.runID
  artifactName := trimSpace selected.name
  artifactVersion := trimSpace selected.version
  artifactVariant := trimSpace selected.variant
  artifactURI := trimSpace selected.artifactURI
  artifactSHA256 := trimSpace selected.sha256
  manifestPath := trimSpace selected.manifestPath
  summaryStatus := trimSpace selected.summaryStatus
  requiredPassed := selected.requiredPassed
  requiredFailed := selected.requiredFailed
  supportedProfiles := selected.supportedProfiles
  failedProfiles := selected.failedProfiles

/-- The policy of the flags; unless it is relaxed, a passing summary without failures is
demanded. -/
def agentPolicy (flags : CommonFlags) (policy : SelectionPolicy) : SelectionPolicy :=
  if flags.relaxedPolicy then policy
  else
    { policy with
      requireSummaryPass := true
      maxRequiredFailed := some (policy.maxRequiredFailed.getD 0) }

/-- What the flags ask for on a host. -/
def planRequest (w : World) (flags : CommonFlags) (policy : SelectionPolicy)
    (hostProbe : HostCapabilities) : DecisionRequest where
  tenant := trimSpace flags.tenant
  project := trimSpace flags.project
  agentID := resolveAgentID w flags.agentID
  artifactName := trimSpace flags.artifactName
  version := trimSpace flags.version
  targetProfile := trimSpace flags.targetProfile
  limit := 5
  requireVerifiedHistory := some flags.requireVerifiedHistory
  policy := agentPolicy flags policy
  hostProbe := hostProbe

/-- The directory whose history a local plan reads. -/
def recordsDir (w : World) (flags : CommonFlags) : Except Str WorkDir :=
  let tenant := trimSpace flags.tenant
  let project := trimSpace flags.project
  let workDir := if trimSpace flags.workDir = [] then str ".bpfcompat" else trimSpace flags.workDir
  if tenant = [] ∧ project = [] then .ok (w.workDir workDir)
  else if tenant = [] ∨ project = [] then
    .error (str ("--tenant and --project must be provided together " ++
      "for local cloud-registry decisions"))
  else w.projectDir workDir tenant project

/-- A plan: the decision, the host it is for, the record it selects, and whether the control plane
made it. -/
structure Plan where
  decision : DecisionResult
  hostProbe : HostCapabilities
  record : ArtifactVersionRecord
  remote : Bool

inductive PlanError where
  | message (text : Str)
  | decision (reason : DecisionError)

/-- An error of a computation as an error of a plan. -/
def planStep {α : Type*} (x : Except Str α) : Except PlanError α := x.mapError .message

/-- Changing the error of a computation leaves its results alone. -/
theorem mapError_eq_ok_iff {ε ε' α : Type*} {x : Except ε α} {f : ε → ε'} {a : α} :
  x.mapError f = .ok a ↔ x = .ok a
  := by
  cases x with
  | error e => simp [Except.mapError]
  | ok b => simp [Except.mapError]

section

variable [CaseTables]

/-- A decision on the history of the host. -/
def localDecision (w : World) (flags : CommonFlags) (req : DecisionRequest) :
    Except PlanError (DecisionResult × ArtifactVersionRecord) := do
  let dir ← planStep (recordsDir w flags)
  match listArtifactVersions dir.index (trimSpace flags.artifactName) 0 with
  | none => .error (.message (str "read artifact history"))
  | some records => (buildDecision w.crypto dir w.draw records req).mapError .decision

def executeAgentPlan (w : World) (flags : CommonFlags) : Except PlanError Plan := do
  if trimSpace flags.artifactName = [] then .error (.message (str "--artifact-name is required"))
  else
    let policy ← planStep flags.policy
    let hostProbe ← planStep w.probe
    let req := planRequest w flags policy hostProbe
    if trimSpace flags.apiURL ≠ [] then
      let decision ← planStep (requestRemoteAgentDecision w flags.apiURL req)
      .ok {
        decision := decision
        hostProbe := hostProbe
        record := recordFromSelectedArtifact decision.selectedArtifact
        remote := true }
    else
      let (decision, record) ← localDecision w flags req
      .ok { decision := decision, hostProbe := hostProbe, record := record, remote := false }

/-! ### Fetching -/

/-- A name as a part of a file name: letters, digits, dots, underscores and hyphens. -/
def sanitizeAgentFileName (raw : Str) : Str :=
  trimBoth (fun b => b = 46 || b = 45 || b = 95)
    ((trimSpace (toLower raw)).filter fun b =>
      (97 ≤ b && b ≤ 122) || (48 ≤ b && b ≤ 57) || b = 46 || b = 45 || b = 95)

def agentArtifactFileName (selected : SelectedArtifact) : Str :=
  let name := sanitizeAgentFileName selected.name
  let version := sanitizeAgentFileName selected.version
  let variant := sanitizeAgentFileName selected.variant
  (if name = [] then str "artifact" else name) ++ str "-" ++
    (if version = [] then str "selected" else version) ++
    (if variant = [] then [] else str "-" ++ variant) ++ str ".bpf.o"

omit [CaseTables] in
/-- Where a download goes. -/
def absolutizeAgentURL (apiURL ref : Str) : Except Str Destination :=
  match parseUrl (trimSpace ref) with
  | none => .error (str "parse selected download_url")
  | some parsedRef =>
    if parsedRef.scheme ≠ [] then .ok parsedRef.destination
    else
      match parseUrl (trimSpace apiURL) with
      | none => .error (str "parse api-url")
      | some origin => .ok (resolve origin.destination parsedRef)

def agentFetchMaxBytes : Nat := 128 * 2 ^ 20

omit [CaseTables] in
/-- A failure of the operating system as an error with a label. -/
def ioStep (w : World) (op : Operation) (path label : Str) : Except Str Unit :=
  match w.host.ioError op path with
  | some e => .error (label ++ e)
  | none => .ok ()

/-- The artifact a control plane selected, downloaded next to its place and moved there once its
hash was checked. -/
def downloadSelectedArtifact (w : World) (selected : SelectedArtifact) (apiURL outDir : Str) :
    Except Str (FetchResult × Files) := do
  let downloadURL := trimSpace selected.downloadURL
  if downloadURL = [] then .error (str "remote agent decision did not include download_url")
  else
    let _ ← absolutizeAgentURL apiURL downloadURL
    let _ ← ioStep w .mkdirAll (clean outDir) (str "create agent output directory: ")
    let targetPath := joinPath [clean outDir, agentArtifactFileName selected]
    let tmpPath := targetPath ++ str ".partial"
    let (status, body) ← w.get apiURL downloadURL
    if !isSuccessStatus status then
      .error (str "download selected artifact HTTP " ++ decimal status)
    else
      let _ ← ioStep w .create tmpPath (str "create selected artifact file: ")
      let _ ← ioStep w .copy tmpPath (str "write selected artifact: ")
      let _ ← ioStep w .close tmpPath (str "close selected artifact: ")
      let actual := hexEncode (w.crypto.sha256 body)
      let expected := trimSpace selected.sha256
      if agentFetchMaxBytes < body.length then
        .error (str "selected artifact exceeds " ++ decimal agentFetchMaxBytes ++ str " bytes")
      else if expected ≠ [] ∧ actual ≠ expected then
        .error (str "selected artifact hash mismatch: expected=" ++ expected ++ str " got=" ++
          actual)
      else
        let _ ← ioStep w .rename targetPath (str "move selected artifact into place: ")
        .ok ({
          artifactName := selected.name
          artifactVersion := selected.version
          artifactVariant := selected.variant
          outputPath := targetPath
          expectedSHA256 := expected
          actualSHA256 := actual },
          (w.files.set (absPath w.host.cwd tmpPath) none).set (absPath w.host.cwd targetPath)
            (some body))

def fetchAgentSelectedArtifact (w : World) (plan : Plan) (apiURL outDir : Str) :
    Except Str (FetchResult × Files) :=
  if !plan.remote then fetchArtifact w.crypto.sha256 w.host w.files plan.record outDir
  else downloadSelectedArtifact w plan.decision.selectedArtifact apiURL outDir

/-! ### The gates -/

omit [CaseTables] in
def isAgentSHA256Hex (raw : Str) : Bool :=
  raw.length = 64 && raw.all fun b =>
    (48 ≤ b && b ≤ 57) || (97 ≤ b && b ≤ 102) || (65 ≤ b && b ≤ 70)

def validateAgentApprovalPins (decision : DecisionResult) (fetch : FetchResult)
    (expectedDecisionID expectedSHA256 : Str) (requirePins : Bool) : Except Str Unit :=
  let expectedDecisionID := trimSpace expectedDecisionID
  let expectedSHA256 := toLower (trimSpace expectedSHA256)
  let actual := toLower (firstNonEmpty
    [decision.selectedArtifact.sha256, fetch.expectedSHA256, fetch.actualSHA256])
  if requirePins ∧ expectedDecisionID = [] then
    .error (str "--expected-decision-id is required when --require-approval-pins=true")
  else if requirePins ∧ expectedSHA256 = [] then
    .error (str "--expected-sha256 is required when --require-approval-pins=true")
  else if expectedDecisionID ≠ [] ∧ expectedDecisionID ≠ trimSpace decision.decisionID then
    .error (str "decision id mismatch: expected=" ++ expectedDecisionID ++ str " got=" ++
      trimSpace decision.decisionID)
  else if expectedSHA256 = [] then .ok ()
  else if !isAgentSHA256Hex expectedSHA256 then
    .error (str "expected sha256 must be 64 lowercase/uppercase hex characters")
  else if actual = [] then .error (str "selected artifact sha256 is unavailable")
  else if actual ≠ expectedSHA256 then
    .error (str "selected artifact sha256 mismatch: expected=" ++ expectedSHA256 ++ str " got=" ++
      actual)
  else .ok ()

omit [CaseTables] in
def loadAgentManifestIntent (w : World) (manifestPath : Str) : Except Str Manifest := do
  let loaded ← w.manifestFile (clean manifestPath)
  if loaded.programs = [] then .error (str "manifest must declare at least one program")
  else .ok loaded

omit [CaseTables] in
/-- The manifest of a load, if there is one. -/
def buildAgentManifestIntent (w : World) (manifestPath : Str) (requireManifest : Bool) :
    Except Str (Option Manifest) :=
  let manifestPath := trimSpace manifestPath
  if manifestPath = [] then
    if requireManifest then .error (str "--manifest is required when --require-manifest=true")
    else .ok none
  else
    match loadAgentManifestIntent w manifestPath with
    | .error e => .error (str "load manifest intent: " ++ e)
    | .ok loaded => .ok (some loaded)

omit [CaseTables] in
/-- The context a load is decided on: what the decision says, the record and the host. -/
def loadPolicyContext (plan : Plan) (manifest : Option Manifest) : LoadPolicyContext where
  agentID := plan.decision.agentID
  tenant := plan.decision.tenant
  project := plan.decision.project
  artifactName := firstNonEmpty [plan.decision.selectedArtifact.name, plan.decision.artifactName,
    plan.record.artifactName]
  targetProfileID := plan.decision.targetProfile
  selectedRecord := plan.record
  hostProbe := some plan.hostProbe
  historyVerified := plan.decision.historyVerification.any HistoryVerificationResult.verified
  manifest := manifest

omit [CaseTables] in
/-- The manifest a policy looks at. -/
def policyManifest (w : World) (manifestPath : Str) : Except Str (Option Manifest) :=
  if trimSpace manifestPath = [] then .ok none
  else
    match w.manifestFile (clean manifestPath) with
    | .error e => .error (str "load policy manifest context: " ++ e)
    | .ok loaded => .ok (some loaded)

/-- The policy of a file. -/
def readLoadPolicy (w : World) (path : Str) : Except Str LoadPolicy :=
  loadLoadPolicy (w.policyFile (clean (trimSpace path)))

def evaluateAgentLocalLoadPolicy (w : World) (policyPath : Str) (requirePolicy : Bool) (plan : Plan)
    (manifestPath : Str) : Except Str LoadPolicyDecision := do
  if trimSpace policyPath = [] then
    if requirePolicy then .error (str "--load-policy is required for --approve-load")
    else
      .ok {
        schemaVersion := loadPolicySchemaVersion
        allowed := true
        ruleName := str "policy_not_configured"
        action := str "allow"
        reason := str "local load policy not configured and require_load_policy=false" }
  else
    let policy ← readLoadPolicy w policyPath
    let manifest ← policyManifest w manifestPath
    .ok (evaluateLoadPolicy policy (loadPolicyContext plan manifest))

/-! ### The run -/

/-- The gate a load was refused at. -/
inductive Phase where
  | approval
  | manifest
  | loadPolicy
deriving DecidableEq

omit [CaseTables] in
/-- The manifest of a load: that of the flags, or of the record of a local plan. -/
def manifestToUse (flags : ApplyFlags) (plan : Plan) : Str :=
  if trimSpace flags.manifestPath = [] ∧ plan.remote = false then trimSpace plan.record.manifestPath
  else trimSpace flags.manifestPath

omit [CaseTables] in
/-- An error of a computation as a refusal at a gate. -/
def gate {α : Type*} (phase : Phase) (label : Str) (x : Except Str α) : Except (Phase × Str) α :=
  x.mapError fun e => (phase, label ++ e)

/-- The gates a load has to pass, in order. -/
def passGates (w : World) (flags : ApplyFlags) (plan : Plan) (fetch : FetchResult) :
    Except (Phase × Str) Unit := do
  let _ ← gate .approval (str "agent approval pinning failed: ")
    (validateAgentApprovalPins plan.decision fetch flags.expectedDecisionID flags.expectedSHA256
      flags.requireApprovalPins)
  let _ ← gate .manifest (str "agent manifest intent failed: ")
    (buildAgentManifestIntent w (manifestToUse flags plan) flags.requireManifest)
  let decision ← gate .loadPolicy (str "agent local load policy failed: ")
    (evaluateAgentLocalLoadPolicy w (trimSpace flags.loadPolicyPath) flags.requireLoadPolicy plan
      (manifestToUse flags plan))
  if !decision.allowed then
    .error (.loadPolicy, str "agent local load policy denied: " ++ decision.reason)
  else .ok ()

/-- What a run has in hand when it comes to the load: the plan, the result of the fetch, and the
files as they are then. -/
structure Payload where
  plan : Plan
  fetch : FetchResult
  files : Files

/-- How a run ends.  A load was tried in the last case only, with what the validator said. -/
inductive ApplyOutcome where
  | badTimeout (message : Str)
  | planFailed (reason : PlanError)
  | fetchFailed (message : Str)
  | skipped (payload : Payload)
  | denied (payload : Payload) (phase : Phase) (message : Str)
  | executed (payload : Payload) (result : Except Str Str)

omit [CaseTables] in
/-- The content of the file a path names for the load: white space around the path is taken away,
and the path is made absolute, which cleans it. -/
def resolveExistingPath (w : World) (files : Files) (path : Str) : Except Str Str :=
  let cleaned := trimSpace path
  if cleaned = [] then .error (str "artifact path is required")
  else
    match files (absPath w.host.cwd cleaned) with
    | none => .error (str "artifact path not found")
    | some content => .ok content

omit [CaseTables] in
/-- The load: the validator is run on the file the output path names. -/
def executeArtifactOnHost (w : World) (files : Files) (path : Str) : Except Str Str := do
  let content ← resolveExistingPath w files path
  w.validate content

def runAgentApply (w : World) (flags : ApplyFlags) : ApplyOutcome :=
  match flags.timeout with
  | .error e => .badTimeout e
  | .ok _ =>
    match executeAgentPlan w flags.toCommonFlags with
    | .error e => .planFailed e
    | .ok plan =>
      match fetchAgentSelectedArtifact w plan flags.apiURL flags.outDir with
      | .error e => .fetchFailed e
      | .ok (fetch, files) =>
        let payload : Payload := ⟨plan, fetch, files⟩
        if !flags.approveLoad then .skipped payload
        else
          match passGates w flags plan fetch with
          | .error (phase, e) => .denied payload phase e
          | .ok _ => .executed payload (executeArtifactOnHost w files fetch.outputPath)

end

end Agent
