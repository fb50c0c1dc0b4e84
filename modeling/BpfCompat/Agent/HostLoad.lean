import BpfCompat.Agent.Apply

/-!
# The gates before a load

A run reaches the load step only past every gate: the load was approved, the pins that are given or
required are those of the run, a manifest that is given or required was read, and the load policy of
the host allowed it (`host_load_gated`).

What is loaded has the hashes that were stated, with one exception.  The load takes away the white
space around the path it is given, and the fetch does not: below an output directory that begins
with a blank the file that was fetched and checked is not the file that is loaded.
-/

namespace Agent

open Go Registry Runtime

section

variable [CaseTables]

/-! ### What a run rests on -/

/-- A run that reaches the load step went through planning, fetching and the gates. -/
theorem runAgentApply_eq_executed {w : World} {flags : ApplyFlags} {p : Payload}
    {result : Except Str Str} (h : runAgentApply w flags = .executed p result) :
  executeAgentPlan w flags.toCommonFlags = .ok p.plan ∧
    fetchAgentSelectedArtifact w p.plan flags.apiURL flags.outDir = .ok (p.fetch, p.files) ∧
    flags.approveLoad = true ∧ passGates w flags p.plan p.fetch = .ok ()
  := by
  rw [runAgentApply] at h
  split at h
  · cases h
  · split at h
    · cases h
    · rename_i plan hplan
      split at h
      · cases h
      · rename_i fetch files hfetch
        dsimp only at h
        split at h
        · cases h
        · rename_i happrove
          split at h
          · cases h
          · rename_i hgates
            simp only [ApplyOutcome.executed.injEq] at h
            obtain ⟨rfl, -⟩ := h
            exact ⟨hplan, hfetch, by simpa using happrove, hgates⟩

/-- A plan made by the control plane is a decision it sent, and a local one is a decision on the
history of the host. -/
theorem executeAgentPlan_eq_ok {w : World} {flags : CommonFlags} {plan : Plan}
    (h : executeAgentPlan w flags = .ok plan) :
  ∃ policy hostProbe, flags.policy = .ok policy ∧ w.probe = .ok hostProbe ∧
    plan.hostProbe = hostProbe ∧
    ((trimSpace flags.apiURL ≠ [] ∧ plan.remote = true ∧
        requestRemoteAgentDecision w flags.apiURL (planRequest w flags policy hostProbe)
          = .ok plan.decision ∧
        plan.record = recordFromSelectedArtifact plan.decision.selectedArtifact) ∨
      (trimSpace flags.apiURL = [] ∧ plan.remote = false ∧
        localDecision w flags (planRequest w flags policy hostProbe)
          = .ok (plan.decision, plan.record)))
  := by
  rw [executeAgentPlan, refuse_if_eq_ok_iff] at h
  obtain ⟨-, h⟩ := h
  obtain ⟨policy, hpolicy, h⟩ := bind_eq_ok_iff.mp h
  obtain ⟨hostProbe, hprobe, h⟩ := bind_eq_ok_iff.mp h
  use policy, hostProbe, mapError_eq_ok_iff.mp hpolicy, mapError_eq_ok_iff.mp hprobe
  dsimp only at h
  split at h
  · rename_i hurl
    obtain ⟨decision, hdecision, h⟩ := bind_eq_ok_iff.mp h
    rw [Except.ok.injEq] at h
    subst h
    exact ⟨rfl, .inl ⟨hurl, rfl, mapError_eq_ok_iff.mp hdecision, rfl⟩⟩
  · rename_i hurl
    obtain ⟨⟨decision, record⟩, hdecision, h⟩ := bind_eq_ok_iff.mp h
    rw [Except.ok.injEq] at h
    subst h
    exact ⟨rfl, .inr ⟨not_not.mp hurl, rfl, hdecision⟩⟩

/-- A local decision is built from a history that was read. -/
theorem localDecision_eq_ok {w : World} {flags : CommonFlags} {req : DecisionRequest}
    {d : DecisionResult} {record : ArtifactVersionRecord}
    (h : localDecision w flags req = .ok (d, record)) :
  ∃ dir records, recordsDir w flags = .ok dir ∧
    listArtifactVersions dir.index (trimSpace flags.artifactName) 0 = some records ∧
    buildDecision w.crypto dir w.draw records req = .ok (d, record)
  := by
  obtain ⟨dir, hdir, h⟩ := bind_eq_ok_iff.mp h
  cases hrecords : listArtifactVersions dir.index (trimSpace flags.artifactName) 0 with
  | none =>
      rw [hrecords] at h
      cases h
  | some records =>
      rw [hrecords] at h
      exact ⟨dir, records, mapError_eq_ok_iff.mp hdir, hrecords, mapError_eq_ok_iff.mp h⟩

/-- The hash a decision states is that of the record of the plan. -/
theorem sha256_of_executeAgentPlan {w : World} {flags : CommonFlags} {plan : Plan}
    (h : executeAgentPlan w flags = .ok plan) :
  trimSpace plan.decision.selectedArtifact.sha256 = trimSpace plan.record.artifactSHA256
  := by
  obtain ⟨policy, hostProbe, -, -, -, ⟨-, -, -, hrecord⟩ | ⟨-, -, hdecision⟩⟩ :=
    executeAgentPlan_eq_ok h
  · rw [hrecord, recordFromSelectedArtifact, trimSpace_trimSpace]
  · obtain ⟨dir, records, -, -, hbuild⟩ := localDecision_eq_ok hdecision
    obtain ⟨-, -, -, hselected⟩ := buildDecision_eq_ok hbuild
    rw [hselected, selectedArtifactFromRecord, trimSpace_trimSpace]

/-! ### The fetch -/

theorem downloadSelectedArtifact_spec {w : World} {selected : SelectedArtifact}
    {apiURL outDir : Str} {fetch : FetchResult} {files : Files}
    (h : downloadSelectedArtifact w selected apiURL outDir = .ok (fetch, files)) :
  Fetched w.crypto.sha256 w.host.cwd (trimSpace selected.sha256) fetch files
  := by
  rw [downloadSelectedArtifact, refuse_if_eq_ok_iff] at h
  obtain ⟨-, h⟩ := h
  obtain ⟨_, -, h⟩ := bind_eq_ok_iff.mp h
  obtain ⟨_, -, h⟩ := bind_eq_ok_iff.mp h
  obtain ⟨⟨status, body⟩, -, h⟩ := bind_eq_ok_iff.mp h
  dsimp only at h
  rw [refuse_if_eq_ok_iff] at h
  obtain ⟨-, h⟩ := h
  obtain ⟨_, -, h⟩ := bind_eq_ok_iff.mp h
  obtain ⟨_, -, h⟩ := bind_eq_ok_iff.mp h
  obtain ⟨_, -, h⟩ := bind_eq_ok_iff.mp h
  rw [refuse_if_eq_ok_iff, refuse_if_eq_ok_iff] at h
  obtain ⟨-, hmatch, h⟩ := h
  obtain ⟨_, -, h⟩ := bind_eq_ok_iff.mp h
  rw [Except.ok.injEq, Prod.mk.injEq] at h
  obtain ⟨rfl, rfl⟩ := h
  refine ⟨⟨body, Files.set_same _ _ _, rfl⟩, rfl, ?_⟩
  intro hne
  by_contra hactual
  exact hmatch ⟨hne, hactual⟩

/-- Whichever way it was fetched, the file has the hash the decision states. -/
theorem fetched_of_plan {w : World} {flags : ApplyFlags} {plan : Plan} {fetch : FetchResult}
    {files : Files} (hplan : executeAgentPlan w flags.toCommonFlags = .ok plan)
    (h : fetchAgentSelectedArtifact w plan flags.apiURL flags.outDir = .ok (fetch, files)) :
  Fetched w.crypto.sha256 w.host.cwd (trimSpace plan.decision.selectedArtifact.sha256) fetch files
  := by
  rw [fetchAgentSelectedArtifact] at h
  split at h
  · rw [sha256_of_executeAgentPlan hplan]
    exact fetchArtifact_spec h
  · exact downloadSelectedArtifact_spec h

omit [CaseTables] in
/-- The hash the pin is compared with is that of the file, whichever of the three it is read
from. -/
theorem firstNonEmpty_of_fetched {sha256 : Str → Str} {cwd stated : Str} {fetch : FetchResult}
    {files : Files} (h : Fetched sha256 cwd (trimSpace stated) fetch files) :
  firstNonEmpty [stated, fetch.expectedSHA256, fetch.actualSHA256] = fetch.actualSHA256
  := by
  have hactual : trimSpace fetch.actualSHA256 = fetch.actualSHA256 := by
    obtain ⟨content, -, hhash⟩ := h.stored
    rw [hhash]
    apply trimSpace_of_graphic
    apply hexEncode_graphic
  rw [firstNonEmpty, h.expected_eq, List.map_cons, List.map_cons, List.map_cons, List.map_nil,
    trimSpace_trimSpace, hactual]
  by_cases hstated : trimSpace stated = []
  · rw [hstated, List.find?_cons_of_neg (by simp), List.find?_cons_of_neg (by simp)]
    by_cases hnil : fetch.actualSHA256 = []
    · rw [hnil, List.find?_cons_of_neg (by simp)]
      rfl
    · rw [List.find?_cons_of_pos (by simp [hnil])]
      rfl
  · rw [List.find?_cons_of_pos (by simp [hstated]), Option.getD_some, h.actual_eq hstated]

/-! ### The gates -/

/-- The pins that are given or required are there, and are the identifier of the decision and the
hash of the artifact. -/
structure Pinned (flags : ApplyFlags) (p : Payload) : Prop where
  required : flags.requireApprovalPins = true →
    trimSpace flags.expectedDecisionID ≠ [] ∧ trimSpace flags.expectedSHA256 ≠ []
  decisionID : trimSpace flags.expectedDecisionID ≠ [] →
    trimSpace flags.expectedDecisionID = trimSpace p.plan.decision.decisionID
  sha256 : trimSpace flags.expectedSHA256 ≠ [] →
    toLower (trimSpace flags.expectedSHA256) = p.fetch.actualSHA256

/-- A manifest that is given or required was read, and declares a program. -/
def ManifestRead (w : World) (flags : ApplyFlags) (p : Payload) : Prop :=
  manifestToUse flags p.plan ≠ [] ∨ flags.requireManifest = true →
    ∃ m, w.manifestFile (clean (manifestToUse flags p.plan)) = .ok m ∧ m.programs ≠ []

/-- A load policy that is given or required was read, and allows the load. -/
def PolicyAllows (w : World) (flags : ApplyFlags) (p : Payload) : Prop :=
  trimSpace flags.loadPolicyPath ≠ [] ∨ flags.requireLoadPolicy = true →
    ∃ policy manifest, readLoadPolicy w flags.loadPolicyPath = .ok policy ∧
      policyManifest w (manifestToUse flags p.plan) = .ok manifest ∧
      (evaluateLoadPolicy policy (loadPolicyContext p.plan manifest)).allowed = true

theorem pinned_of_validate {w : World} {flags : ApplyFlags} {p : Payload}
    (hfetched : Fetched w.crypto.sha256 w.host.cwd
      (trimSpace p.plan.decision.selectedArtifact.sha256) p.fetch p.files)
    (h : validateAgentApprovalPins p.plan.decision p.fetch flags.expectedDecisionID
      flags.expectedSHA256 flags.requireApprovalPins = .ok ()) :
  Pinned flags p
  := by
  simp only [validateAgentApprovalPins, refuse_if_eq_ok_iff, firstNonEmpty_of_fetched hfetched,
    toLower_eq_nil] at h
  obtain ⟨hid, hsha, hmatch, h⟩ := h
  have hlower : toLower p.fetch.actualSHA256 = p.fetch.actualSHA256 := by
    obtain ⟨content, -, hhash⟩ := hfetched.stored
    rw [hhash, toLower_hexEncode]
  constructor
  · intro hrequired
    exact ⟨fun hnil => hid ⟨hrequired, hnil⟩, fun hnil => hsha ⟨hrequired, hnil⟩⟩
  · intro hgiven
    by_contra hne
    exact hmatch ⟨hgiven, hne⟩
  · intro hgiven
    rw [if_neg hgiven, refuse_if_eq_ok_iff, refuse_if_eq_ok_iff, refuse_if_eq_ok_iff] at h
    obtain ⟨-, -, heq, -⟩ := h
    rw [hlower] at heq
    exact (not_not.mp heq).symm

omit [CaseTables] in
theorem trimSpace_manifestToUse (flags : ApplyFlags) (plan : Plan) :
  trimSpace (manifestToUse flags plan) = manifestToUse flags plan
  := by
  rw [manifestToUse]
  split_ifs
  · apply trimSpace_trimSpace
  · apply trimSpace_trimSpace

omit [CaseTables] in
theorem manifestRead_of_intent {w : World} {flags : ApplyFlags} {p : Payload}
    {manifest : Option Manifest}
    (h : buildAgentManifestIntent w (manifestToUse flags p.plan) flags.requireManifest
      = .ok manifest) :
  ManifestRead w flags p
  := by
  intro hgiven
  rw [buildAgentManifestIntent, trimSpace_manifestToUse] at h
  by_cases hnil : manifestToUse flags p.plan = []
  · rw [if_pos hnil, refuse_if_eq_ok_iff] at h
    rcases hgiven with hgiven | hgiven
    · exact absurd hnil hgiven
    · exact absurd hgiven h.1
  · rw [if_neg hnil] at h
    cases hload : loadAgentManifestIntent w (manifestToUse flags p.plan) with
    | error e =>
        rw [hload] at h
        cases h
    | ok m =>
        obtain ⟨m', hm', hload⟩ := bind_eq_ok_iff.mp hload
        rw [refuse_if_eq_ok_iff] at hload
        exact ⟨m', hm', hload.1⟩

theorem policyAllows_of_decision {w : World} {flags : ApplyFlags} {p : Payload}
    {decision : LoadPolicyDecision}
    (h : evaluateAgentLocalLoadPolicy w (trimSpace flags.loadPolicyPath) flags.requireLoadPolicy
      p.plan (manifestToUse flags p.plan) = .ok decision)
    (hallowed : decision.allowed = true) :
  PolicyAllows w flags p
  := by
  intro hgiven
  rw [evaluateAgentLocalLoadPolicy, trimSpace_trimSpace] at h
  by_cases hnil : trimSpace flags.loadPolicyPath = []
  · rw [if_pos hnil, refuse_if_eq_ok_iff] at h
    rcases hgiven with hgiven | hgiven
    · exact absurd hnil hgiven
    · exact absurd hgiven h.1
  · rw [if_neg hnil] at h
    obtain ⟨policy, hpolicy, h⟩ := bind_eq_ok_iff.mp h
    obtain ⟨manifest, hmanifest, h⟩ := bind_eq_ok_iff.mp h
    rw [Except.ok.injEq] at h
    subst h
    rw [readLoadPolicy, trimSpace_trimSpace] at hpolicy
    exact ⟨policy, manifest, hpolicy, hmanifest, hallowed⟩

/-! ### The loaded file -/

omit [CaseTables] in
/-- The load hands a content to the validator. -/
def Loads (w : World) (p : Payload) (content : Str) : Prop :=
  resolveExistingPath w p.files p.fetch.outputPath = .ok content

/-- A hash is the one the decision states and the one the pin states, if they do. -/
structure StatedHash (flags : ApplyFlags) (p : Payload) (hash : Str) : Prop where
  decision : trimSpace p.plan.decision.selectedArtifact.sha256 ≠ [] →
    hash = trimSpace p.plan.decision.selectedArtifact.sha256
  pin : trimSpace flags.expectedSHA256 ≠ [] → hash = toLower (trimSpace flags.expectedSHA256)

omit [CaseTables] in
/-- The file that is loaded is the file that was fetched: there is no white space around its path;
or a file of the same hash lies at the path without it; or no hash is stated. -/
def Undisturbed (w : World) (flags : ApplyFlags) (p : Payload) : Prop :=
  trimSpace p.fetch.outputPath = p.fetch.outputPath ∨
    (∀ content, p.files (absPath w.host.cwd (trimSpace p.fetch.outputPath)) = some content →
      trimSpace p.fetch.outputPath ≠ [] →
      hexEncode (w.crypto.sha256 content) = p.fetch.actualSHA256) ∨
    (trimSpace p.plan.decision.selectedArtifact.sha256 = [] ∧ trimSpace flags.expectedSHA256 = [])

omit [CaseTables] in
theorem loads_iff {w : World} {p : Payload} {content : Str} :
  Loads w p content ↔ trimSpace p.fetch.outputPath ≠ [] ∧
    p.files (absPath w.host.cwd (trimSpace p.fetch.outputPath)) = some content
  := by
  rw [Loads, resolveExistingPath]
  rw [refuse_if_eq_ok_iff]
  cases p.files (absPath w.host.cwd (trimSpace p.fetch.outputPath)) with
  | none => simp
  | some c => simp

/-- The load step is reached only past every gate, and what is loaded has the stated hashes
precisely when it is the file that was fetched. -/
theorem host_load_gated (w : World) (flags : ApplyFlags) (p : Payload) (result : Except Str Str)
    (h : runAgentApply w flags = .executed p result) :
  flags.approveLoad = true ∧ Pinned flags p ∧ ManifestRead w flags p ∧ PolicyAllows w flags p ∧
    ((∀ content, Loads w p content →
        StatedHash flags p (hexEncode (w.crypto.sha256 content))) ↔
      Undisturbed w flags p)
  := by
  obtain ⟨hplan, hfetch, happrove, hgates⟩ := runAgentApply_eq_executed h
  have hfetched := fetched_of_plan hplan hfetch
  obtain ⟨_, hpins, hgates⟩ := bind_eq_ok_iff.mp hgates
  obtain ⟨manifest, hmanifest, hgates⟩ := bind_eq_ok_iff.mp hgates
  obtain ⟨decision, hdecision, hgates⟩ := bind_eq_ok_iff.mp hgates
  rw [refuse_if_eq_ok_iff] at hgates
  have hpinned := pinned_of_validate hfetched (mapError_eq_ok_iff.mp hpins)
  refine ⟨happrove, hpinned, manifestRead_of_intent (mapError_eq_ok_iff.mp hmanifest),
    policyAllows_of_decision (mapError_eq_ok_iff.mp hdecision) (by simpa using hgates.1), ?_⟩
  -- a content with the hash of the fetched file has every stated hash
  have hsame : ∀ content, hexEncode (w.crypto.sha256 content) = p.fetch.actualSHA256 →
      StatedHash flags p (hexEncode (w.crypto.sha256 content)) := by
    intro content hhash
    constructor
    · intro hne
      rw [hhash, hfetched.actual_eq hne]
    · intro hne
      rw [hhash, hpinned.sha256 hne]
  constructor
  · intro hall
    by_cases hnone : trimSpace p.plan.decision.selectedArtifact.sha256 = [] ∧
        trimSpace flags.expectedSHA256 = []
    · exact .inr (.inr hnone)
    · right
      left
      intro content hcontent hpath
      have hstated := hall content (loads_iff.mpr ⟨hpath, hcontent⟩)
      by_cases hdec : trimSpace p.plan.decision.selectedArtifact.sha256 = []
      · have hpin : trimSpace flags.expectedSHA256 ≠ [] := fun hpin => hnone ⟨hdec, hpin⟩
        rw [hstated.pin hpin, hpinned.sha256 hpin]
      · rw [hstated.decision hdec, hfetched.actual_eq hdec]
  · intro hundisturbed content hloads
    obtain ⟨hpath, hcontent⟩ := loads_iff.mp hloads
    rcases hundisturbed with htrim | hagree | ⟨hdec, hpin⟩
    · obtain ⟨stored, hstored, hhash⟩ := hfetched.stored
      rw [htrim, hstored, Option.some.injEq] at hcontent
      subst hcontent
      exact hsame _ hhash.symm
    · exact hsame _ (hagree content hcontent hpath)
    · exact ⟨fun hne => absurd hdec hne, fun hne => absurd hpin hne⟩

end

/-! ### A blank before the output directory -/

section

attribute [local instance] asciiCaseTables

/-- The digests of the empty file and of an older one. -/
def fileDigests : List (Str × Str) :=
  [([], ofHex "e3b0c44298fc1c149afbf4c8996fb92427ae41e4649b934ca495991b7852b855"),
    (str "old", ofHex "cba06b5736faf67e54b07b561eae94395e774c517a7d910a54369e1263ccfbd4")]

/-- A candidate nothing is said about. -/
def plainCandidate : SelectionCandidate where
  artifactVersion := str "1.0"
  artifactVariant := []
  runID := str "run-1"
  summaryStatus := str "pass"
  score := 20
  reasons := []
  policyAccepted := true
  policyViolations := []

/-- The decision of a control plane for version 1.0 of an artifact, which is an empty file. -/
def remoteDecision : DecisionResult where
  schemaVersion := decisionSchemaVersion
  decisionID := str "20260101T120000Z-000000"
  createdAt := str "2026-01-01T12:00:00Z"
  tenant := str "acme"
  project := str "edge"
  agentID := str "edge-01"
  artifactName := str "edge"
  requestedVersion := []
  targetProfile := []
  hostProfileHint := []
  policy := none
  selection := {
    schemaVersion := selectionSchemaVersion
    artifactName := str "edge"
    requestedVersion := []
    targetProfileID := []
    hostProfileHint := []
    policy := none
    selected := plainCandidate
    candidatesReviewed := 1
    candidatesAccepted := 1
    candidates := [plainCandidate] }
  selectedArtifact := {
    name := str "edge"
    version := str "1.0"
    sha256 := str "e3b0c44298fc1c149afbf4c8996fb92427ae41e4649b934ca495991b7852b855"
    downloadURL := str "/api/v1/registry/artifacts/download" }
  historyVerification := none
  approvalRequired := true
  loadApproved := false

/-- A host that asks a control plane, with an older file below `out`. -/
def edgeWorld : World where
  crypto := tableCrypto fileDigests []
  host := {
    cwd := str "/srv"
    getenv := fun _ => []
    ioError := fun _ _ => none
    download := fun _ => .error [] }
  files := fun path => if path = str "/srv/out/edge-1.0.bpf.o" then some (str "old") else none
  hostname := some (str "edge-01")
  probe := .ok { schemaVersion := str "runtime_probe.v0.1" }
  workDir := fun _ => emptyDir
  projectDir := fun _ _ _ => .error []
  draw := noonDraw
  respond := fun _ => .ok ⟨200, some remoteDecision⟩
  get := fun _ _ => .ok (200, [])
  policyFile := fun _ => .error []
  manifestFile := fun _ => .error []
  validate := fun _ => .ok (str "pass")

/-- An approved load on a host without a load policy. -/
def edgeFlags (outDir : Str) : ApplyFlags where
  apiURL := str "https://control.example"
  tenant := str "acme"
  project := str "edge"
  artifactName := str "edge"
  outDir := outDir
  approveLoad := true
  requireLoadPolicy := false

/-- A test of the payload of a run that reached the load. -/
def ApplyOutcome.executedWith (outcome : ApplyOutcome) (test : Payload → Bool) : Bool :=
  match outcome with
  | .executed p _ => test p
  | _ => false

theorem exists_of_executedWith {o : ApplyOutcome} {t : Payload → Bool}
    (h : o.executedWith t = true) :
  ∃ p result, o = .executed p result ∧ t p = true
  := by
  cases o with
  | executed p result => exact ⟨p, result, rfl, h⟩
  | _ => cases h

theorem host_load_gated_edge :
  ∃ p result, runAgentApply edgeWorld (edgeFlags (str "out")) = .executed p result ∧
    (edgeFlags (str "out")).approveLoad = true ∧ Pinned (edgeFlags (str "out")) p ∧
    ManifestRead edgeWorld (edgeFlags (str "out")) p ∧
    PolicyAllows edgeWorld (edgeFlags (str "out")) p ∧
    ((∀ content, Loads edgeWorld p content → StatedHash (edgeFlags (str "out")) p
        (hexEncode (edgeWorld.crypto.sha256 content))) ↔
      Undisturbed edgeWorld (edgeFlags (str "out")) p)
  := by
  obtain ⟨p, result, h, -⟩ := exists_of_executedWith
    (o := runAgentApply edgeWorld (edgeFlags (str "out"))) (t := fun _ => true)
    (by decide +kernel)
  exact ⟨p, result, h, host_load_gated _ _ _ _ h⟩

/-- Below ` out`, which begins with a blank, the fetched file is checked and the older file below
`out` is loaded, whose hash is not the one the decision states. -/
theorem other_file_loaded :
  ∃ p result, runAgentApply edgeWorld (edgeFlags (str " out")) = .executed p result ∧
    Loads edgeWorld p (str "old") ∧
    trimSpace p.plan.decision.selectedArtifact.sha256 ≠ [] ∧
    hexEncode (edgeWorld.crypto.sha256 (str "old"))
      ≠ trimSpace p.plan.decision.selectedArtifact.sha256
  := by
  obtain ⟨p, result, h, htest⟩ := exists_of_executedWith
    (o := runAgentApply edgeWorld (edgeFlags (str " out")))
    (t := fun p =>
      decide (trimSpace p.fetch.outputPath ≠ [] ∧
        p.files (absPath edgeWorld.host.cwd (trimSpace p.fetch.outputPath)) = some (str "old") ∧
        trimSpace p.plan.decision.selectedArtifact.sha256 ≠ [] ∧
        hexEncode (edgeWorld.crypto.sha256 (str "old"))
          ≠ trimSpace p.plan.decision.selectedArtifact.sha256))
    (by decide +kernel)
  rw [decide_eq_true_eq] at htest
  obtain ⟨hpath, hcontent, hstated, hhash⟩ := htest
  exact ⟨p, result, h, loads_iff.mpr ⟨hpath, hcontent⟩, hstated, hhash⟩

end

end Agent
