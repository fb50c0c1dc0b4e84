import BpfCompat.Agent.HostLoad

/-!
# Reviewed plans

An operator reviews a plan and lets it be applied by pinning the identifier of its decision and the
hash of its artifact.  Applying plans again.  On an unchanged registry and host the new plan selects
the same record, so the hash pin matches; but the new decision has an identifier of its own, made of
the clock and of random bytes, and the pinned one is met only by a coincidence of both
(`reviewed_plan_passes_iff`).

The control plane decides with the same function as the agent, so the same holds of a plan it made.
-/

namespace Agent

open Go Registry Runtime

/-! ### The control plane -/

/-- A byte as it stands in a query. -/
def queryEscapeByte (b : UInt8) : Str :=
  if isLetter b || isDecimal b || (str "-_.~").contains b then [b]
  else if b = 32 then [43]
  else
    let digit := fun n : Nat => if n < 10 then UInt8.ofNat (48 + n) else UInt8.ofNat (55 + n)
    [37, digit (b.toNat / 16), digit (b.toNat % 16)]

def queryEscape (s : Str) : Str := s.flatMap queryEscapeByte

def registryArtifactDownloadURL (tenant project artifactName version : Str) : Str :=
  str "/api/v1/registry/artifacts/download?artifact_name=" ++ queryEscape (trimSpace artifactName) ++
    str "&project=" ++ queryEscape (trimSpace project) ++
    str "&tenant=" ++ queryEscape (trimSpace tenant) ++
    str "&version=" ++ queryEscape (trimSpace version)

/-- A control plane: the directory of the project, and the status with which a request is turned
away for its identity, its token, its rate or its project. -/
structure ControlPlane where
  crypto : Crypto
  dir : WorkDir
  refuses : DecisionRequest → Option Nat

/-- The request a control plane decides on. -/
def servedRequest (req : DecisionRequest) : DecisionRequest :=
  { req with
    tenant := trimSpace req.tenant
    project := trimSpace req.project
    agentID := trimSpace req.agentID
    artifactName := trimSpace req.artifactName
    version := trimSpace req.version
    targetProfile := trimSpace req.targetProfile }

section

variable [CaseTables]

def handleAgentDecision (cp : ControlPlane) (draw : Draw) (req : DecisionRequest) : Response :=
  let served := servedRequest req
  if served.tenant = [] ∨ served.project = [] ∨ served.artifactName = [] ∨
      trimSpace req.hostProbe.schemaVersion = [] ∨
      (∃ limit ∈ req.policy.maxRequiredFailed, limit < 0) then ⟨400, none⟩
  else
    match cp.refuses req with
    | some status => ⟨status, none⟩
    | none =>
      match listArtifactVersions cp.dir.index served.artifactName 0 with
      | none => ⟨500, none⟩
      | some records =>
        match buildDecision cp.crypto cp.dir draw records served with
        | .error _ => ⟨412, none⟩
        | .ok (decision, record) =>
          ⟨200, some { decision with
            selectedArtifact := selectedArtifactFromRecord record
              (registryArtifactDownloadURL served.tenant served.project record.artifactName
                record.artifactVersion) }⟩

/-- The world at the time of a run: what is drawn for a decision is drawn anew, here or at the
control plane, and all else is as it was. -/
def World.at (w : World) (cp : ControlPlane) (draw : Draw) : World :=
  { w with draw := draw, respond := fun req => .ok (handleAgentDecision cp draw req) }

/-! ### Planning twice -/

/-- A decision of the control plane is one it built. -/
theorem handleAgentDecision_decision {cp : ControlPlane} {draw : Draw} {req : DecisionRequest}
    {d : DecisionResult} (h : (handleAgentDecision cp draw req).decision = some d) :
  ∃ records d₀ record,
    listArtifactVersions cp.dir.index (servedRequest req).artifactName 0 = some records ∧
    buildDecision cp.crypto cp.dir draw records (servedRequest req) = .ok (d₀, record) ∧
    d.decisionID = d₀.decisionID ∧ d.selectedArtifact = selectedArtifactFromRecord record
      (registryArtifactDownloadURL (servedRequest req).tenant (servedRequest req).project
        record.artifactName record.artifactVersion)
  := by
  rw [handleAgentDecision] at h
  split_ifs at h
  split at h
  · cases h
  · split at h
    · cases h
    · rename_i records hrecords
      split at h
      · cases h
      · rename_i d₀ record hbuild
        rw [Option.some.injEq] at h
        subst h
        exact ⟨records, d₀, record, hrecords, hbuild, rfl, rfl⟩

omit [CaseTables] in
/-- A remote decision is what the control plane answers. -/
theorem requestRemoteAgentDecision_eq_ok {w : World} {apiURL : Str} {req : DecisionRequest}
    {d : DecisionResult} (h : requestRemoteAgentDecision w apiURL req = .ok d) :
  ∃ resp, w.respond req = .ok resp ∧ resp.decision = some d ∧ d.schemaVersion ≠ []
  := by
  obtain ⟨_, -, h⟩ := bind_eq_ok_iff.mp h
  obtain ⟨resp, hresp, h⟩ := bind_eq_ok_iff.mp h
  rw [refuse_if_eq_ok_iff] at h
  obtain ⟨-, h⟩ := h
  cases hdecision : resp.decision with
  | none =>
      rw [hdecision] at h
      cases h
  | some d' =>
      rw [hdecision] at h
      dsimp only at h
      rw [refuse_if_eq_ok_iff, Except.ok.injEq] at h
      obtain ⟨hschema, rfl⟩ := h
      exact ⟨resp, hresp, hdecision, hschema⟩

/-- Decisions on the same records differ in what was drawn only. -/
theorem buildDecision_record_eq {c : Crypto} {dir : WorkDir} {draw draw' : Draw}
    {records : List ArtifactVersionRecord} {req : DecisionRequest} {d d' : DecisionResult}
    {record record' : ArtifactVersionRecord}
    (h : buildDecision c dir draw records req = .ok (d, record))
    (h' : buildDecision c dir draw' records req = .ok (d', record')) :
  record' = record
  := by
  obtain ⟨hselection, hrecord, -, -⟩ := buildDecision_eq_ok h
  obtain ⟨hselection', hrecord', -, -⟩ := buildDecision_eq_ok h'
  rw [hselection, Except.ok.injEq] at hselection'
  rw [← hselection', hrecord, Except.ok.injEq] at hrecord'
  exact hrecord'.symm

/-- Plans made at two times select the same artifact, and their decisions bear the identifiers that
were drawn. -/
theorem plans_agree {w : World} {cp : ControlPlane} {flags : CommonFlags} {draw draw' : Draw}
    {plan plan' : Plan} (h : executeAgentPlan (w.at cp draw) flags = .ok plan)
    (h' : executeAgentPlan (w.at cp draw') flags = .ok plan') :
  plan'.decision.selectedArtifact = plan.decision.selectedArtifact ∧
    newDecisionID draw = some plan.decision.decisionID ∧
    newDecisionID draw' = some plan'.decision.decisionID
  := by
  obtain ⟨policy, hostProbe, hpolicy, hprobe, -, hcases⟩ := executeAgentPlan_eq_ok h
  obtain ⟨policy', hostProbe', hpolicy', hprobe', -, hcases'⟩ := executeAgentPlan_eq_ok h'
  have heq : policy' = policy := by
    rw [hpolicy, Except.ok.injEq] at hpolicy'
    exact hpolicy'.symm
  have heq' : hostProbe' = hostProbe := by
    have hprobe'' : (w.at cp draw).probe = .ok hostProbe' := hprobe'
    rw [hprobe, Except.ok.injEq] at hprobe''
    exact hprobe''.symm
  subst heq heq'
  rcases hcases with ⟨hurl, -, hremote, -⟩ | ⟨hurl, -, hlocal⟩
  · rcases hcases' with ⟨-, -, hremote', -⟩ | ⟨hurl', -, -⟩
    · obtain ⟨resp, hresp, hdecision, -⟩ := requestRemoteAgentDecision_eq_ok hremote
      obtain ⟨resp', hresp', hdecision', -⟩ := requestRemoteAgentDecision_eq_ok hremote'
      simp only [World.at, Except.ok.injEq] at hresp hresp'
      subst hresp hresp'
      obtain ⟨records, d₀, record, hrecords, hbuild, hid, hselected⟩ :=
        handleAgentDecision_decision hdecision
      obtain ⟨records', d₀', record', hrecords', hbuild', hid', hselected'⟩ :=
        handleAgentDecision_decision hdecision'
      have hsame : records' = records := Option.some.inj (hrecords'.symm.trans hrecords)
      subst hsame
      have hrecord : record' = record := buildDecision_record_eq hbuild hbuild'
      subst hrecord
      refine ⟨?_, ?_, ?_⟩
      · rw [hselected, hselected']
        rfl
      · rw [hid]
        exact (buildDecision_eq_ok hbuild).2.2.1
      · rw [hid']
        exact (buildDecision_eq_ok hbuild').2.2.1
    · exact absurd hurl' hurl
  · rcases hcases' with ⟨hurl', -, -, -⟩ | ⟨-, -, hlocal'⟩
    · exact absurd hurl hurl'
    · obtain ⟨dir, records, hdir, hrecords, hbuild⟩ := localDecision_eq_ok hlocal
      obtain ⟨dir', records', hdir', hrecords', hbuild'⟩ := localDecision_eq_ok hlocal'
      have hsame : dir' = dir := Except.ok.inj (hdir'.symm.trans hdir)
      subst hsame
      have hsame : records' = records := Option.some.inj (hrecords'.symm.trans hrecords)
      subst hsame
      have hrecord := buildDecision_record_eq hbuild hbuild'
      obtain ⟨-, -, hid, hselected⟩ := buildDecision_eq_ok hbuild
      obtain ⟨-, -, hid', hselected'⟩ := buildDecision_eq_ok hbuild'
      refine ⟨?_, hid, hid'⟩
      rw [hselected, hselected', hrecord]

/-! ### Identifiers -/

omit [CaseTables] in
theorem pad_graphic (width n : Nat) :
  ∀ b ∈ pad width n, 32 < b ∧ b < 127
  := by
  intro b hb
  rw [pad, List.mem_append, List.mem_replicate] at hb
  rcases hb with ⟨-, rfl⟩ | hb
  · decide
  · have hdigit := isDecimal_of_mem_decimal hb
    have key : ∀ b : UInt8, isDecimal b = true → 32 < b ∧ b < 127 := by decide +kernel
    exact key b hdigit

omit [CaseTables] in
theorem newDecisionID_graphic {draw : Draw} {id : Str} (h : newDecisionID draw = some id) :
  ∀ b ∈ id, 32 < b ∧ b < 127
  := by
  rw [newDecisionID, Option.map_eq_some_iff] at h
  obtain ⟨⟨a, b, c⟩, -, rfl⟩ := h
  have hT : ∀ b ∈ str "T", 32 < b ∧ b < 127 := by decide
  have hZ : ∀ b ∈ str "Z", 32 < b ∧ b < 127 := by decide
  have hdash : ∀ b ∈ str "-", 32 < b ∧ b < 127 := by decide
  simp only [Time.compact, List.forall_mem_append]
  refine ⟨⟨⟨⟨⟨⟨⟨⟨⟨?_, ?_⟩, ?_⟩, hT⟩, ?_⟩, ?_⟩, ?_⟩, hZ⟩, hdash⟩, hexEncode_graphic _⟩
  all_goals apply pad_graphic

omit [CaseTables] in
/-- Two identifiers are the same only if the same second was read and the same bytes were drawn. -/
theorem newDecisionID_eq_iff {draw draw' : Draw} {id id' : Str} (h : newDecisionID draw = some id)
    (h' : newDecisionID draw' = some id') :
  id = id' ↔ draw'.idTime = draw.idTime ∧ draw'.random = draw.random
  := by
  rw [newDecisionID, Option.map_eq_some_iff] at h h'
  obtain ⟨⟨a, b, c⟩, hrandom, rfl⟩ := h
  obtain ⟨⟨a', b', c'⟩, hrandom', rfl⟩ := h'
  rw [hrandom, hrandom']
  constructor
  · intro heq
    have hlength : (hexEncode [a, b, c]).length = (hexEncode [a', b', c']).length := by
      rw [length_hexEncode, length_hexEncode]
      rfl
    obtain ⟨hfront, hbytes⟩ := List.append_inj' heq hlength
    rw [List.append_cancel_right_eq] at hfront
    have hlist := hexEncode_injective hbytes
    simp only [List.cons.injEq, and_true] at hlist
    obtain ⟨rfl, rfl, rfl⟩ := hlist
    exact ⟨(compact_injective hfront).symm, rfl⟩
  · rintro ⟨htime, hdrawn⟩
    rw [Option.some.injEq, Prod.mk.injEq, Prod.mk.injEq] at hdrawn
    obtain ⟨rfl, rfl, rfl⟩ := hdrawn
    rw [htime]

/-! ### Applying a reviewed plan -/

omit [CaseTables] in
/-- Whether a run passed the validation of its pins, if it came to it. -/
def ApplyOutcome.pinsPassed : ApplyOutcome → Option Bool
  | .denied _ phase _ => some (phase ≠ .approval)
  | .executed _ _ => some true
  | _ => none

omit [CaseTables] in
/-- The flags of a plan, for an approved load with the pins of its decision. -/
def ApplyFlags.pinnedTo (flags : ApplyFlags) (plan : Plan) : ApplyFlags :=
  { flags with
    approveLoad := true
    expectedDecisionID := plan.decision.decisionID
    expectedSHA256 := plan.decision.selectedArtifact.sha256
    requireApprovalPins := true }

omit [CaseTables] in
theorem bind_eq_error_iff {ε α β : Type} {x : Except ε α} {f : α → Except ε β} {e : ε} :
  (x >>= f) = .error e ↔ x = .error e ∨ ∃ a, x = .ok a ∧ f a = .error e
  := by
  cases x with
  | error e' => simp [bind, Except.bind]
  | ok a => simp [bind, Except.bind]

omit [CaseTables] in
/-- A refusal at a gate bears the name of the gate. -/
theorem gate_eq_error {α : Type} {phase phase' : Phase} {label e : Str} {x : Except Str α}
    (h : gate phase label x = .error (phase', e)) :
  phase' = phase ∧ ∃ e', x = .error e'
  := by
  cases x with
  | ok a => cases h
  | error e' =>
      simp only [gate, Except.mapError, Except.error.injEq, Prod.mk.injEq] at h
      exact ⟨h.1.symm, e', rfl⟩

/-- Only the pins are refused for the approval. -/
theorem validate_of_passGates_approval {w : World} {flags : ApplyFlags} {plan : Plan}
    {fetch : FetchResult} {e : Str}
    (h : passGates w flags plan fetch = .error (.approval, e)) :
  ∃ e', validateAgentApprovalPins plan.decision fetch flags.expectedDecisionID
    flags.expectedSHA256 flags.requireApprovalPins = .error e'
  := by
  rcases bind_eq_error_iff.mp h with hpins | ⟨_, -, h⟩
  · exact (gate_eq_error hpins).2
  · rcases bind_eq_error_iff.mp h with hmanifest | ⟨_, -, h⟩
    · cases (gate_eq_error hmanifest).1
    · rcases bind_eq_error_iff.mp h with hpolicy | ⟨decision, -, h⟩
      · cases (gate_eq_error hpolicy).1
      · split_ifs at h
        cases h

/-- A run that came to its pins passed them precisely when they validate. -/
theorem pinsPassed_eq_some {w : World} {flags : ApplyFlags} {passed : Bool}
    (h : (runAgentApply w flags).pinsPassed = some passed) :
  ∃ plan fetch files, executeAgentPlan w flags.toCommonFlags = .ok plan ∧
    fetchAgentSelectedArtifact w plan flags.apiURL flags.outDir = .ok (fetch, files) ∧
    (passed = true ↔ validateAgentApprovalPins plan.decision fetch flags.expectedDecisionID
      flags.expectedSHA256 flags.requireApprovalPins = .ok ())
  := by
  rw [runAgentApply] at h
  split at h
  · cases h
  · split at h
    · cases h
    · rename_i plan hplan
      split at h
      · cases h
      · rename_i fetch files hfetch
        use plan, fetch, files, hplan, hfetch
        dsimp only at h
        split at h
        · cases h
        · split at h
          · rename_i phase e hgates
            rw [ApplyOutcome.pinsPassed, Option.some.injEq] at h
            subst h
            rw [decide_eq_true_eq]
            constructor
            · intro hphase
              -- refused at a later gate, so the pins were let through
              cases hpins : validateAgentApprovalPins plan.decision fetch flags.expectedDecisionID
                  flags.expectedSHA256 flags.requireApprovalPins with
              | ok _ => rfl
              | error e' =>
                  simp only [passGates, hpins, gate, Except.mapError, bind, Except.bind,
                    Except.error.injEq, Prod.mk.injEq] at hgates
                  exact absurd hgates.1.symm hphase
            · rintro hpins rfl
              obtain ⟨e', he'⟩ := validate_of_passGates_approval hgates
              rw [hpins] at he'
              cases he'
          · rename_i hgates
            rw [ApplyOutcome.pinsPassed, Option.some.injEq] at h
            subst h
            obtain ⟨_, hpins, -⟩ := bind_eq_ok_iff.mp hgates
            apply iff_of_true rfl
            exact mapError_eq_ok_iff.mp hpins

/-- A run whose fetch succeeds comes to its pins. -/
theorem pinsPassed_of_fetch {w : World} {flags : ApplyFlags} {plan : Plan} {fetch : FetchResult}
    {files : Files} (htimeout : flags.timeout = .ok ())
    (hplan : executeAgentPlan w flags.toCommonFlags = .ok plan)
    (hfetch : fetchAgentSelectedArtifact w plan flags.apiURL flags.outDir = .ok (fetch, files))
    (happrove : flags.approveLoad = true) :
  ∃ passed, (runAgentApply w flags).pinsPassed = some passed
  := by
  simp only [runAgentApply, htimeout, hplan, hfetch, happrove]
  cases passGates w flags plan fetch with
  | error e => exact ⟨_, rfl⟩
  | ok _ => exact ⟨_, rfl⟩

/-- A plan on a history that was read. -/
theorem executeAgentPlan_local {w : World} {flags : CommonFlags} {policy : SelectionPolicy}
    {hostProbe : HostCapabilities} {dir : WorkDir} {records : List ArtifactVersionRecord}
    {d : DecisionResult} {record : ArtifactVersionRecord}
    (hname : trimSpace flags.artifactName ≠ []) (hurl : trimSpace flags.apiURL = [])
    (hpolicy : flags.policy = .ok policy) (hprobe : w.probe = .ok hostProbe)
    (hdir : recordsDir w flags = .ok dir)
    (hrecords : listArtifactVersions dir.index (trimSpace flags.artifactName) 0 = some records)
    (hbuild : buildDecision w.crypto dir w.draw records (planRequest w flags policy hostProbe)
      = .ok (d, record)) :
  executeAgentPlan w flags = .ok ⟨d, hostProbe, record, false⟩
  := by
  simp [executeAgentPlan, localDecision, planStep, hname, hurl, hpolicy, hprobe, hdir, hrecords,
    hbuild, Except.mapError, bind, Except.bind]

/-- On an unchanged registry and host, an apply that is pinned to a reviewed plan passes its pins
precisely when it reads the same second from the clock and draws the same three bytes as the plan
did. -/
theorem reviewed_plan_passes_iff (w : World) (cp : ControlPlane) (flags : ApplyFlags)
    (draw draw' : Draw) (plan : Plan) (passed : Bool) (hc : w.crypto.Lawful)
    (hplan : executeAgentPlan (w.at cp draw) flags.toCommonFlags = .ok plan)
    (hsha : trimSpace plan.decision.selectedArtifact.sha256 ≠ [])
    (hpassed : (runAgentApply (w.at cp draw') (flags.pinnedTo plan)).pinsPassed = some passed) :
  passed = true ↔ draw'.idTime = draw.idTime ∧ draw'.random = draw.random
  := by
  obtain ⟨plan', fetch, files, hplan', hfetch, hiff⟩ := pinsPassed_eq_some hpassed
  obtain ⟨hselected, hid, hid'⟩ := plans_agree hplan hplan'
  have hfetched := fetched_of_plan hplan' hfetch
  have htrim : trimSpace plan.decision.decisionID = plan.decision.decisionID := by
    apply trimSpace_of_graphic
    exact newDecisionID_graphic hid
  have htrim' : trimSpace plan'.decision.decisionID = plan'.decision.decisionID := by
    apply trimSpace_of_graphic
    exact newDecisionID_graphic hid'
  -- the fetch succeeded, so the stated hash is the hash of a file
  obtain ⟨content, -, hhash⟩ := hfetched.stored
  have hactual : trimSpace plan.decision.selectedArtifact.sha256
      = hexEncode (w.crypto.sha256 content) := by
    rw [← hselected] at hsha ⊢
    rw [← hfetched.actual_eq hsha, hhash]
    rfl
  have hhex : isAgentSHA256Hex (hexEncode (w.crypto.sha256 content)) = true := by
    rw [isAgentSHA256Hex, Bool.and_eq_true, decide_eq_true_eq, length_hexEncode,
      hc.length_sha256, List.all_eq_true]
    refine ⟨rfl, ?_⟩
    intro b hb
    have key : ∀ n < 16, (fun b : UInt8 => (48 ≤ b && b ≤ 57) || (97 ≤ b && b ≤ 102) ||
        (65 ≤ b && b ≤ 70)) (hexDigit n) = true := by decide
    rw [hexEncode, List.mem_flatMap] at hb
    obtain ⟨a, -, hb⟩ := hb
    have ha := a.toNat_lt
    rcases List.mem_pair.mp hb with rfl | rfl
    · exact key _ (by omega)
    · exact key _ (by omega)
  have hne : hexEncode (w.crypto.sha256 content) ≠ [] := hactual ▸ hsha
  have hnil : plan.decision.decisionID ≠ [] := by
    intro hnil
    rw [newDecisionID, Option.map_eq_some_iff] at hid
    obtain ⟨⟨a, b, c⟩, -, hid⟩ := hid
    rw [hnil, List.append_eq_nil_iff] at hid
    have hlength := length_hexEncode [a, b, c]
    rw [hid.2] at hlength
    cases hlength
  have hfirst : firstNonEmpty [plan'.decision.selectedArtifact.sha256, fetch.expectedSHA256,
      fetch.actualSHA256] = hexEncode (w.crypto.sha256 content) :=
    (firstNonEmpty_of_fetched hfetched).trans hhash
  rw [hiff, ← newDecisionID_eq_iff hid hid', validateAgentApprovalPins]
  simp [ApplyFlags.pinnedTo, hfirst, htrim, htrim', hactual, toLower_hexEncode, hhex, hnil, hne]

end

/-! ### A plan applied an hour later -/

section

attribute [local instance] asciiCaseTables

/-- A history with one passing run of an artifact that is an empty file. -/
def reviewedRecord : ArtifactVersionRecord where
  runID := str "run-1"
  artifactName := str "edge"
  artifactVersion := str "1.0"
  artifactPath := str "/srv/edge.bpf.o"
  artifactSHA256 := str "e3b0c44298fc1c149afbf4c8996fb92427ae41e4649b934ca495991b7852b855"
  summaryStatus := str "pass"

/-- A host with that history and file. -/
def localWorld : World :=
  { edgeWorld with
    files := fun path => if path = str "/srv/edge.bpf.o" then some [] else none
    workDir := fun _ => { emptyDir with index := some (unlines ([reviewedRecord].map marshalRecord)) } }

/-- A local plan that waives the check of the history. -/
def localFlags : ApplyFlags where
  artifactName := str "edge"
  requireVerifiedHistory := false
  outDir := str "/srv/out"
  requireLoadPolicy := false

/-- A control plane that is not asked. -/
def idleControlPlane : ControlPlane where
  crypto := localWorld.crypto
  dir := emptyDir
  refuses := fun _ => some 503

/-- An hour after noon, with other bytes. -/
def laterDraw : Draw :=
  { noonDraw with
    idTime := { noonDraw.idTime with hour := ⟨13, by decide⟩ }, random := some (1, 2, 3) }

/-- What the fetch reports of the file. -/
def reviewedFetch : FetchResult where
  artifactName := str "edge"
  artifactVersion := str "1.0"
  artifactVariant := []
  outputPath := str "/srv/out/edge-1.0.o"
  expectedSHA256 := str "e3b0c44298fc1c149afbf4c8996fb92427ae41e4649b934ca495991b7852b855"
  actualSHA256 := str "e3b0c44298fc1c149afbf4c8996fb92427ae41e4649b934ca495991b7852b855"

/-- What the flags ask for. -/
def localRequest : DecisionRequest :=
  planRequest localWorld localFlags.toCommonFlags {} { schemaVersion := str "runtime_probe.v0.1" }

theorem localWorld_lawful :
  localWorld.crypto.Lawful
  := by
  apply tableCrypto_lawful
  · decide
  · decide

theorem listArtifactVersions_localWorld (dir : Str) :
  listArtifactVersions (localWorld.workDir dir).index (str "edge") 0 = some [reviewedRecord]
  := by
  have hread : readArtifactVersionRecords (localWorld.workDir dir).index
      = some [reviewedRecord] := by
    apply readArtifactVersionRecords_survives
    intro r hr
    rw [List.mem_singleton] at hr
    subst hr
    constructor
    · rw [survives_iff]
      decide +kernel
    · decide +kernel
  rw [listArtifactVersions, hread]
  rfl

/-- The plan of the host on the history, for what was drawn. -/
theorem executeAgentPlan_localWorld {draw : Draw} {d : DecisionResult}
    {record : ArtifactVersionRecord}
    (h : buildDecision localWorld.crypto (localWorld.workDir (str ".bpfcompat")) draw
      [reviewedRecord] localRequest = .ok (d, record)) :
  executeAgentPlan (localWorld.at idleControlPlane draw) localFlags.toCommonFlags
    = .ok ⟨d, { schemaVersion := str "runtime_probe.v0.1" }, record, false⟩
  := by
  have hname : trimSpace localFlags.artifactName = str "edge" := by decide
  apply executeAgentPlan_local
  · rw [hname]
    decide
  · decide
  · rfl
  · rfl
  · rfl
  · rw [hname]
    exact listArtifactVersions_localWorld (str ".bpfcompat")
  · exact h

/-- The decision on the history, which every draw of bytes lets be made. -/
theorem buildDecision_localWorld (draw : Draw) (hdraw : draw = noonDraw ∨ draw = laterDraw) :
  ∃ d, buildDecision localWorld.crypto (localWorld.workDir (str ".bpfcompat")) draw
      [reviewedRecord] localRequest = .ok (d, reviewedRecord)
  := by
  have key : ∀ draw ∈ [noonDraw, laterDraw],
      (buildDecision localWorld.crypto (localWorld.workDir (str ".bpfcompat")) draw
        [reviewedRecord] localRequest).toOption.any (fun r => r.2 = reviewedRecord) = true := by
    decide
  obtain ⟨⟨d, record⟩, h, hrecord⟩ := exists_ok_of_any (key draw (by simpa using hdraw))
  rw [decide_eq_true_eq] at hrecord
  subst hrecord
  exact ⟨d, h⟩

theorem fetch_localWorld :
  ∃ files, fetchArtifact localWorld.crypto.sha256 localWorld.host localWorld.files reviewedRecord
    localFlags.outDir = .ok (reviewedFetch, files)
  := by
  obtain ⟨⟨fetch, files⟩, h, hfetch⟩ := exists_ok_of_any
    (x := fetchArtifact localWorld.crypto.sha256 localWorld.host localWorld.files reviewedRecord
      localFlags.outDir) (p := fun r => r.1 = reviewedFetch) (by decide +kernel)
  rw [decide_eq_true_eq] at hfetch
  subst hfetch
  exact ⟨files, h⟩

/-- The plan reviewed at noon, and the apply of it at noon or later, which comes to its pins. -/
theorem localWorld_comes_to_pins (draw : Draw) (hdraw : draw = noonDraw ∨ draw = laterDraw) :
  ∃ plan passed,
    executeAgentPlan (localWorld.at idleControlPlane noonDraw) localFlags.toCommonFlags = .ok plan ∧
    trimSpace plan.decision.selectedArtifact.sha256 ≠ [] ∧
    (runAgentApply (localWorld.at idleControlPlane draw) (localFlags.pinnedTo plan)).pinsPassed
      = some passed
  := by
  obtain ⟨d, hbuild⟩ := buildDecision_localWorld noonDraw (.inl rfl)
  obtain ⟨d', hbuild'⟩ := buildDecision_localWorld draw hdraw
  obtain ⟨files, hfetch⟩ := fetch_localWorld
  have hplan := executeAgentPlan_localWorld hbuild
  have hpins : ∃ passed, (runAgentApply (localWorld.at idleControlPlane draw)
      (localFlags.pinnedTo ⟨d, { schemaVersion := str "runtime_probe.v0.1" }, reviewedRecord,
        false⟩)).pinsPassed = some passed :=
    pinsPassed_of_fetch rfl (executeAgentPlan_localWorld hbuild') hfetch rfl
  obtain ⟨passed, hpassed⟩ := hpins
  refine ⟨_, passed, hplan, ?_, hpassed⟩
  rw [(buildDecision_eq_ok hbuild).2.2.2]
  decide +kernel

theorem reviewed_plan_passes_same_draw :
  ∃ plan passed,
    executeAgentPlan (localWorld.at idleControlPlane noonDraw) localFlags.toCommonFlags = .ok plan ∧
    (runAgentApply (localWorld.at idleControlPlane noonDraw) (localFlags.pinnedTo plan)).pinsPassed
      = some passed ∧
    (passed = true ↔ noonDraw.idTime = noonDraw.idTime ∧ noonDraw.random = noonDraw.random)
  := by
  obtain ⟨plan, passed, hplan, hsha, hpassed⟩ := localWorld_comes_to_pins noonDraw (.inl rfl)
  exact ⟨plan, passed, hplan, hpassed,
    reviewed_plan_passes_iff _ _ _ _ _ _ _ localWorld_lawful hplan hsha hpassed⟩

/-- Applied an hour later, on the same registry and host, the reviewed plan is refused for its
pins. -/
theorem reviewed_plan_refused :
  ∃ plan,
    executeAgentPlan (localWorld.at idleControlPlane noonDraw) localFlags.toCommonFlags = .ok plan ∧
    trimSpace plan.decision.selectedArtifact.sha256 ≠ [] ∧
    (runAgentApply (localWorld.at idleControlPlane laterDraw) (localFlags.pinnedTo plan)).pinsPassed
      = some false
  := by
  obtain ⟨plan, passed, hplan, hsha, hpassed⟩ := localWorld_comes_to_pins laterDraw (.inr rfl)
  obtain ⟨plan', fetch, files, hplan', hfetch, hiff⟩ := pinsPassed_eq_some hpassed
  obtain ⟨-, hid, hid'⟩ := plans_agree hplan hplan'
  have hne : plan.decision.decisionID ≠ plan'.decision.decisionID := by
    rw [Ne, newDecisionID_eq_iff hid hid']
    decide
  have hfalse : passed = false := by
    rw [← Bool.not_eq_true, hiff]
    simp only [validateAgentApprovalPins, refuse_if_eq_ok_iff, ApplyFlags.pinnedTo,
      trimSpace_of_graphic (newDecisionID_graphic hid),
      trimSpace_of_graphic (newDecisionID_graphic hid')]
    rintro ⟨hgiven, -, hmatch, -⟩
    exact hmatch ⟨fun hnil => hgiven ⟨trivial, hnil⟩, hne⟩
  subst hfalse
  exact ⟨plan, hplan, hsha, hpassed⟩

end

end Agent
