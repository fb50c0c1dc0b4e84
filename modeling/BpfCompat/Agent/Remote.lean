import BpfCompat.Agent.Review

/-!
# What a control plane may change

A remote plan is the decision the control plane sends.  Nothing compares it with the request: the
agent, the tenant, the project and the artifact of the load are those of the answer, and the load
policy of the host is asked about them.  So an agent the policy revokes loads when the answer names
another one.

The load is bound to the request precisely when every answer that can be downloaded echoes it
(`load_bound_to_request_iff`).
-/

namespace Agent

open Go Registry Runtime

section

variable [CaseTables]

omit [CaseTables] in
/-- What a run fetched, if it came so far. -/
def ApplyOutcome.payload : ApplyOutcome → Option Payload
  | .skipped p => some p
  | .denied p _ _ => some p
  | .executed p _ => some p
  | _ => none

omit [CaseTables] in
/-- A decision is about the request of the flags, and states a hash. -/
structure Echoes (w : World) (flags : CommonFlags) (d : DecisionResult) : Prop where
  agentID : d.agentID = resolveAgentID w flags.agentID
  tenant : d.tenant = trimSpace flags.tenant
  project : d.project = trimSpace flags.project
  artifactName : d.artifactName = trimSpace flags.artifactName
  selectedName : d.selectedArtifact.name = trimSpace flags.artifactName
  version : trimSpace flags.version ≠ [] →
    d.requestedVersion = trimSpace flags.version ∧
      d.selectedArtifact.version = trimSpace flags.version
  targetProfile : trimSpace flags.targetProfile ≠ [] →
    d.targetProfile = trimSpace flags.targetProfile
  sha256 : trimSpace d.selectedArtifact.sha256 ≠ []

/-- Only a decision about the request is fetched, and an agent that the load policy revokes loads
nothing. -/
structure BoundToRequest (w : World) (flags : ApplyFlags) : Prop where
  fetched : ∀ p, (runAgentApply w flags).payload = some p →
    Echoes w flags.toCommonFlags p.plan.decision
  revoked : ∀ policy, trimSpace flags.loadPolicyPath ≠ [] →
    readLoadPolicy w flags.loadPolicyPath = .ok policy →
    Revokes policy (resolveAgentID w flags.agentID) →
    ∀ p result, runAgentApply w flags ≠ .executed p result

omit [CaseTables] in
/-- The control plane answers the request of the flags with a decision. -/
def Answers (w : World) (flags : CommonFlags) (d : DecisionResult) : Prop :=
  ∃ policy hostProbe, flags.policy = .ok policy ∧ w.probe = .ok hostProbe ∧
    requestRemoteAgentDecision w flags.apiURL (planRequest w flags policy hostProbe) = .ok d

/-- The artifact of a decision can be downloaded by a run with the flags. -/
def Downloads (w : World) (flags : ApplyFlags) (d : DecisionResult) : Prop :=
  trimSpace flags.artifactName ≠ [] ∧ flags.timeout = .ok () ∧
    ∃ fetch files, downloadSelectedArtifact w d.selectedArtifact flags.apiURL flags.outDir
      = .ok (fetch, files)

/-! ### What is fetched -/

/-- A run has fetched something precisely when its plan and its fetch succeeded. -/
theorem payload_eq_some_iff {w : World} {flags : ApplyFlags} {p : Payload} :
  (runAgentApply w flags).payload = some p ↔
    flags.timeout = .ok () ∧ executeAgentPlan w flags.toCommonFlags = .ok p.plan ∧
      fetchAgentSelectedArtifact w p.plan flags.apiURL flags.outDir = .ok (p.fetch, p.files)
  := by
  constructor
  · intro h
    rw [runAgentApply] at h
    split at h
    · cases h
    · rename_i htimeout
      split at h
      · cases h
      · rename_i plan hplan
        split at h
        · cases h
        · rename_i fetch files hfetch
          have heq : p = ⟨plan, fetch, files⟩ := by
            dsimp only at h
            split at h
            · exact (Option.some.inj h).symm
            · split at h
              · exact (Option.some.inj h).symm
              · exact (Option.some.inj h).symm
          subst heq
          exact ⟨htimeout, hplan, hfetch⟩
  · rintro ⟨htimeout, hplan, hfetch⟩
    simp only [runAgentApply, htimeout, hplan, hfetch]
    split
    · rfl
    · split
      · rfl
      · rfl

/-- The remote plans of the flags are the answers of the control plane. -/
theorem executeAgentPlan_remote_iff {w : World} {flags : CommonFlags} {plan : Plan}
    (hurl : trimSpace flags.apiURL ≠ []) (hname : trimSpace flags.artifactName ≠ []) :
  (∃ hostProbe, w.probe = .ok hostProbe ∧ plan = ⟨plan.decision, hostProbe,
      recordFromSelectedArtifact plan.decision.selectedArtifact, true⟩) ∧
    Answers w flags plan.decision ↔ executeAgentPlan w flags = .ok plan
  := by
  constructor
  · rintro ⟨⟨hostProbe, hprobe, hplan⟩, policy, hostProbe', hpolicy, hprobe', hanswer⟩
    rw [hprobe, Except.ok.injEq] at hprobe'
    subst hprobe'
    rw [hplan]
    simp [executeAgentPlan, planStep, hname, hurl, hpolicy, hprobe, hanswer, Except.mapError, bind,
      Except.bind]
  · intro h
    obtain ⟨policy, hostProbe, hpolicy, hprobe, hhost, ⟨-, hremote, hanswer, hrecord⟩ | ⟨hnil, -⟩⟩ :=
      executeAgentPlan_eq_ok h
    · refine ⟨⟨hostProbe, hprobe, ?_⟩, policy, hostProbe, hpolicy, hprobe, hanswer⟩
      obtain ⟨d, host, record, remote⟩ := plan
      simp only at hhost hremote hrecord
      rw [hhost, hremote, hrecord]
    · exact absurd hnil hurl

/-- With a control plane, a decision is fetched precisely when it is answered and can be
downloaded. -/
theorem fetched_decision_iff {w : World} {flags : ApplyFlags} {d : DecisionResult}
    (hurl : trimSpace flags.apiURL ≠ []) :
  (∃ p, (runAgentApply w flags).payload = some p ∧ p.plan.decision = d) ↔
    Answers w flags.toCommonFlags d ∧ Downloads w flags d
  := by
  constructor
  · rintro ⟨p, hpayload, rfl⟩
    obtain ⟨htimeout, hplan, hfetch⟩ := payload_eq_some_iff.mp hpayload
    have hname : trimSpace flags.artifactName ≠ [] := by
      rw [executeAgentPlan, refuse_if_eq_ok_iff] at hplan
      exact hplan.1
    obtain ⟨⟨hostProbe, -, heq⟩, hanswer⟩ := (executeAgentPlan_remote_iff hurl hname).mpr hplan
    refine ⟨hanswer, hname, htimeout, p.fetch, p.files, ?_⟩
    rw [fetchAgentSelectedArtifact, heq] at hfetch
    exact hfetch
  · rintro ⟨hanswer, hname, htimeout, fetch, files, hdownload⟩
    have hprobe : ∃ hostProbe, w.probe = .ok hostProbe := by
      obtain ⟨-, hostProbe, -, hprobe, -⟩ := hanswer
      exact ⟨hostProbe, hprobe⟩
    obtain ⟨hostProbe, hprobe⟩ := hprobe
    refine ⟨⟨⟨d, hostProbe, recordFromSelectedArtifact d.selectedArtifact, true⟩, fetch, files⟩, ?_,
      rfl⟩
    rw [payload_eq_some_iff]
    refine ⟨htimeout, ?_, hdownload⟩
    exact (executeAgentPlan_remote_iff hurl hname).mp ⟨⟨hostProbe, hprobe, rfl⟩, hanswer⟩

/-- A revoked agent that the decision names loads nothing. -/
theorem not_executed_of_revoked {w : World} {flags : ApplyFlags} {policy : LoadPolicy}
    (hpath : trimSpace flags.loadPolicyPath ≠ [])
    (hpolicy : readLoadPolicy w flags.loadPolicyPath = .ok policy) {p : Payload}
    {result : Except Str Str} (h : runAgentApply w flags = .executed p result) :
  ¬ Revokes policy p.plan.decision.agentID
  := by
  intro hrevokes
  obtain ⟨-, -, -, hgates⟩ := runAgentApply_eq_executed h
  obtain ⟨_, -, hgates⟩ := bind_eq_ok_iff.mp hgates
  obtain ⟨_, -, hgates⟩ := bind_eq_ok_iff.mp hgates
  obtain ⟨decision, hdecision, hgates⟩ := bind_eq_ok_iff.mp hgates
  rw [refuse_if_eq_ok_iff] at hgates
  obtain ⟨policy', manifest, hpolicy', -, hallowed⟩ := policyAllows_of_decision
    (mapError_eq_ok_iff.mp hdecision) (by simpa using hgates.1) (.inl hpath)
  rw [hpolicy, Except.ok.injEq] at hpolicy'
  subst hpolicy'
  have hdenied : (evaluateLoadPolicy policy (loadPolicyContext p.plan manifest)).allowed = false :=
    evaluateLoadPolicy_revoked hrevokes
  rw [hallowed] at hdenied
  cases hdenied

/-- A load is bound to the request precisely when every decision the control plane answers with
echoes the request and states a hash, or cannot be downloaded. -/
theorem load_bound_to_request_iff (w : World) (flags : ApplyFlags)
    (hurl : trimSpace flags.apiURL ≠ []) :
  BoundToRequest w flags ↔
    ∀ d, Answers w flags.toCommonFlags d →
      Echoes w flags.toCommonFlags d ∨ ¬ Downloads w flags d
  := by
  constructor
  · intro hbound d hanswer
    by_cases hdownload : Downloads w flags d
    · obtain ⟨p, hpayload, rfl⟩ := (fetched_decision_iff hurl).mpr ⟨hanswer, hdownload⟩
      exact .inl (hbound.fetched p hpayload)
    · exact .inr hdownload
  · intro hall
    have hechoes : ∀ p, (runAgentApply w flags).payload = some p →
        Echoes w flags.toCommonFlags p.plan.decision := by
      intro p hpayload
      obtain ⟨hanswer, hdownload⟩ := (fetched_decision_iff hurl).mp ⟨p, hpayload, rfl⟩
      exact (hall _ hanswer).resolve_right (not_not.mpr hdownload)
    refine ⟨hechoes, ?_⟩
    intro policy hpath hpolicy hrevokes p result hexecuted
    have hpayload : (runAgentApply w flags).payload = some p := by
      rw [hexecuted]
      rfl
    apply not_executed_of_revoked hpath hpolicy hexecuted
    rw [(hechoes p hpayload).agentID]
    exact hrevokes

end

/-! ### A revoked agent -/

section

attribute [local instance] asciiCaseTables

/-- A policy that revokes one agent and allows everything else. -/
def revokingPolicy : LoadPolicy where
  defaultAction := str "allow"
  revokedAgents := [str "edge-01"]

/-- A host with that policy, whose control plane answers in the name of an agent. -/
def answeringWorld (agentID : Str) : World :=
  { edgeWorld with
    respond := fun _ => .ok ⟨200, some { remoteDecision with agentID := agentID }⟩
    policyFile := fun _ => .ok revokingPolicy }

/-- An approved load under the policy of the host. -/
def revokedFlags : ApplyFlags :=
  { edgeFlags (str "out") with
    agentID := str "edge-01"
    loadPolicyPath := str "/etc/policy.json"
    requireLoadPolicy := true }

theorem load_bound_to_request_answering :
  BoundToRequest (answeringWorld (str "edge-01")) revokedFlags ↔
    ∀ d, Answers (answeringWorld (str "edge-01")) revokedFlags.toCommonFlags d →
      Echoes (answeringWorld (str "edge-01")) revokedFlags.toCommonFlags d ∨
        ¬ Downloads (answeringWorld (str "edge-01")) revokedFlags d
  := by
  apply load_bound_to_request_iff
  decide

/-- The agent is revoked on its host, the control plane answers in the name of another one, and the
artifact is loaded. -/
theorem revoked_agent_loads :
  ∃ policy, readLoadPolicy (answeringWorld (str "edge-02")) revokedFlags.loadPolicyPath = .ok policy ∧
    Revokes policy (resolveAgentID (answeringWorld (str "edge-02")) revokedFlags.agentID) ∧
    ∃ p result, runAgentApply (answeringWorld (str "edge-02")) revokedFlags = .executed p result
  := by
  obtain ⟨policy, hpolicy, hrevokes⟩ := exists_ok_of_any
    (x := readLoadPolicy (answeringWorld (str "edge-02")) revokedFlags.loadPolicyPath)
    (p := fun policy => decide (Revokes policy
      (resolveAgentID (answeringWorld (str "edge-02")) revokedFlags.agentID)))
    (by decide +kernel)
  obtain ⟨p, result, h, -⟩ := exists_of_executedWith
    (o := runAgentApply (answeringWorld (str "edge-02")) revokedFlags) (t := fun _ => true)
    (by decide +kernel)
  exact ⟨policy, hpolicy, of_decide_eq_true hrevokes, p, result, h⟩

end

end Agent
