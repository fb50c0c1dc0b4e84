import BpfCompat.Agent.HostLoad

/-!
# The load ledger

Every approved run of `agent apply` appends what became of the load to a ledger, with the version,
the hash and the path of the load of the same artifact that succeeded before it.  The ledger is
kept as the entries its lines decode to, the oldest first.

Of the loads of an artifact that succeeded the newest is the current one, and the load before it is
the one its entry names (`linked_recordAgentApply`).
-/

namespace Agent

open Go Registry Runtime

/-! ### Entries -/

structure LoadLedgerEntry where
  operation : Str := []
  status : Str := []
  agentID : Str := []
  tenant : Str := []
  project : Str := []
  artifactName : Str := []
  selectedVersion : Str := []
  selectedSHA256 : Str := []
  artifactPath : Str := []
  decisionID : Str := []
  targetProfile : Str := []
  hostProfileHint : Str := []
  loadApproved : Bool := false
  previousLoadedVersion : Str := []
  previousLoadedSHA256 : Str := []
  previousLoadedArtifactPath : Str := []
  rollbackHint : Str := []
  error : Str := []
  notes : List Str := []
deriving DecidableEq

abbrev LoadLedger : Type := List LoadLedgerEntry

/-- The entries of an artifact, or of all artifacts where none is named, the newest first. -/
def listLoadLedgerEntries (ledger : LoadLedger) (artifactName : Str) (limit : Nat) :
    List LoadLedgerEntry :=
  let artifactName := trimSpace artifactName
  let entries := (ledger.filter fun entry =>
    artifactName = [] || entry.artifactName = artifactName).reverse
  if 0 < limit then entries.take limit else entries

/-- An entry of a load that succeeded. -/
def LoadLedgerEntry.isSuccessfulLoad (entry : LoadLedgerEntry) : Bool :=
  entry.operation = str "load" && (entry.status = str "pass" || entry.status = str "success")

def lastSuccessfulLoad (ledger : LoadLedger) (artifactName : Str) : Option LoadLedgerEntry :=
  (listLoadLedgerEntries ledger artifactName 0).find? LoadLedgerEntry.isSuccessfulLoad

/-- What may fail about a ledger: drawing an identifier, reading it, appending to it. -/
inductive LedgerOperation where
  | newEntry
  | read
  | append
deriving DecidableEq

/-- The failures of the ledger in a run. -/
abbrev LedgerFaults : Type := LedgerOperation → Option Str

/-- None of the operations fails. -/
def LedgerFaults.Spare (faults : LedgerFaults) (ops : List LedgerOperation) : Prop :=
  ∀ op ∈ ops, faults op = none

instance (faults : LedgerFaults) (ops : List LedgerOperation) : Decidable (faults.Spare ops) :=
  inferInstanceAs (Decidable (∀ op ∈ ops, faults op = none))

/-! ### Recording a run -/

/-- The name, the version and the hash a load is recorded under. -/
def ledgerName (decision : DecisionResult) (fetch : FetchResult) : Str :=
  firstNonEmpty [decision.selectedArtifact.name, decision.artifactName, fetch.artifactName]

@[inherit_doc ledgerName]
def ledgerVersion (decision : DecisionResult) (fetch : FetchResult) : Str :=
  firstNonEmpty [decision.selectedArtifact.version, fetch.artifactVersion]

@[inherit_doc ledgerName]
def ledgerSHA256 (decision : DecisionResult) (fetch : FetchResult) : Str :=
  firstNonEmpty [decision.selectedArtifact.sha256, fetch.expectedSHA256, fetch.actualSHA256]

/-- An entry with the load that succeeded before it. -/
def LoadLedgerEntry.withPrevious (entry : LoadLedgerEntry) :
    Option LoadLedgerEntry → LoadLedgerEntry
  | none => entry
  | some previous =>
    { entry with
      previousLoadedVersion := previous.selectedVersion
      previousLoadedSHA256 := previous.selectedSHA256
      previousLoadedArtifactPath := previous.artifactPath
      rollbackHint := str "previous successful load was " ++ previous.artifactName ++ str "@" ++
        previous.selectedVersion ++ str " (" ++ previous.selectedSHA256 ++ str ")" }

def buildAgentLoadLedgerEntry (ledger : LoadLedger) (decision : DecisionResult)
    (fetch : FetchResult) (operation status errText : Str) : LoadLedgerEntry :=
  let entry : LoadLedgerEntry := {
    operation := if trimSpace operation = [] then str "load" else trimSpace operation
    status := if trimSpace status = [] then str "unknown" else trimSpace status
    agentID := decision.agentID
    tenant := decision.tenant
    project := decision.project
    artifactName := ledgerName decision fetch
    selectedVersion := ledgerVersion decision fetch
    selectedSHA256 := ledgerSHA256 decision fetch
    artifactPath := fetch.outputPath
    decisionID := decision.decisionID
    targetProfile := decision.targetProfile
    hostProfileHint := decision.hostProfileHint
    loadApproved := decision.loadApproved
    error := trimSpace errText }
  entry.withPrevious (lastSuccessfulLoad ledger entry.artifactName)

/-- The ledger after an entry was built and appended; a failure is noted in the result of the run
only. -/
def persistAgentApplyAuditAndLedger (faults : LedgerFaults) (ledger : LoadLedger)
    (decision : DecisionResult) (fetch : FetchResult) (operation status errText : Str) :
    LoadLedger :=
  if faults.Spare [.newEntry, .read, .append] then
    ledger ++ [buildAgentLoadLedgerEntry ledger decision fetch operation status errText]
  else ledger

/-- The decision of a run once its pins are checked. -/
def DecisionResult.approved (decision : DecisionResult) : DecisionResult :=
  { decision with loadApproved := true }

/-- The ledger after a run of `agent apply`. -/
def recordAgentApply (faults : LedgerFaults) (ledger : LoadLedger) : ApplyOutcome → LoadLedger
  | .denied p .approval message =>
    persistAgentApplyAuditAndLedger faults ledger p.plan.decision p.fetch (str "load")
      (str "denied") message
  | .denied p _ message =>
    persistAgentApplyAuditAndLedger faults ledger p.plan.decision.approved p.fetch (str "load")
      (str "denied") message
  | .executed p (.error e) =>
    persistAgentApplyAuditAndLedger faults ledger p.plan.decision.approved p.fetch (str "load")
      (str "error") e
  | .executed p (.ok status) =>
    persistAgentApplyAuditAndLedger faults ledger p.plan.decision.approved p.fetch (str "load")
      (if status = [] then str "pass" else status) []
  | _ => ledger

/-! ### The loads that succeeded -/

/-- The loads of an artifact that succeeded, the newest first. -/
def successfulLoads (ledger : LoadLedger) (artifactName : Str) : List LoadLedgerEntry :=
  (listLoadLedgerEntries ledger artifactName 0).filter LoadLedgerEntry.isSuccessfulLoad

theorem lastSuccessfulLoad_eq_head? (ledger : LoadLedger) (artifactName : Str) :
  lastSuccessfulLoad ledger artifactName = (successfulLoads ledger artifactName).head?
  := by
  rw [lastSuccessfulLoad, successfulLoads, List.head?_filter]

/-- An entry is in front of the loads of its artifact if it is one that succeeded, and does not
matter otherwise. -/
theorem successfulLoads_append (ledger : LoadLedger) (entry : LoadLedgerEntry) {name : Str}
    (hname : trimSpace name ≠ []) :
  successfulLoads (ledger ++ [entry]) name =
    if entry.artifactName = trimSpace name ∧ entry.isSuccessfulLoad = true then
      entry :: successfulLoads ledger name
    else successfulLoads ledger name
  := by
  simp only [successfulLoads, listLoadLedgerEntries, Nat.lt_irrefl, if_false, hname, decide_false,
    Bool.false_or, List.filter_append, List.reverse_append]
  by_cases hentry : entry.artifactName = trimSpace name
  · cases hsuccess : entry.isSuccessfulLoad with
    | true => simp [hentry, hsuccess]
    | false => simp [hentry, hsuccess]
  · simp [hentry]

theorem successfulLoads_trimSpace (ledger : LoadLedger) (name : Str) :
  successfulLoads ledger (trimSpace name) = successfulLoads ledger name
  := by
  rw [successfulLoads, successfulLoads, listLoadLedgerEntries, listLoadLedgerEntries,
    trimSpace_trimSpace]

/-- The newest load of a list names the one before it. -/
def Linked : List LoadLedgerEntry → Prop
  | [] => True
  | entry :: before =>
    entry.previousLoadedVersion = (before.head?.map (·.selectedVersion)).getD [] ∧
      entry.previousLoadedSHA256 = (before.head?.map (·.selectedSHA256)).getD []

/-- The newest load of a list is of a version, and so is the one before it, which is of another
one. -/
def Distinct : List LoadLedgerEntry → Prop
  | [] => True
  | entry :: before => trimSpace entry.selectedVersion ≠ [] ∧
    ∀ previous ∈ before.head?, trimSpace previous.selectedVersion ≠ [] ∧
      previous.selectedVersion ≠ entry.selectedVersion

section

variable {ledger : LoadLedger} {name : Str}

/-- What holds of the loads of an artifact still holds when an entry is appended, if it holds with
the entry in front where that is a load of the artifact that succeeded. -/
theorem successfulLoads_append_of {P : List LoadLedgerEntry → Prop} {entry : LoadLedgerEntry}
    (hname : trimSpace name ≠ []) (h : P (successfulLoads ledger name))
    (hentry : entry.artifactName = trimSpace name → entry.isSuccessfulLoad = true →
      P (entry :: successfulLoads ledger name)) :
  P (successfulLoads (ledger ++ [entry]) name)
  := by
  rw [successfulLoads_append ledger entry hname]
  split_ifs with hload
  · exact hentry hload.1 hload.2
  · exact h

theorem linked_withPrevious (entry : LoadLedgerEntry) (loads : List LoadLedgerEntry)
    (hversion : entry.previousLoadedVersion = []) (hsha : entry.previousLoadedSHA256 = []) :
  Linked (entry.withPrevious loads.head? :: loads)
  := by
  cases loads with
  | nil => exact ⟨hversion, hsha⟩
  | cons previous before => exact ⟨rfl, rfl⟩

@[simp]
theorem withPrevious_artifactName (entry : LoadLedgerEntry) (previous : Option LoadLedgerEntry) :
  (entry.withPrevious previous).artifactName = entry.artifactName
  := by
  cases previous with
  | none => rfl
  | some previous => rfl

@[simp]
theorem withPrevious_selectedVersion (entry : LoadLedgerEntry)
    (previous : Option LoadLedgerEntry) :
  (entry.withPrevious previous).selectedVersion = entry.selectedVersion
  := by
  cases previous with
  | none => rfl
  | some previous => rfl

@[simp]
theorem withPrevious_isSuccessfulLoad (entry : LoadLedgerEntry)
    (previous : Option LoadLedgerEntry) :
  (entry.withPrevious previous).isSuccessfulLoad = entry.isSuccessfulLoad
  := by
  cases previous with
  | none => rfl
  | some previous => rfl

theorem linked_persist (faults : LedgerFaults) (decision : DecisionResult) (fetch : FetchResult)
    (operation status errText : Str) (hname : trimSpace name ≠ [])
    (h : Linked (successfulLoads ledger name)) :
  Linked (successfulLoads (persistAgentApplyAuditAndLedger faults ledger decision fetch operation
    status errText) name)
  := by
  rw [persistAgentApplyAuditAndLedger]
  split_ifs
  · apply successfulLoads_append_of hname h
    intro hentry _
    rw [buildAgentLoadLedgerEntry] at hentry ⊢
    rw [withPrevious_artifactName] at hentry
    rw [lastSuccessfulLoad_eq_head?, hentry, successfulLoads_trimSpace]
    apply linked_withPrevious
    · rfl
    · rfl
  · exact h

/-- However a run ends, the newest load of an artifact that succeeded names the one before it. -/
theorem linked_recordAgentApply (faults : LedgerFaults) (outcome : ApplyOutcome)
    (hname : trimSpace name ≠ []) (h : Linked (successfulLoads ledger name)) :
  Linked (successfulLoads (recordAgentApply faults ledger outcome) name)
  := by
  fun_cases recordAgentApply
  · exact linked_persist _ _ _ _ _ _ hname h
  · exact linked_persist _ _ _ _ _ _ hname h
  · exact linked_persist _ _ _ _ _ _ hname h
  · exact linked_persist _ _ _ _ _ _ hname h
  · exact h

/-! ### Loads of other versions -/

/-- A run is recorded as a load that succeeded. -/
def LoadSucceeded (status : Str) : Prop :=
  status = [] ∨ trimSpace status = str "pass" ∨ trimSpace status = str "success"

/-- A run that loads something under a name loads a version of it, and another one than the load
that is current. -/
def Fresh (ledger : LoadLedger) (outcome : ApplyOutcome) : Prop :=
  ∀ p status, outcome = .executed p (.ok status) → LoadSucceeded status →
    ledgerName p.plan.decision p.fetch ≠ [] →
    ledgerVersion p.plan.decision p.fetch ≠ [] ∧
      ∀ current, lastSuccessfulLoad ledger (ledgerName p.plan.decision p.fetch) = some current →
        current.selectedVersion ≠ ledgerVersion p.plan.decision p.fetch

instance (status : Str) : Decidable (LoadSucceeded status) :=
  inferInstanceAs (Decidable (_ ∨ _ ∨ _))

theorem fresh_executed_iff {p : Payload} {status : Str} :
  Fresh ledger (.executed p (.ok status)) ↔
    (LoadSucceeded status → ledgerName p.plan.decision p.fetch ≠ [] →
      ledgerVersion p.plan.decision p.fetch ≠ [] ∧
        ∀ current ∈ lastSuccessfulLoad ledger (ledgerName p.plan.decision p.fetch),
          current.selectedVersion ≠ ledgerVersion p.plan.decision p.fetch)
  := by
  constructor
  · intro h
    exact h p status rfl
  · intro h p' status' heq
    cases heq
    exact h

instance (ledger : LoadLedger) (outcome : ApplyOutcome) : Decidable (Fresh ledger outcome) :=
  match outcome with
  | .executed _ (.ok _) => decidable_of_iff _ fresh_executed_iff.symm
  | .executed _ (.error _) => .isTrue fun _ _ h => by cases h
  | .denied .. => .isTrue fun _ _ h => by cases h
  | .skipped _ => .isTrue fun _ _ h => by cases h
  | .fetchFailed _ => .isTrue fun _ _ h => by cases h
  | .planFailed _ => .isTrue fun _ _ h => by cases h
  | .badTimeout _ => .isTrue fun _ _ h => by cases h

theorem trimSpace_firstNonEmpty (values : List Str) :
  trimSpace (firstNonEmpty values) = firstNonEmpty values
  := by
  rw [firstNonEmpty]
  cases hfind : (values.map trimSpace).find? (· ≠ []) with
  | none => rfl
  | some value =>
      obtain ⟨raw, -, rfl⟩ := List.mem_map.mp (List.mem_of_find?_eq_some hfind)
      apply trimSpace_trimSpace

/-- An entry of anything else is not looked at. -/
theorem lastSuccessfulLoad_append_of_not (name : Str) {entry : LoadLedgerEntry}
    (h : entry.isSuccessfulLoad = false) :
  lastSuccessfulLoad (ledger ++ [entry]) name = lastSuccessfulLoad ledger name
  := by
  simp only [lastSuccessfulLoad, listLoadLedgerEntries, Nat.lt_irrefl, if_false,
    List.filter_append, List.reverse_append, List.find?_append]
  by_cases hentry : (decide (trimSpace name = []) || decide (entry.artifactName = trimSpace name))
      = true
  · simp [hentry, h]
  · simp [hentry]

/-- The entry of a run counts as a load that succeeded for the status of one only. -/
theorem isSuccessfulLoad_build {decision : DecisionResult} {fetch : FetchResult}
    {operation status errText : Str}
    (h : (buildAgentLoadLedgerEntry ledger decision fetch operation status
      errText).isSuccessfulLoad = true) :
  trimSpace status = str "pass" ∨ trimSpace status = str "success"
  := by
  rw [buildAgentLoadLedgerEntry, withPrevious_isSuccessfulLoad,
    LoadLedgerEntry.isSuccessfulLoad] at h
  simp only [Bool.and_eq_true, Bool.or_eq_true, decide_eq_true_eq] at h
  by_cases hblank : trimSpace status = []
  · rw [if_pos hblank] at h
    exact absurd h.2 (by decide)
  · rw [if_neg hblank] at h
    exact h.2

theorem distinct_persist (faults : LedgerFaults) (decision : DecisionResult) (fetch : FetchResult)
    (operation status errText : Str) (hname : trimSpace name ≠ [])
    (hfresh : trimSpace status = str "pass" ∨ trimSpace status = str "success" →
      ledgerName decision fetch ≠ [] →
      ledgerVersion decision fetch ≠ [] ∧
        ∀ current, lastSuccessfulLoad ledger (ledgerName decision fetch) = some current →
          current.selectedVersion ≠ ledgerVersion decision fetch)
    (h : Distinct (successfulLoads ledger name)) :
  Distinct (successfulLoads (persistAgentApplyAuditAndLedger faults ledger decision fetch operation
    status errText) name)
  := by
  rw [persistAgentApplyAuditAndLedger]
  split_ifs
  · apply successfulLoads_append_of hname h
    intro hentry hsuccess
    have hstatus := isSuccessfulLoad_build hsuccess
    rw [buildAgentLoadLedgerEntry, withPrevious_artifactName] at hentry
    dsimp only at hentry
    obtain ⟨hversion, hcurrent⟩ := hfresh hstatus (by rw [hentry]; exact hname)
    rw [hentry, lastSuccessfulLoad_eq_head?, successfulLoads_trimSpace] at hcurrent
    rw [Distinct, buildAgentLoadLedgerEntry, withPrevious_selectedVersion]
    dsimp only
    refine ⟨by rwa [ledgerVersion, trimSpace_firstNonEmpty], ?_⟩
    intro previous hprevious
    refine ⟨?_, hcurrent previous hprevious⟩
    -- the load before the new one was in front until now
    cases hloads : successfulLoads ledger name with
    | nil =>
        rw [hloads] at hprevious
        cases hprevious
    | cons newest before =>
        rw [hloads, List.head?_cons, Option.mem_some_iff] at hprevious
        subst hprevious
        rw [hloads] at h
        exact h.1
  · exact h

/-- A run that does not load the current version again leaves the two newest loads of an artifact
of different versions. -/
theorem distinct_recordAgentApply (faults : LedgerFaults) (outcome : ApplyOutcome)
    (hname : trimSpace name ≠ []) (hfresh : Fresh ledger outcome)
    (h : Distinct (successfulLoads ledger name)) :
  Distinct (successfulLoads (recordAgentApply faults ledger outcome) name)
  := by
  have hdenied : ¬ (trimSpace (str "denied") = str "pass" ∨
      trimSpace (str "denied") = str "success") := by decide
  have herror : ¬ (trimSpace (str "error") = str "pass" ∨
      trimSpace (str "error") = str "success") := by decide
  fun_cases recordAgentApply
  · exact distinct_persist _ _ _ _ _ _ hname (fun hstatus => absurd hstatus hdenied) h
  · exact distinct_persist _ _ _ _ _ _ hname (fun hstatus => absurd hstatus hdenied) h
  · exact distinct_persist _ _ _ _ _ _ hname (fun hstatus => absurd hstatus herror) h
  · rename_i p status
    apply distinct_persist _ _ _ _ _ _ hname _ h
    intro hstatus
    apply hfresh p status rfl
    by_cases hblank : status = []
    · exact .inl hblank
    · rw [if_neg hblank] at hstatus
      exact .inr hstatus
  · exact h

end

end Agent
