import BpfCompat.Go.Time
import BpfCompat.Registry.History
import BpfCompat.Runtime.Select

/-!
# Decisions

An agent asks which version of an artifact it should load.  A decision selects the best version of
the history, looks its record up, checks the provenance of the history unless that was waived, and
carries an identifier made of the clock and of three random bytes.

The record is looked up by name and version, and the history may hold several runs and variants of
one version.  The decision is about the record that was selected precisely when none of the earlier
records has its name and version (`decision_about_selected_iff`).
-/

namespace Agent

open Go Registry Runtime

/-! ### Provenance of the selected record -/

/-- Why no row of the verification is that of the selected record. -/
inductive MatchError where
  | ambiguous (name version runID : Str)
  | notFound (name version runID : Str)

inductive ProvenanceError where
  | unreadable
  | empty
  | failed (failed records : Nat) (samples : List ArtifactVersionVerification)
      (unmatched : Option MatchError)
  | unmatched (reason : MatchError)
  | notVerified (row : ArtifactVersionVerification)

structure HistoryVerificationSelected where
  artifactName : Str
  artifactVersion : Str
  runID : Str
  index : Nat
  verified : Bool
deriving DecidableEq

structure HistoryVerificationResult where
  schemaVersion : Str
  records : Nat
  failed : Nat
  verified : Bool
  selected : HistoryVerificationSelected
deriving DecidableEq

/-- The row of the verification that is the selected record's: the first of its run, or else the
only one of its name and version. -/
def findSelectedVerificationRow (rows : List ArtifactVersionVerification)
    (selected : ArtifactVersionRecord) : Except MatchError (ArtifactVersionVerification × Nat) :=
  let name := trimSpace selected.artifactName
  let version := trimSpace selected.artifactVersion
  let runID := trimSpace selected.runID
  let matching := rows.zipIdx.filter fun row =>
    trimSpace row.1.artifactName = name ∧ trimSpace row.1.artifactVersion = version
  match matching.find? fun row => runID ≠ [] ∧ trimSpace row.1.runID = runID with
  | some row => .ok row
  | none =>
    match matching with
    | [] => .error (.notFound name version runID)
    | [row] => .ok row
    | _ :: _ :: _ => .error (.ambiguous name version runID)

section

variable [CaseTables]

/-- The verification of the history of a working directory, with the selected record among its
rows. -/
def verifySelectedArtifactProvenance (c : Crypto) (dir : WorkDir)
    (selected : ArtifactVersionRecord) : Except ProvenanceError HistoryVerificationResult :=
  match verifyArtifactVersionHistory c dir with
  | none => .error .unreadable
  | some verification =>
    if verification = [] then .error .empty
    else
      let failing := verification.filter fun row => !row.verified
      match findSelectedVerificationRow verification selected with
      | .error e =>
        if failing ≠ [] then
          .error (.failed failing.length verification.length (failing.take 3) (some e))
        else .error (.unmatched e)
      | .ok (row, index) =>
        if failing ≠ [] then
          .error (.failed failing.length verification.length (failing.take 3) none)
        else if !row.verified then .error (.notVerified row)
        else
          .ok {
            schemaVersion := str "runtime_history_verification.v0.1"
            records := verification.length
            failed := 0
            verified := true
            selected := {
              artifactName := trimSpace selected.artifactName
              artifactVersion := trimSpace selected.artifactVersion
              runID := trimSpace selected.runID
              index := index
              verified := row.verified } }

end

/-! ### Decisions -/

structure DecisionRequest where
  tenant : Str := []
  project : Str := []
  agentID : Str := []
  artifactName : Str := []
  version : Str := []
  targetProfile : Str := []
  limit : Int := 0
  requireVerifiedHistory : Option Bool := none
  policy : SelectionPolicy := {}
  hostProbe : HostCapabilities := {}

structure SelectedArtifact where
  name : Str := []
  version : Str := []
  variant : Str := []
  runID : Str := []
  sha256 : Str := []
  artifactURI : Str := []
  downloadURL : Str := []
  manifestPath : Str := []
  summaryStatus : Str := []
  requiredPassed : Int64 := 0
  requiredFailed : Int64 := 0
  supportedProfiles : List Str := []
  failedProfiles : List Str := []
deriving DecidableEq

structure DecisionResult where
  schemaVersion : Str
  decisionID : Str
  createdAt : Str
  tenant : Str
  project : Str
  agentID : Str
  artifactName : Str
  requestedVersion : Str
  targetProfile : Str
  hostProfileHint : Str
  policy : Option SelectionPolicy
  selection : SelectionResult
  selectedArtifact : SelectedArtifact
  historyVerification : Option HistoryVerificationResult
  approvalRequired : Bool
  loadApproved : Bool

inductive DecisionError where
  | artifactNameRequired
  | hostProbeRequired
  | selection (message : Str)
  | resolve (message : Str)
  | provenance (reason : ProvenanceError)
  | decisionID

/-- What a decision takes from outside: the clock, read twice, and three random bytes, which may
be refused. -/
structure Draw where
  idTime : Time
  random : Option (UInt8 × UInt8 × UInt8)
  createdTime : Time

def newDecisionID (draw : Draw) : Option Str :=
  draw.random.map fun (a, b, c) => draw.idTime.compact ++ str "-" ++ hexEncode [a, b, c]

def selectedArtifactFromRecord (record : ArtifactVersionRecord) (downloadURL : Str) :
    SelectedArtifact where
  name := trimSpace record.artifactName
  version := trimSpace record.artifactVersion
  variant := trimSpace record.artifactVariant
  runID := trimSpace record.runID
  sha256 := trimSpace record.artifactSHA256
  artifactURI := trimSpace record.artifactURI
  downloadURL := trimSpace downloadURL
  manifestPath := trimSpace record.manifestPath
  summaryStatus := trimSpace record.summaryStatus
  requiredPassed := record.requiredPassed
  requiredFailed := record.requiredFailed
  supportedProfiles := record.supportedProfiles
  failedProfiles := record.failedProfiles

/-- A verified history is demanded unless the request waives it. -/
def requireVerifiedHistory (req : DecisionRequest) : Bool := req.requireVerifiedHistory.getD true

/-- The selection a decision asks for. -/
def selectionRequest (req : DecisionRequest) : SelectionRequest where
  artifactName := trimSpace req.artifactName
  requestedVersion := trimSpace req.version
  targetProfileID := trimSpace req.targetProfile
  limit := if req.limit ≤ 0 then 5 else req.limit
  policy := req.policy

def decisionSchemaVersion : Str := str "agent_decision.v0.1"

section

variable [CaseTables]

/-- The provenance a decision reports, if it was demanded. -/
def checkedProvenance (c : Crypto) (dir : WorkDir) (req : DecisionRequest)
    (record : ArtifactVersionRecord) :
    Except DecisionError (Option HistoryVerificationResult) :=
  if requireVerifiedHistory req then
    match verifySelectedArtifactProvenance c dir record with
    | .error e => .error (.provenance e)
    | .ok verification => .ok (some verification)
  else .ok none

def buildDecision (c : Crypto) (dir : WorkDir) (draw : Draw) (records : List ArtifactVersionRecord)
    (req : DecisionRequest) : Except DecisionError (DecisionResult × ArtifactVersionRecord) :=
  let artifactName := trimSpace req.artifactName
  if artifactName = [] then .error .artifactNameRequired
  else if trimSpace req.hostProbe.schemaVersion = [] then .error .hostProbeRequired
  else
    match selectBestArtifactVersion records req.hostProbe (selectionRequest req) with
    | .error e => .error (.selection e)
    | .ok selection =>
      match findSelectedRecord records selection.artifactName selection.selected.artifactVersion with
      | .error e => .error (.resolve e)
      | .ok selectedRecord =>
        match checkedProvenance c dir req selectedRecord with
        | .error e => .error e
        | .ok historyVerification =>
          match newDecisionID draw with
          | none => .error .decisionID
          | some decisionID =>
            .ok ({
              schemaVersion := decisionSchemaVersion
              decisionID := decisionID
              createdAt := draw.createdTime.rfc3339
              tenant := trimSpace req.tenant
              project := trimSpace req.project
              agentID := trimSpace req.agentID
              artifactName := artifactName
              requestedVersion := trimSpace req.version
              targetProfile := trimSpace req.targetProfile
              hostProfileHint := hostProfileHint req.hostProbe
              policy := if policyHasConstraints req.policy then some req.policy else none
              selection := selection
              selectedArtifact := selectedArtifactFromRecord selectedRecord []
              historyVerification := historyVerification
              approvalRequired := true
              loadApproved := false }, selectedRecord)

/-! ### What a decision is about -/

/-- What a decision is made of: the selection, the record found for it, and the identifier. -/
theorem buildDecision_eq_ok {c : Crypto} {dir : WorkDir} {draw : Draw}
    {records : List ArtifactVersionRecord} {req : DecisionRequest} {d : DecisionResult}
    {record : ArtifactVersionRecord} (h : buildDecision c dir draw records req = .ok (d, record)) :
  selectBestArtifactVersion records req.hostProbe (selectionRequest req) = .ok d.selection ∧
    findSelectedRecord records d.selection.artifactName d.selection.selected.artifactVersion
      = .ok record ∧
    newDecisionID draw = some d.decisionID ∧
    d.selectedArtifact = selectedArtifactFromRecord record []
  := by
  simp only [buildDecision, refuse_if_eq_ok_iff] at h
  obtain ⟨-, -, h⟩ := h
  split at h
  · cases h
  · rename_i selection hselection
    split at h
    · cases h
    · rename_i selectedRecord hrecord
      split at h
      · cases h
      · split at h
        · cases h
        · rename_i decisionID hid
          simp only [Except.ok.injEq, Prod.mk.injEq] at h
          obtain ⟨rfl, rfl⟩ := h
          exact ⟨hselection, hrecord, hid, rfl⟩

/-- The decision is about the best record: it is the one returned, with its run and variant, and
the policy accepts it. -/
structure AboutSelected (req : DecisionRequest) (best : ArtifactVersionRecord) (d : DecisionResult)
    (record : ArtifactVersionRecord) : Prop where
  record_eq : record = best
  runID_eq : d.selection.selected.runID = record.runID
  variant_eq : d.selection.selected.artifactVariant = record.artifactVariant
  accepted : Accepts req.hostProbe req.policy record

/-- A decision is about the record scored best among those the policy accepts precisely when no
earlier record has the name and version of that record. -/
theorem decision_about_selected_iff (c : Crypto) (dir : WorkDir) (draw : Draw)
    (records : List ArtifactVersionRecord) (req : DecisionRequest) (d : DecisionResult)
    (record : ArtifactVersionRecord) (h : buildDecision c dir draw records req = .ok (d, record)) :
  ∃ before best after, records = before ++ best :: after ∧
    ScoredBest req.hostProbe (selectionRequest req) before best after ∧
    (AboutSelected req best d record ↔ Unshadowed before best)
  := by
  obtain ⟨hselection, hrecord, -, -⟩ := buildDecision_eq_ok h
  obtain ⟨hname, before, best, after, rfl, hselected, hbest⟩ :=
    leader_of_selectBestArtifactVersion hselection
  use before, best, after, rfl, hbest
  have hbestName : best.artifactName = d.selection.artifactName := by
    have hrequested := hbest.holds.1
    rw [requested, Bool.and_eq_true, decide_eq_true_eq] at hrequested
    rw [hname, hrequested.1]
  rw [← hbestName, hselected, artifactVersion_candidateOf] at hrecord
  have hiff := findSelectedRecord_eq_iff hbest.notMem_before hrecord
  constructor
  · intro habout
    exact hiff.mp habout.record_eq
  · intro hclear
    obtain rfl := hiff.mpr hclear
    refine ⟨rfl, ?_, ?_, hbest.holds.2⟩
    · rw [hselected, runID_candidateOf]
    · rw [hselected, artifactVariant_candidateOf]

end

/-! ### Two runs of one version -/

section

attribute [local instance] asciiCaseTables

/-- The outcome of one run of version 1.0. -/
def runRecord (runID summaryStatus : Str) : ArtifactVersionRecord where
  runID := runID
  artifactName := str "edge"
  artifactVersion := str "1.0"
  summaryStatus := summaryStatus

/-- A request that demands a passing summary and waives the check of the history. -/
def passingRequest : DecisionRequest where
  artifactName := str "edge"
  requireVerifiedHistory := some false
  policy := { requireSummaryPass := true }
  hostProbe := { schemaVersion := str "runtime_probe.v0.1" }

/-- Noon on a day, and three zero bytes. -/
def noonDraw : Draw where
  idTime := ⟨2026, 0, 0, 12, 0, 0⟩
  random := some (0, 0, 0)
  createdTime := ⟨2026, 0, 0, 12, 0, 0⟩

/-- A computation that satisfies a test returns a value that does. -/
theorem exists_ok_of_any {ε α : Type*} {x : Except ε α} {p : α → Bool}
    (h : x.toOption.any p = true) :
  ∃ a, x = .ok a ∧ p a = true
  := by
  cases x with
  | error e => cases h
  | ok a => exact ⟨a, rfl, h⟩

theorem decision_about_selected_one :
  ∃ d record, buildDecision tabledCrypto emptyDir noonDraw
      [runRecord (str "run-2") (str "pass"), runRecord (str "run-1") (str "fail")] passingRequest
        = .ok (d, record) ∧
    ∃ before best after,
      [runRecord (str "run-2") (str "pass"), runRecord (str "run-1") (str "fail")]
        = before ++ best :: after ∧
      ScoredBest passingRequest.hostProbe (selectionRequest passingRequest) before best after ∧
      (AboutSelected passingRequest best d record ↔ Unshadowed before best)
  := by
  obtain ⟨⟨d, record⟩, h, -⟩ := exists_ok_of_any
    (x := buildDecision tabledCrypto emptyDir noonDraw
      [runRecord (str "run-2") (str "pass"), runRecord (str "run-1") (str "fail")] passingRequest)
    (p := fun _ => true) (by decide)
  exact ⟨d, record, h, decision_about_selected_iff _ _ _ _ _ _ _ h⟩

/-- A later run of the selected version failed.  The selected candidate is the run that passed, and
the record returned is that of the other run, which the policy refuses. -/
theorem decision_about_other_run :
  ∃ d record, buildDecision tabledCrypto emptyDir noonDraw
      [runRecord (str "run-2") (str "fail"), runRecord (str "run-1") (str "pass")] passingRequest
        = .ok (d, record) ∧
    d.selection.selected.runID = str "run-1" ∧ record.runID = str "run-2" ∧
    ¬ Accepts passingRequest.hostProbe passingRequest.policy record
  := by
  obtain ⟨⟨d, record⟩, h, hp⟩ := exists_ok_of_any
    (x := buildDecision tabledCrypto emptyDir noonDraw
      [runRecord (str "run-2") (str "fail"), runRecord (str "run-1") (str "pass")] passingRequest)
    (p := fun (d, record) => d.selection.selected.runID = str "run-1" ∧
      record.runID = str "run-2" ∧ ¬ Accepts passingRequest.hostProbe passingRequest.policy record)
    (by decide)
  rw [decide_eq_true_eq] at hp
  exact ⟨d, record, h, hp⟩

end

end Agent
