import BpfCompat.Leader
import BpfCompat.Runtime.Policy

/-!
# Selecting a version

Selection scores the records of an artifact, drops those the policy refuses and puts the best of
the others first: the highest score, and of equal scores the later run.  It works on candidates,
which are summaries of the records, and the record of the selected candidate is looked up again
afterwards by its name and version.

The selected candidate is that of the record that leads the history among the eligible records
(`leader_of_selectBestArtifactVersion`).
-/

namespace Runtime

open Go Registry

/-! ### Scores -/

/-- Why a record was scored as it was. -/
structure SelectionReason where
  type : Str
  weight : Int64
  details : Str
deriving DecidableEq

/-- The distribution, the version and the kernel of a profile, empty where there are none. -/
def parseProfileID (profileID : Str) : Str × Str × Str :=
  let parts := (trimSpace profileID).splitOn 45
  match parts.reverse with
  | kernel :: version :: d :: ds => (join (str "-") (d :: ds).reverse, version, kernel)
  | _ => ([], [], [])

/-- How much a profile of a record says about a host. -/
def similarityWeight (profileID hostDistro hostVersion hostKernel : Str) (supported : Bool) :
    Int64 × Str :=
  let (pDistro, pVersion, pKernel) := parseProfileID profileID
  if pDistro = [] then (0, [])
  else if pDistro = hostDistro ∧ pVersion = hostVersion ∧ pKernel = hostKernel then
    (if supported then 140 else -220, profileID ++ str " exact match")
  else if pDistro = hostDistro ∧ pKernel = hostKernel then
    (if supported then 95 else -170, profileID ++ str " same distro+kernel")
  else if pDistro = hostDistro ∧ pVersion = hostVersion then
    (if supported then 80 else -140, profileID ++ str " same distro+version")
  else if pKernel = hostKernel then
    (if supported then 55 else -90, profileID ++ str " same kernel family")
  else (0, [])

/-- What the profiles of a record are worth for a target profile or a host. -/
def profileAlignmentWeight (record : ArtifactVersionRecord) (hostHint targetProfile : Str) :
    Int64 × Str :=
  if targetProfile ≠ [] then
    if containsString record.supportedProfiles targetProfile then
      (180, str "explicit target profile is supported")
    else if containsString record.failedProfiles targetProfile then
      (-260, str "explicit target profile previously failed")
    else (-40, str "explicit target profile not observed in history")
  else if hostHint = [] then (0, [])
  else
    let (hostDistro, hostVersion, hostKernel) := parseProfileID hostHint
    let best := record.supportedProfiles.foldl (fun best profileID =>
      let found := similarityWeight profileID hostDistro hostVersion hostKernel true
      if best.1 < found.1 then found else best) ((0, []) : Int64 × Str)
    record.failedProfiles.foldl (fun best profileID =>
      let found := similarityWeight profileID hostDistro hostVersion hostKernel false
      if found.1 < best.1 ∨ best.1 = 0 ∧ found.1 < 0 then found else best) best

/-- The reasons for and against a record. -/
def scoreReasons (record : ArtifactVersionRecord) (hostHint targetProfile : Str)
    (host : HostCapabilities) : List SelectionReason :=
  let (bestProfileWeight, detail) := profileAlignmentWeight record hostHint targetProfile
  (if record.summaryStatus = str "pass" then
    [⟨str "summary_pass", 20, str "run summary status is pass"⟩] else []) ++
  (if 0 < record.requiredPassed then
    [⟨str "required_passed", 10 * record.requiredPassed,
      str "required_passed=" ++ itoa record.requiredPassed.toInt⟩] else []) ++
  (if 0 < record.requiredFailed then
    [⟨str "required_failed", -50 * record.requiredFailed,
      str "required_failed=" ++ itoa record.requiredFailed.toInt⟩] else []) ++
  (if bestProfileWeight ≠ 0 then [⟨str "profile_alignment", bestProfileWeight, detail⟩] else []) ++
  (if !host.btfKernelAvailable ∧ containsString record.classificationCode (str "MISSING_BTF") then
    [⟨str "btf_risk", -40, str "host lacks kernel BTF and version history includes MISSING_BTF"⟩]
    else []) ++
  (if ringbufLikelyUnsupported host ∧
      containsString record.classificationCode (str "UNSUPPORTED_MAP_TYPE") then
    [⟨str "ringbuf_risk", -20,
      str "host may not support ringbuf and history includes UNSUPPORTED_MAP_TYPE"⟩] else [])

/-- The score of a record is the sum of the weights of its reasons, in machine arithmetic. -/
def scoreRecord (record : ArtifactVersionRecord) (hostHint targetProfile : Str)
    (host : HostCapabilities) : Int64 × List SelectionReason :=
  let reasons := scoreReasons record hostHint targetProfile host
  (reasons.foldl (fun score reason => score + reason.weight) 0, reasons)

/-! ### Selection -/

/-- What is asked of a selection. -/
structure SelectionRequest where
  artifactName : Str := []
  requestedVersion : Str := []
  targetProfileID : Str := []
  limit : Int := 0
  policy : SelectionPolicy := {}

/-- A record as selection sees it. -/
structure SelectionCandidate where
  artifactVersion : Str
  artifactVariant : Str
  runID : Str
  summaryStatus : Str
  score : Int64
  reasons : List SelectionReason
  policyAccepted : Bool
  policyViolations : List Str
deriving DecidableEq

structure SelectionResult where
  schemaVersion : Str
  artifactName : Str
  requestedVersion : Str
  targetProfileID : Str
  hostProfileHint : Str
  policy : Option SelectionPolicy
  selected : SelectionCandidate
  candidatesReviewed : Nat
  candidatesAccepted : Nat
  candidates : List SelectionCandidate
deriving DecidableEq

def selectionSchemaVersion : Str := str "runtime_selection.v0.1"

/-- The order of the candidates: the best score first, and of those the later run. -/
def betterFirst (c d : SelectionCandidate) : Prop :=
  if c.score = d.score then d.runID ≤ c.runID else d.score ≤ c.score

instance decidableRelBetterFirst : DecidableRel betterFirst :=
  fun c d => inferInstanceAs (Decidable (if c.score = d.score then _ else _))

instance totalBetterFirst : Std.Total betterFirst where
  total c d := by
    by_cases h : c.score = d.score
    · rw [betterFirst, betterFirst, if_pos h, if_pos h.symm]
      apply le_total
    · rw [betterFirst, betterFirst, if_neg h, if_neg (Ne.symm h)]
      exact Int64.le_total _ _

instance isTransBetterFirst : IsTrans SelectionCandidate betterFirst where
  trans c d e hcd hde := by
    rw [betterFirst] at *
    by_cases h : c.score = d.score
    · rw [if_pos h] at hcd
      rw [h]
      by_cases h' : d.score = e.score
      · rw [if_pos h'] at hde ⊢
        exact hde.trans hcd
      · rw [if_neg h'] at hde ⊢
        exact hde
    · rw [if_neg h] at hcd
      have hne : c.score ≠ e.score := by
        intro hce
        apply h
        split_ifs at hde with h'
        · rw [hce, h']
        · exact Int64.le_antisymm (hce ▸ hde) hcd
      rw [if_neg hne]
      split_ifs at hde with h'
      · rw [← h']
        exact hcd
      · exact Int64.le_trans hde hcd

section

variable [CaseTables]

/-- The candidate a record is for a request. -/
def candidateOf (host : HostCapabilities) (req : SelectionRequest)
    (record : ArtifactVersionRecord) : SelectionCandidate :=
  let scored := scoreRecord record (hostProfileHint host) (trimSpace req.targetProfileID) host
  let judged := evaluatePolicy record host (normalizePolicy req.policy)
  { artifactVersion := record.artifactVersion
    artifactVariant := record.artifactVariant
    runID := record.runID
    summaryStatus := record.summaryStatus
    score := scored.1
    reasons := scored.2
    policyAccepted := judged.1
    policyViolations := judged.2 }

@[simp]
theorem artifactVersion_candidateOf (host : HostCapabilities) (req : SelectionRequest)
    (record : ArtifactVersionRecord) :
  (candidateOf host req record).artifactVersion = record.artifactVersion
  := rfl

@[simp]
theorem artifactVariant_candidateOf (host : HostCapabilities) (req : SelectionRequest)
    (record : ArtifactVersionRecord) :
  (candidateOf host req record).artifactVariant = record.artifactVariant
  := rfl

@[simp]
theorem runID_candidateOf (host : HostCapabilities) (req : SelectionRequest)
    (record : ArtifactVersionRecord) :
  (candidateOf host req record).runID = record.runID
  := rfl

/-- The record is one of the artifact and version asked for. -/
def requested (req : SelectionRequest) (record : ArtifactVersionRecord) : Bool :=
  record.artifactName = trimSpace req.artifactName &&
    (req.requestedVersion = [] || record.artifactVersion = req.requestedVersion)

/-- What the policy found against the first of the candidates. -/
def rejectionSamples (artifactName : Str) (scored : List SelectionCandidate) : List Str :=
  ((scored.take 3).filter fun c => c.policyViolations ≠ []).map fun c =>
    artifactName ++ str "@" ++ c.artifactVersion ++ str " rejected: " ++
      join (str "; ") c.policyViolations

def selectBestArtifactVersion (records : List ArtifactVersionRecord) (host : HostCapabilities)
    (req : SelectionRequest) : Except Str SelectionResult :=
  let artifactName := trimSpace req.artifactName
  if artifactName = [] then .error (str "artifact name is required")
  else
    let filtered := records.filter (requested req)
    if filtered = [] then .error (str "no artifact versions found for " ++ quote artifactName)
    else
      let scored := filtered.map (candidateOf host req)
      let accepted := (scored.filter SelectionCandidate.policyAccepted).insertionSort betterFirst
      match accepted with
      | [] =>
        let samples := rejectionSamples artifactName (scored.insertionSort betterFirst)
        if samples = [] then
          .error (str "no candidate accepted by policy for artifact " ++ quote artifactName)
        else
          .error (str "no candidate accepted by policy for artifact " ++ quote artifactName ++
            str " (" ++ join (str " | ") samples ++ str ")")
      | selected :: _ =>
        let limit := if req.limit ≤ 0 ∨ accepted.length < req.limit then accepted.length
          else req.limit.toNat
        let policy := normalizePolicy req.policy
        .ok {
          schemaVersion := selectionSchemaVersion
          artifactName := artifactName
          requestedVersion := req.requestedVersion
          targetProfileID := trimSpace req.targetProfileID
          hostProfileHint := hostProfileHint host
          policy := if policyHasConstraints policy then some policy else none
          selected := selected
          candidatesReviewed := scored.length
          candidatesAccepted := accepted.length
          candidates := accepted.take limit }

/-- The record of a name and version: the first one. -/
def findSelectedRecord (records : List ArtifactVersionRecord) (artifactName artifactVersion : Str) :
    Except Str ArtifactVersionRecord :=
  match records.find? fun r =>
      r.artifactName = artifactName ∧ r.artifactVersion = artifactVersion with
  | some r => .ok r
  | none =>
    .error (str "artifact " ++ artifactName ++ str " version " ++ artifactVersion ++
      str " not found")

omit [CaseTables] in
theorem findSelectedRecord_eq_ok {records : List ArtifactVersionRecord} {name version : Str}
    {record : ArtifactVersionRecord} (h : findSelectedRecord records name version = .ok record) :
  records.find? (fun r => r.artifactName = name ∧ r.artifactVersion = version) = some record
  := by
  rw [findSelectedRecord] at h
  split at h
  · rename_i r hr
    rw [Except.ok.injEq] at h
    rw [hr, h]
  · cases h

/-- No record in a part of the history has the name and version of a record. -/
def Unshadowed (before : List ArtifactVersionRecord) (best : ArtifactVersionRecord) : Prop :=
  ∀ r ∈ before, r.artifactName = best.artifactName → r.artifactVersion ≠ best.artifactVersion

omit [CaseTables] in
/-- A record is found by its name and version precisely when no earlier one has them. -/
theorem findSelectedRecord_eq_iff {before after : List ArtifactVersionRecord}
    {best record : ArtifactVersionRecord} (hbest : best ∉ before)
    (h : findSelectedRecord (before ++ best :: after) best.artifactName best.artifactVersion
      = .ok record) :
  record = best ↔ Unshadowed before best
  := by
  have hfind := findSelectedRecord_eq_ok h
  rw [List.find?_append] at hfind
  cases hbefore : before.find? fun r => r.artifactName = best.artifactName ∧
      r.artifactVersion = best.artifactVersion with
  | some r =>
      rw [hbefore, Option.some_or, Option.some.injEq] at hfind
      subst hfind
      have hmem := List.mem_of_find?_eq_some hbefore
      have hkey := List.find?_some hbefore
      rw [decide_eq_true_eq] at hkey
      constructor
      · rintro rfl
        exact absurd hmem hbest
      · intro hclear
        exact absurd hkey.2 (hclear r hmem hkey.1)
  | none =>
      rw [hbefore, Option.none_or, List.find?_cons_of_pos (by simp), Option.some.injEq] at hfind
      rw [List.find?_eq_none] at hbefore
      apply iff_of_true hfind.symm
      intro r hr hname hversion
      apply hbefore r hr
      simp [hname, hversion]

/-! ### The selected record -/

/-- The policy of a request accepts a record. -/
def Accepts (host : HostCapabilities) (policy : SelectionPolicy) (record : ArtifactVersionRecord) :
    Prop :=
  (evaluatePolicy record host (normalizePolicy policy)).1 = true

instance decidableAccepts (host : HostCapabilities) (policy : SelectionPolicy)
    (record : ArtifactVersionRecord) : Decidable (Accepts host policy record) :=
  inferInstanceAs (Decidable (_ = true))

/-- The record may be selected for a request. -/
def Eligible (host : HostCapabilities) (req : SelectionRequest) (record : ArtifactVersionRecord) :
    Prop :=
  requested req record = true ∧ Accepts host req.policy record

/-- One record scores at least as high as another for a request, and its run is not the earlier
one where they score alike. -/
def Outranks (host : HostCapabilities) (req : SelectionRequest)
    (record record' : ArtifactVersionRecord) : Prop :=
  betterFirst (candidateOf host req record) (candidateOf host req record')

instance reflOutranks (host : HostCapabilities) (req : SelectionRequest) :
    Std.Refl (Outranks host req) where
  refl _ := (totalBetterFirst.total _ _).elim id id

/-- The record of a history that is scored best among those the policy accepts. -/
def ScoredBest (host : HostCapabilities) (req : SelectionRequest) :
    List ArtifactVersionRecord → ArtifactVersionRecord → List ArtifactVersionRecord → Prop :=
  Leader (Eligible host req) (Outranks host req)

theorem accepted_eq (host : HostCapabilities) (req : SelectionRequest)
    (records : List ArtifactVersionRecord) :
  ((records.filter (requested req)).map (candidateOf host req)).filter
      SelectionCandidate.policyAccepted
    = (records.filter fun r => requested req r && decide (Accepts host req.policy r)).map
        (candidateOf host req)
  := by
  have haccepted : ∀ r, (candidateOf host req r).policyAccepted
      = decide (Accepts host req.policy r) := by
    intro r
    exact Bool.decide_eq_true.symm
  rw [List.filter_map, List.filter_filter]
  congr 1
  apply List.filter_congr
  intro r _
  rw [Function.comp_apply, haccepted, Bool.and_comm]

/-- What selection selects is the candidate of the best record. -/
theorem leader_of_selectBestArtifactVersion {records : List ArtifactVersionRecord}
    {host : HostCapabilities} {req : SelectionRequest} {result : SelectionResult}
    (h : selectBestArtifactVersion records host req = .ok result) :
  result.artifactName = trimSpace req.artifactName ∧
    ∃ before best after, records = before ++ best :: after ∧
      result.selected = candidateOf host req best ∧ ScoredBest host req before best after
  := by
  simp only [selectBestArtifactVersion, refuse_if_eq_ok_iff] at h
  obtain ⟨-, -, h⟩ := h
  cases hsort : (((records.filter (requested req)).map (candidateOf host req)).filter
      SelectionCandidate.policyAccepted).insertionSort betterFirst with
  | nil =>
      simp only [hsort] at h
      split_ifs at h
  | cons selected rest =>
      simp only [hsort, Except.ok.injEq] at h
      subst h
      refine ⟨rfl, ?_⟩
      rw [accepted_eq] at hsort
      obtain ⟨before, best, after, hrecords, hselected, hlead⟩ :=
        exists_leader_of_head?_map (by rw [hsort, List.head?_cons])
      use before, best, after, hrecords, hselected
      have hiff : ∀ r, (requested req r && decide (Accepts host req.policy r)) = true ↔
          Eligible host req r := by
        intro r
        rw [Bool.and_eq_true, decide_eq_true_eq, Eligible]
      constructor
      · exact (hiff best).mp hlead.holds
      · intro b hb he
        exact hlead.before_lt b hb ((hiff b).mpr he)
      · intro b hb he
        exact hlead.le_after b hb ((hiff b).mpr he)

end

end Runtime
