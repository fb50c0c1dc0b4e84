import BpfCompat.RegressionDiff.Written
import BpfCompat.Runner.Report

/-!
# Producer and verifier agree

Every report the runner assembles is one the release comparison can rely on.  The two halves
meet at `ReportValid`: the runner's report has that property by construction, and it
survives the way through a document.
-/

namespace Runner

open Go Go.Json Schema Matrices RegressionDiff

section

variable [UnicodeTables]

/-! ### Every target agrees with itself -/

omit [UnicodeTables] in
theorem trimSpace_verdict {v : Str} (hv : KnownVerdict v) :
  trimSpace v = v
  := by
  have h : ∀ v ∈ [verdictCompatible, verdictIncompatible, verdictInfraError, verdictUnsupported],
      trimSpace v = v := by decide
  exact h v hv

omit [UnicodeTables] in
/-- A status and the verdict it stands for agree. -/
theorem agree_verdictForStatus {status : Str} (h : trimSpace status = status) :
  Agree status (verdictForStatus status)
  := by
  right
  right
  rw [h, trimSpace_verdict (knownVerdict_verdictForStatus status)]

theorem environmentConsistent_of_recordedFrom {profile : Vm.Profile}
    {observedKernel osID osVersionID : Str} {env : EnvironmentCheck}
    (h : RecordedFrom profile observedKernel osID osVersionID env) :
  EnvironmentConsistent env
  := by
  constructor
  · intro m hm
    rw [← h.kernelFamilyMatch, hm]
  · exact h.distroMatch

theorem runTarget_consistent (world : World) (cfg : Config) (staged : Staged)
    (matrixProfile : MatrixProfile) :
  TargetConsistent (runTarget world cfg staged matrixProfile)
  := by
  constructor
  · have h : ∀ status ∈ finalStatuses, trimSpace status = status := by decide
    exact agree_verdictForStatus (h _ (status_runTarget world cfg staged matrixProfile))
  · intro env henv
    obtain ⟨profile, observedKernel, osID, osVersionID, -, hrecorded⟩ :=
      (runTarget_records world cfg staged matrixProfile).environment env henv
    exact environmentConsistent_of_recordedFrom hrecorded

/-! ### The report is valid -/

omit [UnicodeTables] in
/-- The identifiers a matrix may name are ASCII. -/
theorem ascii_of_matchesProfileIDPattern {s : Str} (h : matchesProfileIDPattern s = true) :
  ∀ b ∈ s, b < 128
  := by
  have hbyte : ∀ b, (isAlphanumeric b || b == 46 || b == 95 || b == 45) = true → b < 128 := by
    intro b hb
    simp only [isAlphanumeric, Bool.or_eq_true, Bool.and_eq_true, decide_eq_true_eq,
      beq_iff_eq, UInt8.le_iff_toNat_le, ← UInt8.toNat_inj] at hb
    rw [UInt8.lt_iff_toNat_lt]
    simp only [UInt8.reduceToNat] at hb ⊢
    omega
  cases s with
  | nil => simp
  | cons b rest =>
      simp only [matchesProfileIDPattern, Bool.and_eq_true, List.all_eq_true] at h
      rw [List.forall_mem_cons]
      constructor
      · apply hbyte
        simp [h.1.1]
      · intro c hc
        exact hbyte c (h.2 c hc)

variable (worlds : MatrixProfile → World) (arrival : RangeOrder (MatrixProfile × Nat))
  (abs : Str → Except Str Str) (cfg : Config) (prepared : Prepared)

/-- The targets of a run stand for the profiles of its matrix, in their order. -/
theorem targets_executeBootstrap :
  (executeBootstrap worlds arrival abs cfg prepared).report.targets
    = prepared.m.profiles.map fun p => runTarget (worlds p) cfg prepared.staged p
  := by
  simp only [executeBootstrap, executeTargets_eq]

theorem summary_executeBootstrap :
  let r := (executeBootstrap worlds arrival abs cfg prepared).report
  r.summary.status = runStatus (runVerdict r.targets) ∧
    r.summary.verdict = runVerdict r.targets ∧ r.summary.complete = some (runComplete r.targets)
  := ⟨rfl, rfl, rfl⟩

omit [UnicodeTables] in
/-- The status of a run stands for its verdict. -/
theorem verdictForStatus_runStatus (targets : List Target) :
  verdictForStatus (runStatus (runVerdict targets)) = runVerdict targets
  := by
  have h : ∀ v ∈ [verdictIncompatible, verdictInfraError, verdictCompatible],
      verdictForStatus (runStatus v) = v := by decide
  apply h
  rw [runVerdict_eq]
  split_ifs <;> simp

omit [UnicodeTables] in
theorem trimSpace_runStatus (verdict : Str) :
  trimSpace (runStatus verdict) = runStatus verdict
  := by
  rw [runStatus]
  split_ifs <;> decide

/-- The key of a target is the identifier of its profile. -/
theorem targetID_runTarget (world : World) (staged : Staged) (p : MatrixProfile) :
  targetID (runTarget world cfg staged p) = trimSpace p.id
  := by
  rw [targetID, (runTarget_records world cfg staged p).profileID]

/-- A run over a valid matrix gives a valid report. -/
theorem reportValid_executeBootstrap (hm : MatrixValid prepared.m) :
  ReportValid (executeBootstrap worlds arrival abs cfg prepared).report
  := by
  have htargets := targets_executeBootstrap worlds arrival abs cfg prepared
  obtain ⟨hstatus, hverdict, hcomplete⟩ :=
    summary_executeBootstrap worlds arrival abs cfg prepared
  have hids : (prepared.m.profiles.map fun p =>
      runTarget (worlds p) cfg prepared.staged p).map targetID
      = prepared.m.profiles.map fun p => trimSpace p.id := by
    rw [List.map_map]
    apply List.map_congr_left
    intro p _
    exact targetID_runTarget cfg (worlds p) prepared.staged p
  constructor
  · rw [htargets]
    constructor
    · intro t ht
      obtain ⟨p, hp, rfl⟩ := List.mem_map.mp ht
      rw [targetID_runTarget]
      exact hm.trimSpace_ne_nil hp
    · rw [hids]
      exact hm.distinct
    · intro t ht
      obtain ⟨p, hp, rfl⟩ := List.mem_map.mp ht
      apply runTarget_consistent
  · rw [htargets, ne_eq, List.map_eq_nil_iff]
    exact hm.nonempty
  · constructor
    · rw [hstatus, hverdict]
      have hagree := agree_verdictForStatus (trimSpace_runStatus
        (runVerdict (executeBootstrap worlds arrival abs cfg prepared).report.targets))
      rwa [verdictForStatus_runStatus] at hagree
    · right
      rw [hverdict, trimSpace_verdict (knownVerdict_runVerdict _)]
    · intro complete hc
      rw [hcomplete] at hc
      exact (Option.some.inj hc).symm

/-! ### The verifier accepts it -/

/-- Nothing a report records is contradicted by what the verifier recomputes from it. -/
structure Recomputed (r : ReportV01) : Prop where
  verdict : ∀ t ∈ r.targets, t.verdict = verdictForStatus t.status
  kernelFamilyMatch : ∀ t ∈ r.targets, ∀ env, t.environment = some env →
    env.kernelFamilyMatch = Schema.kernelFamilyMatch env.requestedKernelFamily env.observedKernel
  distroMatch : ∀ t ∈ r.targets, ∀ env, t.environment = some env →
    env.distroMatch = Schema.distroMatch env.requestedDistro env.requestedDistroVersion
      env.observedOSID env.observedOSVersionID
  summaryStatus : verdictForStatus r.summary.status = r.summary.verdict
  summaryVerdict : r.summary.verdict = runVerdict r.targets
  complete : r.summary.complete = some (runComplete r.targets)

/-- What is recorded as recomputed stays so on the way through a document. -/
theorem Recomputed.canon {r : ReportV01} (h : Recomputed r) :
  Recomputed (reportJSON.canon r)
  := by
  have henvironment : ∀ t ∈ (reportJSON.canon r).targets, ∀ env, t.environment = some env →
      ∃ t' ∈ r.targets, ∃ env', t'.environment = some env' ∧
        env = environmentCheckJSON.canon env' := by
    intro t ht env henv
    rw [targets_canon] at ht
    obtain ⟨t', ht', rfl⟩ := List.mem_map.mp ht
    obtain ⟨env', henv', rfl⟩ := Option.map_eq_some_iff.mp henv
    exact ⟨t', ht', env', henv', rfl⟩
  constructor
  · intro t ht
    rw [targets_canon] at ht
    obtain ⟨t', ht', rfl⟩ := List.mem_map.mp ht
    have hstatus : (targetJSON.canon t').status = toValidUTF8 t'.status := rfl
    rw [hstatus, verdictForStatus_toValidUTF8, verdict_canon _ (knownVerdict_verdictForStatus _)]
    exact h.verdict t' ht'
  · intro t ht env henv
    obtain ⟨t', ht', env', henv', rfl⟩ := henvironment t ht env henv
    rw [canon_environmentCheckJSON, kernelFamilyMatch_toValidUTF8]
    exact h.kernelFamilyMatch t' ht' env' henv'
  · intro t ht env henv
    obtain ⟨t', ht', env', henv', rfl⟩ := henvironment t ht env henv
    rw [canon_environmentCheckJSON, distroMatch_toValidUTF8]
    exact h.distroMatch t' ht' env' henv'
  · have hverdict : toValidUTF8 r.summary.verdict = r.summary.verdict := by
      rw [toValidUTF8_eq_verdict]
      rw [h.summaryVerdict]
      apply knownVerdict_runVerdict
    calc
      verdictForStatus (toValidUTF8 r.summary.status)
      _ = verdictForStatus r.summary.status := verdictForStatus_toValidUTF8 _
      _ = r.summary.verdict := h.summaryStatus
      _ = toValidUTF8 r.summary.verdict := hverdict.symm
  · rw [targets_canon, runVerdict_canon]
    exact (toValidUTF8_eq_verdict (knownVerdict_runVerdict _)).mpr h.summaryVerdict
  · rw [targets_canon, runComplete_canon, ← h.complete]
    exact canon_pointer_bool r.summary.complete

theorem recomputed_executeBootstrap :
  Recomputed (executeBootstrap worlds arrival abs cfg prepared).report
  := by
  have htargets := targets_executeBootstrap worlds arrival abs cfg prepared
  obtain ⟨hstatus, hverdict, hcomplete⟩ :=
    summary_executeBootstrap worlds arrival abs cfg prepared
  have henvironment : ∀ t ∈ (executeBootstrap worlds arrival abs cfg prepared).report.targets,
      ∀ env, t.environment = some env →
        ∃ profile observedKernel osID osVersionID,
          RecordedFrom profile observedKernel osID osVersionID env := by
    intro t ht env henv
    rw [htargets] at ht
    obtain ⟨p, -, rfl⟩ := List.mem_map.mp ht
    obtain ⟨profile, observedKernel, osID, osVersionID, -, hrecorded⟩ :=
      (runTarget_records (worlds p) cfg prepared.staged p).environment env henv
    exact ⟨profile, observedKernel, osID, osVersionID, hrecorded⟩
  constructor
  · rw [htargets]
    intro t ht
    obtain ⟨p, -, rfl⟩ := List.mem_map.mp ht
    rfl
  · intro t ht env henv
    obtain ⟨_, _, _, _, hrecorded⟩ := henvironment t ht env henv
    exact hrecorded.kernelFamilyMatch
  · intro t ht env henv
    obtain ⟨_, _, _, _, hrecorded⟩ := henvironment t ht env henv
    exact hrecorded.distroMatch
  · rw [hstatus, hverdict]
    apply verdictForStatus_runStatus
  · exact hverdict
  · exact hcomplete

/-- Whatever the matrix, the mode and the outcomes of the executors, and in whatever order
they arrive: the report of the run, read back from its document, passes the checks of the
release comparison, and nothing it records is contradicted by what is recomputed there. -/
theorem executeBootstrap_accepted (hm : Matrices.validate prepared.m = .ok ()) (path side : Str) :
  let blob := writeJSON (executeBootstrap worlds arrival abs cfg prepared).report
  ∃ r, (parseDocument (lexemes blob)).bind reportJSON.decode = some r ∧
    RegressionDiff.validate r side = .ok () ∧
    validatePresence
      { report := r
        path := path
        side := side
        requiredPresent := (rawPresence blob r.targets.length).1
        commandExitCodePresent := (rawPresence blob r.targets.length).2 } = .ok () ∧
    Recomputed r
  := by
  rw [Matrices.validate_eq_ok_iff] at hm
  have hids : ∀ t ∈ (executeBootstrap worlds arrival abs cfg prepared).report.targets,
      ∀ b ∈ targetID t, b < 128 := by
    intro t ht
    rw [targets_executeBootstrap] at ht
    obtain ⟨p, hp, rfl⟩ := List.mem_map.mp ht
    rw [targetID_runTarget]
    exact ascii_of_matchesProfileIDPattern (hm.identified p hp)
  obtain ⟨hdecode, hvalidate, hpresence⟩ :=
    (reportValid_executeBootstrap worlds arrival abs cfg prepared hm).accepted_writeJSON hids
      path side
  exact ⟨_, hdecode, hvalidate, hpresence,
    (recomputed_executeBootstrap worlds arrival abs cfg prepared).canon⟩

end

section

attribute [local instance] asciiTables

/-- Every profile asks for Ubuntu on one kernel series, and that is what runs; the command
exits with 1. -/
def sampleWorld : World where
  profilePath := .ok
  loadProfile _ := .ok
    { distro := str "ubuntu", version := str "22.04", kernelFamily := str "5.15" }
  abs := .ok
  execute _ _ :=
    { status := str "fail"
      commandExitCode := 1
      hostRelease := str "5.15.0-186-generic"
      guestOSID := str "ubuntu"
      guestOSVersionID := str "22.04" }
  files path := .error (path ++ str ": no such file or directory")
  explain _ := []
  classify _ := ⟨[], [], [], []⟩

/-- The run of a command over the quick matrix is accepted. -/
theorem executeBootstrap_accepted_quick :
  Matrices.validate quick = .ok () ∧
    ∃ r, (parseDocument (lexemes (writeJSON (executeBootstrap (fun _ => sampleWorld) .stored .ok
        { command := str "./load" } { m := quick }).report))).bind reportJSON.decode = some r ∧
      RegressionDiff.validate r (str "candidate") = .ok () ∧ Recomputed r
  := by
  have hquick : Matrices.validate quick = .ok () :=
    Matrices.validate_eq_ok_iff.mpr matrixValid_quick
  obtain ⟨r, hr, hvalid, -, hrecomputed⟩ := executeBootstrap_accepted (fun _ => sampleWorld)
    .stored .ok { command := str "./load" } { m := quick } hquick [] (str "candidate")
  exact ⟨hquick, r, hr, hvalid, hrecomputed⟩

end

end Runner
