import BpfCompat.RegressionDiff.Classify

/-!
# The comparison of two reports

`build` refuses evidence it cannot rely on, compares the two reports obligation by
obligation in the order of their keys, counts the classifications and decides the result.
`build_eq_ok_iff` separates the refusals from the comparison: where nothing is refused the
diff is `diffOf`, and the cells of `diffOf` are given by `cells_eq`, which mentions neither
the order of the targets nor the order in which the maps were ranged over.
-/

namespace RegressionDiff

open Go Schema

/-- Which loader contract produced a report. -/
inductive LoaderMode where
  | command
  | artifact
deriving DecidableEq

/-- The name of a loader contract. -/
def LoaderMode.text : LoaderMode → Str
  | .command => str "command"
  | .artifact => str "artifact"

/-- How a diff refers to one of its reports. -/
structure ReportRef where
  path : Str := []
  runID : Str := []
  schemaVersion : Str := []
  verdict : Str := []
  complete : Option Bool := none
  artifactSHA256 : Str := []
  artifactSource : Str := []
  artifactDigest : Str := []
  loaderMode : LoaderMode := .artifact
  loaderSHA256 : Str := []
deriving DecidableEq

/-- The overall result of a comparison. -/
inductive Result where
  | noRegressions
  | regressed
  | inconclusive
deriving DecidableEq

/-- The counters of a comparison. -/
structure Summary where
  totalCells : Nat := 0
  newRequiredRegressions : Nat := 0
  newOptionalRegressions : Nat := 0
  existingIncompatibility : Nat := 0
  fixed : Nat := 0
  unchangedCompatible : Nat := 0
  inconclusiveRequired : Nat := 0
  inconclusiveOptional : Nat := 0
  coverageAddedCount : Nat := 0
  coverageRemovedRequired : Nat := 0
  coverageRemovedOptional : Nat := 0
  baselineComplete : Option Bool := none
  candidateComplete : Option Bool := none
  result : Result := .noRegressions
deriving DecidableEq

/-- The comparison of two reports. -/
structure Diff where
  schemaVersion : Str
  generatedAt : Str
  baseline : ReportRef
  candidate : ReportRef
  summary : Summary
  cells : List Cell
  notes : List Str
deriving DecidableEq

/-! ### What both runs share -/

/-- The loader contract of a report. -/
def loaderMode (r : ReportV01) : LoaderMode :=
  if r.command.isSome then .command else .artifact

/-- The loader a report identifies. -/
def loaderSHA256 (r : ReportV01) : Str :=
  match r.command.bind CommandInfo.binary, r.validator with
  | some binary, _ => binary.sha256
  | none, some validator => validator.sha256
  | none, none => []

/-- The reference to a report. -/
def refOf (r : ReportV01) (path : Str) : ReportRef where
  path := path
  runID := r.run.id
  schemaVersion := r.schemaVersion
  verdict := r.summary.verdict
  complete := r.summary.complete
  artifactSHA256 := r.artifact.sha256
  artifactSource := r.artifact.source
  artifactDigest := r.artifact.sourceDigest
  loaderMode := loaderMode r
  loaderSHA256 := loaderSHA256 r

/-- A blank text is shown as a dash. -/
def emptyAsDash (v : Str) : Str := if trimSpace v = [] then str "-" else v

/-- A digest, shortened for a note. -/
def shortSHA (v : Str) : Str := if 12 < v.length then v.take 12 else emptyAsDash v

/-- A note on a change of the generic validator, which decides nothing. -/
def validatorIdentityChanged (baseline candidate : ReportRef) : Option Str :=
  if baseline.loaderMode ≠ .artifact ∨ candidate.loaderMode ≠ .artifact then none
  else if baseline.loaderSHA256 = [] ∨ candidate.loaderSHA256 = [] ∨
      baseline.loaderSHA256 = candidate.loaderSHA256 then none
  else some (str "the bpfcompat validator build differs between reports (" ++
    shortSHA baseline.loaderSHA256 ++ str " -> " ++ shortSHA candidate.loaderSHA256 ++
    str "); this is expected across bpfcompat upgrades and does not by itself make the comparison invalid, but it is the first thing to check if a result is surprising")

/-- A change of the command that was run. -/
def invocationChanged (b c : CommandInfo) : Option Str :=
  recordedChange b.invocationSHA256 c.invocationSHA256
    (fun _ _ => str "the command under test cannot be shown to be the same: only one report records an invocation_sha256, so it is not established that both runs executed the same test")
    (fun _ _ => str "the command under test changed between reports (different invocation_sha256); every cell is inconclusive because the two runs answer different questions")

/-- A change of the exit code that counts as success. -/
def exitCodeChanged (baseline candidate : Evidence) (b c : CommandInfo) : Option Str :=
  if !baseline.commandExitCodePresent && !candidate.commandExitCodePresent then none
  else if baseline.commandExitCodePresent ≠ candidate.commandExitCodePresent then
    some (str "the command success contract cannot be shown to be the same: only one report records an expected_exit_code")
  else if b.expectedExitCode ≠ c.expectedExitCode then
    some (str "the command success contract changed between reports (expected exit code " ++
      itoa b.expectedExitCode.toInt ++ str " at baseline, " ++ itoa c.expectedExitCode.toInt ++
      str " in the candidate); every cell is inconclusive")
  else none

/-- A change of the test two command-mode runs executed. -/
def commandContractChanged (baseline candidate : Evidence) : Option Str :=
  match baseline.report.command, candidate.report.command with
  | some b, some c => (invocationChanged b c).or (exitCodeChanged baseline candidate b c)
  | _, _ => none

/-- Why no cell can be compared; empty when the two runs share their contract. -/
def incomparable (baseline candidate : Evidence) : Str :=
  let b := loaderMode baseline.report
  let c := loaderMode candidate.report
  if b ≠ c then
    str "the loader contract differs between the two reports (baseline=" ++ b.text ++
      str ", candidate=" ++ c.text ++ str ")"
  else (commandContractChanged baseline candidate).getD []

/-- The notes of a diff. -/
def notesOf (baseline candidate : Evidence) : List Str :=
  let b := loaderMode baseline.report
  let c := loaderMode candidate.report
  (if b ≠ c then
    [str "loader contract changed between reports (baseline=" ++ b.text ++ str " candidate=" ++
      c.text ++ str "); every cell is inconclusive because the comparison would not be like-for-like"]
  else []) ++ (commandContractChanged baseline candidate).toList ++
    (validatorIdentityChanged (refOf baseline.report baseline.path)
      (refOf candidate.report candidate.path)).toList

/-- The command contract of a report, as far as it says: the invocation, and the expected
exit code when the document carried one. -/
def commandContract (e : Evidence) : Option (Str × Option Int64) :=
  e.report.command.map fun c =>
    (trimSpace c.invocationSHA256,
      if e.commandExitCodePresent then some c.expectedExitCode else none)

theorem exitCodeChanged_eq_none_iff {baseline candidate : Evidence} {b c : CommandInfo} :
  exitCodeChanged baseline candidate b c = none ↔
    (if baseline.commandExitCodePresent then some b.expectedExitCode else none)
      = if candidate.commandExitCodePresent then some c.expectedExitCode else none
  := by
  rw [exitCodeChanged]
  cases baseline.commandExitCodePresent <;> cases candidate.commandExitCodePresent <;> simp

theorem commandContractChanged_ne_nil {baseline candidate : Evidence} {note : Str}
    (h : commandContractChanged baseline candidate = some note) :
  note ≠ []
  := by
  rw [commandContractChanged] at h
  cases hb : baseline.report.command with
  | none => simp [hb] at h
  | some b =>
      cases hc : candidate.report.command with
      | none => simp [hb, hc] at h
      | some c =>
          rw [hb, hc] at h
          simp only [Option.or_eq_some_iff] at h
          obtain h | ⟨-, h⟩ := h
          · rw [invocationChanged, recordedChange] at h
            split_ifs at h
            · obtain rfl := Option.some.inj h
              exact str_ne_nil (by simp)
            · obtain rfl := Option.some.inj h
              exact str_ne_nil (by simp)
          · rw [exitCodeChanged] at h
            split_ifs at h
            · obtain rfl := Option.some.inj h
              exact str_ne_nil (by simp)
            · obtain rfl := Option.some.inj h
              apply List.append_ne_nil_of_right_ne_nil
              exact str_ne_nil (by simp)

theorem commandContractChanged_eq_none_iff {baseline candidate : Evidence}
    (h : loaderMode baseline.report = loaderMode candidate.report) :
  commandContractChanged baseline candidate = none ↔
    commandContract baseline = commandContract candidate
  := by
  rw [commandContractChanged, commandContract, commandContract]
  cases hb : baseline.report.command with
  | none =>
      cases hc : candidate.report.command with
      | none => simp
      | some c => simp [loaderMode, hb, hc] at h
  | some b =>
      cases hc : candidate.report.command with
      | none => simp [loaderMode, hb, hc] at h
      | some c =>
          simp only [Option.map_some, Option.some.injEq, Prod.mk.injEq, Option.or_eq_none_iff,
            invocationChanged, recordedChange_eq_none_iff, exitCodeChanged_eq_none_iff]

/-- The cells can be compared when the two runs share their contract. -/
theorem incomparable_eq_nil_iff {baseline candidate : Evidence} :
  incomparable baseline candidate = [] ↔
    loaderMode baseline.report = loaderMode candidate.report ∧
      commandContract baseline = commandContract candidate
  := by
  rw [incomparable]
  by_cases h : loaderMode baseline.report = loaderMode candidate.report
  · rw [if_neg (not_not.mpr h), ← commandContractChanged_eq_none_iff h]
    cases hc : commandContractChanged baseline candidate with
    | none => simp [h]
    | some note => simp [commandContractChanged_ne_nil hc]
  · rw [if_pos h]
    constructor
    · intro hnil
      simp only [List.append_eq_nil_iff] at hnil
      exact absurd hnil.2 (str_ne_nil (by simp))
    · rintro ⟨hl, -⟩
      exact absurd hl h

/-! ### Counting -/

/-- The summary after one more cell. -/
def Summary.count (s : Summary) (c : Cell) : Summary :=
  match c.classification with
  | .unchangedCompatible => { s with unchangedCompatible := s.unchangedCompatible + 1 }
  | .newRegression =>
    if c.required then { s with newRequiredRegressions := s.newRequiredRegressions + 1 }
    else { s with newOptionalRegressions := s.newOptionalRegressions + 1 }
  | .existingIncompatibility =>
    { s with existingIncompatibility := s.existingIncompatibility + 1 }
  | .fixed => { s with fixed := s.fixed + 1 }
  | .inconclusive =>
    if c.required then { s with inconclusiveRequired := s.inconclusiveRequired + 1 }
    else { s with inconclusiveOptional := s.inconclusiveOptional + 1 }
  | .coverageAdded => { s with coverageAddedCount := s.coverageAddedCount + 1 }
  | .coverageRemoved =>
    if c.required then { s with coverageRemovedRequired := s.coverageRemovedRequired + 1 }
    else { s with coverageRemovedOptional := s.coverageRemovedOptional + 1 }

/-- The counters of the cells. -/
def summarize (cells : List Cell) : Summary :=
  cells.foldl Summary.count { totalCells := cells.length }

/-- A proven regression outranks an inability to compare somewhere else. -/
def overallResult (s : Summary) : Result :=
  if 0 < s.newRequiredRegressions then .regressed
  else if 0 < s.inconclusiveRequired ∨ 0 < s.coverageRemovedRequired then .inconclusive
  else .noRegressions

/-- The counters of a summary. -/
inductive Counter where
  | newRequiredRegressions
  | newOptionalRegressions
  | existingIncompatibility
  | fixed
  | unchangedCompatible
  | inconclusiveRequired
  | inconclusiveOptional
  | coverageAddedCount
  | coverageRemovedRequired
  | coverageRemovedOptional
deriving DecidableEq

/-- All counters. -/
def Counter.all : List Counter :=
  [.newRequiredRegressions, .newOptionalRegressions, .existingIncompatibility, .fixed,
    .unchangedCompatible, .inconclusiveRequired, .inconclusiveOptional, .coverageAddedCount,
    .coverageRemovedRequired, .coverageRemovedOptional]

/-- The value of a counter. -/
def Summary.get (s : Summary) : Counter → Nat
  | .newRequiredRegressions => s.newRequiredRegressions
  | .newOptionalRegressions => s.newOptionalRegressions
  | .existingIncompatibility => s.existingIncompatibility
  | .fixed => s.fixed
  | .unchangedCompatible => s.unchangedCompatible
  | .inconclusiveRequired => s.inconclusiveRequired
  | .inconclusiveOptional => s.inconclusiveOptional
  | .coverageAddedCount => s.coverageAddedCount
  | .coverageRemovedRequired => s.coverageRemovedRequired
  | .coverageRemovedOptional => s.coverageRemovedOptional

/-- The counter that counts a cell. -/
def counterOf (c : Cell) : Counter :=
  match c.classification with
  | .unchangedCompatible => .unchangedCompatible
  | .newRegression => if c.required then .newRequiredRegressions else .newOptionalRegressions
  | .existingIncompatibility => .existingIncompatibility
  | .fixed => .fixed
  | .inconclusive => if c.required then .inconclusiveRequired else .inconclusiveOptional
  | .coverageAdded => .coverageAddedCount
  | .coverageRemoved => if c.required then .coverageRemovedRequired else .coverageRemovedOptional

/-- Counting a cell moves its own counter and no other. -/
theorem get_count (s : Summary) (c : Cell) (k : Counter) :
  (s.count c).get k = s.get k + if counterOf c = k then 1 else 0
  := by
  rw [Summary.count, counterOf]
  cases c.classification <;> cases c.required <;> cases k <;> rfl

theorem get_foldl_count (cells : List Cell) (s : Summary) (k : Counter) :
  (cells.foldl Summary.count s).get k = s.get k + cells.countP (counterOf · = k)
  := by
  induction cells generalizing s with
  | nil => rfl
  | cons c cells ih =>
      rw [List.foldl_cons, ih, get_count, List.countP_cons]
      simp only [decide_eq_true_eq]
      omega

/-- A counter holds the number of cells it counts. -/
theorem get_summarize (cells : List Cell) (k : Counter) :
  (summarize cells).get k = cells.countP (counterOf · = k)
  := by
  rw [summarize, get_foldl_count]
  cases k <;> simp [Summary.get]

theorem totalCells_count (s : Summary) (c : Cell) :
  (s.count c).totalCells = s.totalCells
  := by
  rw [Summary.count]
  cases c.classification <;> cases c.required <;> rfl

theorem totalCells_summarize (cells : List Cell) :
  (summarize cells).totalCells = cells.length
  := by
  have h : ∀ s : Summary, (cells.foldl Summary.count s).totalCells = s.totalCells := by
    induction cells with
    | nil =>
        intro s
        rfl
    | cons c cells ih =>
        intro s
        rw [List.foldl_cons, ih, totalCells_count]
  rw [summarize, h]

/-- A counter is positive when some cell is counted by it. -/
theorem get_summarize_pos_iff {cells : List Cell} {k : Counter} :
  0 < (summarize cells).get k ↔ ∃ c ∈ cells, counterOf c = k
  := by
  rw [get_summarize, List.countP_pos_iff]
  simp

/-- The counters add up to the number of cells. -/
theorem sum_get_summarize (cells : List Cell) :
  (Counter.all.map (summarize cells).get).sum = cells.length
  := by
  have h : (summarize cells).get = fun k => cells.countP (counterOf · = k) := by
    funext k
    apply get_summarize
  rw [h]
  clear h
  induction cells with
  | nil => rfl
  | cons c cells ih =>
      have hone : (Counter.all.map fun k => if counterOf c = k then 1 else 0).sum = 1 := by
        cases counterOf c <;> rfl
      simp only [List.countP_cons, decide_eq_true_eq]
      rw [List.sum_map_add, ih, hone, List.length_cons]

/-! ### The diff -/

/-- The targets of a report by key. -/
def indexTargets (targets : List Target) : Map Str Target := indexBy targetID targets

/-- The keys of both reports, as the two loops collect them. -/
def idsOf (ob oc : RangeOrder Str) (baseByID candByID : Map Str Target) : List Str :=
  sortKeys (collect (collect [] (ob.order baseByID.keys)) (oc.order candByID.keys))

section

variable [UnicodeTables] (ob oc : RangeOrder Str)

/-- The cells of the comparison. -/
def cellsOf (baseline candidate : Evidence) : List Cell :=
  let baseByID := indexTargets baseline.report.targets
  let candByID := indexTargets candidate.report.targets
  (idsOf ob oc baseByID candByID).map fun id =>
    classify id (baseByID.lookup id) (candByID.lookup id) (incomparable baseline candidate)

/-- The diff of two reports that can be compared. -/
def diffOf (baseline candidate : Evidence) (generatedAt : Str) : Diff :=
  let cells := cellsOf ob oc baseline candidate
  let summary := summarize cells
  { schemaVersion := str "bpfcompat.regression-diff.v0.1"
    generatedAt := generatedAt
    baseline := refOf baseline.report baseline.path
    candidate := refOf candidate.report candidate.path
    summary :=
      { summary with
        baselineComplete := baseline.report.summary.complete
        candidateComplete := candidate.report.summary.complete
        result := overallResult summary }
    cells := cells
    notes := notesOf baseline candidate }

/-- The comparison of two reports, whatever order the maps are ranged over in. -/
def build (baseline candidate : Evidence) (generatedAt : Str) : Except CompareError Diff := do
  checkSchemas baseline.report candidate.report
  validate baseline.report (str "baseline")
  validate candidate.report (str "candidate")
  validatePresence baseline
  validatePresence candidate
  checkDistinctRuns baseline candidate
  return diffOf ob oc baseline candidate generatedAt

/-- The exit code of a diff. -/
def exitCode (d : Diff) : Nat :=
  match d.summary.result with
  | .regressed => 2
  | .inconclusive => 1
  | .noRegressions => 0

/-- The exit code of the comparison; a refusal is an inability to compare. -/
def exitOf : Except CompareError Diff → Nat
  | .ok d => exitCode d
  | .error _ => 1

variable {ob oc}

/-- The comparison succeeds on two accepted reports of two runs, and is then `diffOf`. -/
theorem build_eq_ok_iff {baseline candidate : Evidence} {generatedAt : Str} {d : Diff} :
  build ob oc baseline candidate generatedAt = .ok d ↔
    Accepted baseline ∧ Accepted candidate ∧ DistinctRuns baseline candidate ∧
      d = diffOf ob oc baseline candidate generatedAt
  := by
  rw [build]
  simp only [check_bind_eq_ok_iff, checkSchemas_eq_ok_iff, validate_eq_ok_iff,
    validatePresence_eq_ok_iff, checkDistinctRuns_eq_ok_iff]
  constructor
  · rintro ⟨⟨hbs, hcs⟩, hb, hc, hbp, hcp, hruns, hd⟩
    refine ⟨⟨hb, hbs, hbp⟩, ⟨hc, hcs, hcp⟩, hruns, ?_⟩
    cases hd
    rfl
  · rintro ⟨hb, hc, hruns, rfl⟩
    exact ⟨⟨hb.schema, hc.schema⟩, hb.toReportValid, hc.toReportValid, hb.required, hc.required,
      hruns, rfl⟩

/-! ### The cells, without the maps -/

/-- The target a report carries under a key. -/
def targetAt (e : Evidence) (id : Str) : Option Target := find targetID e.report.targets id

/-- The keys of two reports in increasing order. -/
def keysOf (baseline candidate : Evidence) : List Str :=
  sortKeys (collect (collect [] (baseline.report.targets.map targetID))
    (candidate.report.targets.map targetID))

/-- The cell of a key. -/
def cellAt (baseline candidate : Evidence) (id : Str) : Cell :=
  classify id (targetAt baseline id) (targetAt candidate id) (incomparable baseline candidate)

omit [UnicodeTables] in
theorem mem_keysOf {baseline candidate : Evidence} {id : Str} :
  id ∈ keysOf baseline candidate ↔
    id ∈ baseline.report.targets.map targetID ∨ id ∈ candidate.report.targets.map targetID
  := by
  simp [keysOf, mem_collect]

omit [UnicodeTables] in
theorem pairwise_lt_keysOf (baseline candidate : Evidence) :
  (keysOf baseline candidate).Pairwise (· < ·)
  := by
  apply pairwise_lt_sortKeys
  apply nodup_collect
  apply nodup_collect
  exact List.nodup_nil

omit [UnicodeTables] in
/-- The keys do not depend on the order in which the maps are ranged over. -/
theorem idsOf_indexTargets (baseline candidate : Evidence) :
  idsOf ob oc (indexTargets baseline.report.targets) (indexTargets candidate.report.targets)
    = keysOf baseline candidate
  := by
  apply sortKeys_eq_of_mem_iff
  · apply nodup_collect
    apply nodup_collect
    exact List.nodup_nil
  · apply nodup_collect
    apply nodup_collect
    exact List.nodup_nil
  · intro id
    rw [mem_collect, mem_collect, mem_collect, mem_collect, (ob.perm _).mem_iff,
      (oc.perm _).mem_iff, indexTargets, indexTargets, mem_keys_indexBy, mem_keys_indexBy]

/-- The cells of two accepted reports. -/
theorem cellsOf_eq {baseline candidate : Evidence} (hb : Accepted baseline)
    (hc : Accepted candidate) :
  cellsOf ob oc baseline candidate
    = (keysOf baseline candidate).map (cellAt baseline candidate)
  := by
  rw [cellsOf, idsOf_indexTargets]
  apply List.map_congr_left
  intro id _
  rw [cellAt, targetAt, targetAt, indexTargets, indexTargets, lookup_indexBy hb.distinct,
    lookup_indexBy hc.distinct]

omit [UnicodeTables] in
theorem mem_of_targetAt {e : Evidence} {id : Str} {t : Target} (h : targetAt e id = some t) :
  t ∈ e.report.targets ∧ targetID t = id
  := find_eq_some h

theorem targetAt_eq_some_iff {e : Evidence} (he : Accepted e) {id : Str} {t : Target} :
  targetAt e id = some t ↔ t ∈ e.report.targets ∧ targetID t = id
  := find_eq_some_iff he.distinct

omit [UnicodeTables] in
theorem mem_keysOf_of_targetAt {baseline candidate : Evidence} {id : Str} {t : Target}
    (h : targetAt baseline id = some t ∨ targetAt candidate id = some t) :
  id ∈ keysOf baseline candidate
  := by
  rw [mem_keysOf]
  obtain h | h := h
  · obtain ⟨ht, rfl⟩ := mem_of_targetAt h
    exact .inl (List.mem_map_of_mem ht)
  · obtain ⟨ht, rfl⟩ := mem_of_targetAt h
    exact .inr (List.mem_map_of_mem ht)

/-! ### The exit code -/

omit [UnicodeTables] in
theorem counterOf_eq_newRequired_iff {c : Cell} :
  counterOf c = .newRequiredRegressions ↔ c.required = true ∧ c.classification = .newRegression
  := by
  rw [counterOf]
  cases c.classification <;> cases c.required <;> simp

omit [UnicodeTables] in
theorem counterOf_eq_inconclusiveRequired_iff {c : Cell} :
  counterOf c = .inconclusiveRequired ↔ c.required = true ∧ c.classification = .inconclusive
  := by
  rw [counterOf]
  cases c.classification <;> cases c.required <;> simp

omit [UnicodeTables] in
theorem counterOf_eq_removedRequired_iff {c : Cell} :
  counterOf c = .coverageRemovedRequired ↔
    c.required = true ∧ c.classification = .coverageRemoved
  := by
  rw [counterOf]
  cases c.classification <;> cases c.required <;> simp

omit [UnicodeTables] in
theorem newRequiredRegressions_pos_iff {cells : List Cell} :
  0 < (summarize cells).newRequiredRegressions ↔
    ∃ c ∈ cells, c.required = true ∧ c.classification = .newRegression
  := by
  apply (get_summarize_pos_iff (k := .newRequiredRegressions)).trans
  simp only [counterOf_eq_newRequired_iff]

omit [UnicodeTables] in
theorem inconclusiveRequired_pos_iff {cells : List Cell} :
  0 < (summarize cells).inconclusiveRequired ↔
    ∃ c ∈ cells, c.required = true ∧ c.classification = .inconclusive
  := by
  apply (get_summarize_pos_iff (k := .inconclusiveRequired)).trans
  simp only [counterOf_eq_inconclusiveRequired_iff]

omit [UnicodeTables] in
theorem coverageRemovedRequired_pos_iff {cells : List Cell} :
  0 < (summarize cells).coverageRemovedRequired ↔
    ∃ c ∈ cells, c.required = true ∧ c.classification = .coverageRemoved
  := by
  apply (get_summarize_pos_iff (k := .coverageRemovedRequired)).trans
  simp only [counterOf_eq_removedRequired_iff]

omit [UnicodeTables] in
theorem overallResult_summarize_eq_regressed_iff {cells : List Cell} :
  overallResult (summarize cells) = .regressed ↔
    ∃ c ∈ cells, c.required = true ∧ c.classification = .newRegression
  := by
  rw [overallResult, ← newRequiredRegressions_pos_iff]
  split_ifs <;> simp_all

omit [UnicodeTables] in
theorem overallResult_summarize_eq_noRegressions_iff {cells : List Cell} :
  overallResult (summarize cells) = .noRegressions ↔
    ∀ c ∈ cells, c.required = true → c.classification ≠ .newRegression ∧
      c.classification ≠ .inconclusive ∧ c.classification ≠ .coverageRemoved
  := by
  have hnone : overallResult (summarize cells) = .noRegressions ↔
      ¬ 0 < (summarize cells).newRequiredRegressions ∧
        ¬ (0 < (summarize cells).inconclusiveRequired ∨
          0 < (summarize cells).coverageRemovedRequired) := by
    rw [overallResult]
    split_ifs <;> simp_all
  rw [hnone, newRequiredRegressions_pos_iff, inconclusiveRequired_pos_iff,
    coverageRemovedRequired_pos_iff]
  constructor
  · rintro ⟨hn, hir⟩ c hc hreq
    refine ⟨?_, ?_, ?_⟩
    · intro h
      exact hn ⟨c, hc, hreq, h⟩
    · intro h
      exact hir (.inl ⟨c, hc, hreq, h⟩)
    · intro h
      exact hir (.inr ⟨c, hc, hreq, h⟩)
  · intro h
    constructor
    · rintro ⟨c, hc, hreq, hcl⟩
      exact (h c hc hreq).1 hcl
    · rintro (⟨c, hc, hreq, hcl⟩ | ⟨c, hc, hreq, hcl⟩)
      · exact (h c hc hreq).2.1 hcl
      · exact (h c hc hreq).2.2 hcl

/-- The comparison exits 2 when some required key has a regression. -/
theorem exitCode_diffOf_eq_two_iff {baseline candidate : Evidence} (hb : Accepted baseline)
    (hc : Accepted candidate) {generatedAt : Str} :
  exitCode (diffOf ob oc baseline candidate generatedAt) = 2 ↔
    ∃ id ∈ keysOf baseline candidate, (cellAt baseline candidate id).required = true ∧
      (cellAt baseline candidate id).classification = .newRegression
  := by
  have h : exitCode (diffOf ob oc baseline candidate generatedAt) = 2 ↔
      overallResult (summarize (cellsOf ob oc baseline candidate)) = .regressed := by
    simp only [exitCode, diffOf]
    cases overallResult (summarize (cellsOf ob oc baseline candidate)) <;> simp
  rw [h, overallResult_summarize_eq_regressed_iff, cellsOf_eq hb hc]
  simp only [List.mem_map, exists_exists_and_eq_and]

/-- The comparison exits 0 when every required key is settled without a regression. -/
theorem exitCode_diffOf_eq_zero_iff {baseline candidate : Evidence} (hb : Accepted baseline)
    (hc : Accepted candidate) {generatedAt : Str} :
  exitCode (diffOf ob oc baseline candidate generatedAt) = 0 ↔
    ∀ id ∈ keysOf baseline candidate, (cellAt baseline candidate id).required = true →
      (cellAt baseline candidate id).classification ≠ .newRegression ∧
        (cellAt baseline candidate id).classification ≠ .inconclusive ∧
        (cellAt baseline candidate id).classification ≠ .coverageRemoved
  := by
  have h : exitCode (diffOf ob oc baseline candidate generatedAt) = 0 ↔
      overallResult (summarize (cellsOf ob oc baseline candidate)) = .noRegressions := by
    simp only [exitCode, diffOf]
    cases overallResult (summarize (cellsOf ob oc baseline candidate)) <;> simp
  rw [h, overallResult_summarize_eq_noRegressions_iff, cellsOf_eq hb hc, List.forall_mem_map]

end

end RegressionDiff
