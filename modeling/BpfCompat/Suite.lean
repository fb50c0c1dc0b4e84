import BpfCompat.Runner.Report

/-!
# Suites

A suite runs its cases one after the other.  A case whose configuration cannot be built or whose run
cannot be made ends in a tool error, and a cancelled suite ends in one too.  The status of the suite
is sticky: a tool error stays, and an incompatibility stays unless a tool error comes.

A suite exits with 0 exactly if every case ran and exited with 0, and without `stop-on-failure` its
result does not depend on the order of the cases.  An incompatibility outranks a tool error, as it
does in a run, only where the two do not meet (`suite_rollup_iff`).
-/

namespace Suite

open Go Schema Runner

/-! ### Summaries -/

structure CaseTargetSummary where
  profileID : Str
  status : Str
  required : Bool
  classificationCode : Str

structure CaseSummary where
  name : Str := []
  artifact : Str := []
  manifest : Str := []
  matrix : Str := []
  status : Str := []
  exitCode : Int := 0
  error : Str := []
  runID : Str := []
  reportJSONPath : Str := []
  reportMarkdownPath : Str := []
  totalProfiles : Nat := 0
  requiredPassed : Nat := 0
  requiredFailed : Nat := 0
  validationMode : Str := []
  behaviorStatus : Str := []
  behaviorPassed : Nat := 0
  behaviorFailed : Nat := 0
  targets : List CaseTargetSummary := []

structure Summary where
  schemaVersion : Str := str "bpfcompat_suite.v0.1"
  name : Str
  startedAt : Str
  finishedAt : Str := []
  durationMS : Int := 0
  status : Str
  exitCode : Int
  cases : List CaseSummary

def exitSuccess : Int := 0

def exitToolError : Int := 1

def exitCompatibilityFailure : Int := 2

section

variable [UnicodeTables]

def requiredCounts (report : ReportV01) : Nat × Nat :=
  let passes := fun t : Target => equalFold (trimSpace t.status) (str "pass")
  (report.targets.countP fun t => t.required && passes t,
    report.targets.countP fun t => t.required && !passes t)

def behaviorCounts (report : ReportV01) : Str × Nat × Nat :=
  let tests := report.targets.flatMap fun t => (t.functional.map (·.tests)).getD []
  let status := fun t : FunctionalTest => toLower (trimSpace t.status)
  let passed := tests.countP fun t => status t = str "pass"
  let failed := tests.countP fun t =>
    status t ≠ str "pass" ∧ status t ≠ str "skipped" ∧ status t ≠ []
  if tests = [] then ([], 0, 0)
  else if 0 < failed then (str "fail", passed, failed)
  else (str "pass", passed, 0)

def targetSummaries (report : ReportV01) : List CaseTargetSummary :=
  report.targets.map fun t =>
    ⟨t.profileID, toLower (trimSpace t.status), t.required, trimSpace t.classificationCode⟩

def caseSummaryFromRun (base : CaseSummary) (result : RunResult) : CaseSummary :=
  { base with
    status := result.report.summary.status
    exitCode := result.exitCode
    runID := result.report.run.id
    reportJSONPath := result.report.paths.json
    reportMarkdownPath := result.report.paths.markdown
    totalProfiles := result.report.targets.length
    requiredPassed := (requiredCounts result.report).1
    requiredFailed := (requiredCounts result.report).2
    behaviorStatus := (behaviorCounts result.report).1
    behaviorPassed := (behaviorCounts result.report).2.1
    behaviorFailed := (behaviorCounts result.report).2.2
    targets := targetSummaries result.report }

/-- The summary of a case that ended in a tool error. -/
def CaseSummary.failed (base : CaseSummary) (err : Str) : CaseSummary :=
  { base with status := str "error", exitCode := exitToolError, error := err }

/-! ### Running a suite -/

/-- The result of a run, with the exit code its verdict calls for. -/
structure Run where
  result : RunResult
  exit : result.exitCode = runExitCode (runVerdict result.report.targets)

/-- What a run that could be prepared gives. -/
theorem exit_executeBootstrap (worlds : Matrices.MatrixProfile → Runner.World)
    (arrival : RangeOrder (Matrices.MatrixProfile × Nat)) (abs : Str → Except Str Str) (cfg : Config)
    (prepared : Prepared) :
  (executeBootstrap worlds arrival abs cfg prepared).exitCode
    = runExitCode (runVerdict (executeBootstrap worlds arrival abs cfg prepared).report.targets)
  := rfl

/-- What comes of a case: its configuration cannot be built, or it is run, which may fail. -/
inductive Outcome where
  | buildError (caseSummary : CaseSummary) (err : Str)
  | run (caseSummary : CaseSummary) (result : Except Str Run)

/-- A case of the suite, with what comes of it. -/
structure SuiteCase where
  name : Str
  outcome : Outcome

structure RunOptions where
  suitePath : Str
  outPath : Str := []
  markdownPath : Str := []
  stopOnFailure : Bool := false

structure Spec where
  name : Str
  cases : List SuiteCase

/-- What a suite finds around it: the file of the suite as it is loaded, the clock, the errors of
writing the summary, and the error of the context with the number of cases begun before it. -/
structure World where
  load : Str → Except Str Spec
  cancelled : Option (Nat × Str) := none
  started : Str := []
  finished : Str := []
  durationMS : Int := 0
  writeJSON : Str → Summary → Except Str Unit := fun _ _ => .ok ()
  writeMarkdown : Str → Summary → Except Str Unit := fun _ _ => .ok ()

/-- The error of the context before a case. -/
def ctxErr (cancelled : Option (Nat × Str)) (i : Nat) : Option Str :=
  match cancelled with
  | none => none
  | some (begun, err) => if begun ≤ i then some err else none

def updateSuiteStatus (summary : Summary) (exitCode : Int) : Summary :=
  if exitCode = exitToolError then
    { summary with status := str "error", exitCode := exitToolError }
  else if exitCode = exitCompatibilityFailure ∧ summary.exitCode ≠ exitToolError then
    { summary with status := str "fail", exitCode := exitCompatibilityFailure }
  else summary

/-- A case is added to the summary. -/
def Summary.append (summary : Summary) (caseSummary : CaseSummary) : Summary :=
  { summary with cases := summary.cases ++ [caseSummary] }

/-- The summary of a case that was not begun. -/
def cancelledCase (c : SuiteCase) (err : Str) : CaseSummary :=
  { name := c.name, status := str "error", exitCode := exitToolError, error := err }

/-- The loop over the remaining cases, the first of which is the one with index `i`. -/
def caseLoop (stopOnFailure : Bool) (cancelled : Option (Nat × Str)) :
    Nat → List SuiteCase → Summary → Summary
  | _, [], summary => summary
  | i, c :: cases, summary =>
    match ctxErr cancelled i with
    | some err =>
      { summary.append (cancelledCase c err) with
        status := str "error", exitCode := exitToolError }
    | none =>
      match c.outcome with
      | .buildError caseSummary err =>
        let caseSummary := caseSummary.failed err
        let summary := updateSuiteStatus (summary.append caseSummary) caseSummary.exitCode
        if stopOnFailure then summary
        else caseLoop stopOnFailure cancelled (i + 1) cases summary
      | .run caseSummary result =>
        let caseSummary :=
          match result with
          | .error err => caseSummary.failed err
          | .ok run => caseSummaryFromRun caseSummary run.result
        let summary := updateSuiteStatus (summary.append caseSummary) caseSummary.exitCode
        if stopOnFailure ∧ caseSummary.exitCode ≠ exitSuccess then summary
        else caseLoop stopOnFailure cancelled (i + 1) cases summary

/-- The summary before the first case. -/
def newSummary (w : World) (spec : Spec) : Summary where
  name := trimSpace spec.name
  startedAt := w.started
  status := str "pass"
  exitCode := exitSuccess
  cases := []

/-- The summary of a suite that was loaded. -/
def runSuite (w : World) (opts : RunOptions) (spec : Spec) : Summary :=
  let summary := caseLoop opts.stopOnFailure w.cancelled 0 spec.cases (newSummary w spec)
  { summary with finishedAt := w.finished, durationMS := w.durationMS }

/-- A file that was asked for is written. -/
def writeWhenAsked (write : Str → Summary → Except Str Unit) (path : Str) (summary : Summary) :
    Except Str Unit :=
  if path ≠ [] then write path summary else .ok ()

def execute (w : World) (opts : RunOptions) : Except Str Summary :=
  if trimSpace opts.suitePath = [] then .error (str "--suite is required")
  else do
    let spec ← w.load opts.suitePath
    let summary := runSuite w opts spec
    writeWhenAsked w.writeJSON opts.outPath summary
    writeWhenAsked w.writeMarkdown opts.markdownPath summary
    return summary

/-! ### The entries of the summary -/

/-- The summary of a case that was begun. -/
def executeCase (c : SuiteCase) : CaseSummary :=
  match c.outcome with
  | .buildError caseSummary err => caseSummary.failed err
  | .run caseSummary (.error err) => caseSummary.failed err
  | .run caseSummary (.ok run) => caseSummaryFromRun caseSummary run.result

/-- The entries the loop makes for the remaining cases. -/
def entries (stopOnFailure : Bool) (cancelled : Option (Nat × Str)) :
    Nat → List SuiteCase → List CaseSummary
  | _, [] => []
  | i, c :: cases =>
    match ctxErr cancelled i with
    | some err => [cancelledCase c err]
    | none =>
      if stopOnFailure ∧ (executeCase c).exitCode ≠ exitSuccess then [executeCase c]
      else executeCase c :: entries stopOnFailure cancelled (i + 1) cases

/-- The exit code of a suite whose cases have the given ones. -/
def worst (codes : List Int) : Int :=
  if exitToolError ∈ codes then exitToolError
  else if exitCompatibilityFailure ∈ codes then exitCompatibilityFailure
  else exitSuccess

/-- The status of a suite with the given exit code. -/
def suiteStatus (exitCode : Int) : Str :=
  if exitCode = exitToolError then str "error"
  else if exitCode = exitCompatibilityFailure then str "fail"
  else str "pass"

/-- The exit code and the status are those the cases so far call for. -/
structure RolledUp (summary : Summary) : Prop where
  exitCode : summary.exitCode = worst (summary.cases.map (·.exitCode))
  status : summary.status = suiteStatus summary.exitCode

omit [UnicodeTables] in
theorem runExitCode_cases (verdict : Str) :
  runExitCode verdict = exitSuccess ∨ runExitCode verdict = exitToolError
    ∨ runExitCode verdict = exitCompatibilityFailure
  := by
  unfold runExitCode
  split_ifs
  · exact .inr (.inr rfl)
  · exact .inr (.inl rfl)
  · exact .inl rfl

/-- Cases have no other exit codes than runs and tool errors have. -/
theorem exitCode_executeCase (c : SuiteCase) :
  (executeCase c).exitCode = exitSuccess ∨ (executeCase c).exitCode = exitToolError
    ∨ (executeCase c).exitCode = exitCompatibilityFailure
  := by
  unfold executeCase
  split
  · exact .inr (.inl rfl)
  · exact .inr (.inl rfl)
  · next caseSummary run _ =>
      have hcode := runExitCode_cases (runVerdict run.result.report.targets)
      rw [← run.exit] at hcode
      exact hcode

omit [UnicodeTables] in
theorem worst_append (codes : List Int) (code : Int) :
  worst (codes ++ [code]) =
    if code = exitToolError then exitToolError
    else if code = exitCompatibilityFailure ∧ worst codes ≠ exitToolError then
      exitCompatibilityFailure
    else worst codes
  := by
  unfold worst
  simp only [List.mem_append, List.mem_singleton, @eq_comm _ _ code]
  by_cases hone : exitToolError ∈ codes
  · simp [hone]
  · by_cases htool : code = exitToolError
    · simp [htool]
    · by_cases htwo : exitCompatibilityFailure ∈ codes
      · simp [hone, htool, htwo]
      · by_cases hcode : code = exitCompatibilityFailure
        · have hzero : exitSuccess ≠ exitToolError := by decide
          rw [hcode] at htool ⊢
          simp [hone, htool, htwo, hzero]
        · simp [hone, htool, htwo, hcode]

omit [UnicodeTables] in
/-- The status of the suite is what the cases so far call for, whatever the next one is. -/
theorem rolledUp_update {summary : Summary} (h : RolledUp summary) (entry : CaseSummary) :
  RolledUp (updateSuiteStatus (summary.append entry) entry.exitCode)
  := by
  have hworst := worst_append (summary.cases.map (·.exitCode)) entry.exitCode
  rw [← h.exitCode] at hworst
  unfold updateSuiteStatus
  rw [show (summary.append entry).exitCode = summary.exitCode from rfl]
  split_ifs with htool hfailure
  · rw [if_pos htool] at hworst
    constructor
    · simp only [Summary.append, List.map_append, List.map_cons, List.map_nil, hworst]
    · rfl
  · rw [if_neg htool, if_pos hfailure] at hworst
    constructor
    · simp only [Summary.append, List.map_append, List.map_cons, List.map_nil, hworst]
    · rfl
  · rw [if_neg htool, if_neg hfailure] at hworst
    constructor
    · simp only [Summary.append, List.map_append, List.map_cons, List.map_nil, hworst]
    · exact h.status

omit [UnicodeTables] in
theorem cases_update (summary : Summary) (entry : CaseSummary) :
  (updateSuiteStatus (summary.append entry) entry.exitCode).cases = summary.cases ++ [entry]
  := by
  unfold updateSuiteStatus
  split_ifs
  · rfl
  · rfl
  · rfl

theorem caseLoop_cons {stop : Bool} {cancelled : Option (Nat × Str)} {i : Nat}
    (h : ctxErr cancelled i = none) (c : SuiteCase) (cases : List SuiteCase) (summary : Summary) :
  caseLoop stop cancelled i (c :: cases) summary =
    let next := updateSuiteStatus (summary.append (executeCase c)) (executeCase c).exitCode
    if stop ∧ (executeCase c).exitCode ≠ exitSuccess then next
    else caseLoop stop cancelled (i + 1) cases next
  := by
  rw [caseLoop, h]
  unfold executeCase
  cases c.outcome with
  | buildError caseSummary err =>
      dsimp only
      have hcode : (caseSummary.failed err).exitCode ≠ exitSuccess := by
        show (1 : Int) ≠ 0
        decide
      simp only [hcode, ne_eq, not_false_eq_true, and_true]
  | run caseSummary result =>
      cases result with
      | error err => rfl
      | ok run => rfl

/-- The loop makes the entries of the remaining cases, and the status they call for. -/
theorem caseLoop_spec (stop : Bool) (cancelled : Option (Nat × Str)) (i : Nat)
    (cases : List SuiteCase) {summary : Summary} (h : RolledUp summary) :
  (caseLoop stop cancelled i cases summary).cases = summary.cases ++ entries stop cancelled i cases
    ∧ RolledUp (caseLoop stop cancelled i cases summary)
  := by
  induction cases generalizing i summary with
  | nil =>
      rw [caseLoop, entries, List.append_nil]
      exact ⟨rfl, h⟩
  | cons c cases ih =>
      cases hctx : ctxErr cancelled i with
      | some err =>
          rw [caseLoop, entries, hctx]
          refine ⟨rfl, ?_⟩
          have hworst := worst_append (summary.cases.map (·.exitCode)) exitToolError
          rw [if_pos rfl] at hworst
          constructor
          · simp only [Summary.append, cancelledCase, List.map_append, List.map_cons,
              List.map_nil, hworst]
          · rfl
      | none =>
          rw [caseLoop_cons hctx, entries, hctx]
          have hnext := rolledUp_update h (executeCase c)
          have hcases := cases_update summary (executeCase c)
          dsimp only
          split_ifs with hstop
          · exact ⟨hcases, hnext⟩
          · obtain ⟨ihcases, ihrolled⟩ := ih (i + 1) hnext
            rw [hcases, List.append_assoc, List.singleton_append] at ihcases
            exact ⟨ihcases, ihrolled⟩

theorem runSuite_spec (w : World) (opts : RunOptions) (spec : Spec) :
  (runSuite w opts spec).cases = entries opts.stopOnFailure w.cancelled 0 spec.cases
    ∧ RolledUp (runSuite w opts spec)
  := by
  have hinit : RolledUp (newSummary w spec) := ⟨rfl, rfl⟩
  obtain ⟨hcases, hrolled⟩ := caseLoop_spec opts.stopOnFailure w.cancelled 0 spec.cases hinit
  exact ⟨hcases, hrolled.exitCode, hrolled.status⟩

/-! ### What comes of a case -/

/-- The case ran and passed. -/
def Passed (c : SuiteCase) : Prop :=
  ∃ caseSummary run, c.outcome = .run caseSummary (.ok run) ∧ run.result.exitCode = exitSuccess

/-- The case ran, and a required target proved an incompatibility. -/
def ProvedIncompatible (c : SuiteCase) : Prop :=
  ∃ caseSummary run, c.outcome = .run caseSummary (.ok run)
    ∧ runVerdict run.result.report.targets = verdictIncompatible

/-- The case could not be run, or its run could not establish what it was asked for. -/
def EndsInToolError (c : SuiteCase) : Prop :=
  ∀ caseSummary run, c.outcome = .run caseSummary (.ok run) →
    runVerdict run.result.report.targets = verdictInfraError

theorem exitCode_eq_success_iff {c : SuiteCase} :
  (executeCase c).exitCode = exitSuccess ↔ Passed c
  := by
  unfold executeCase Passed
  cases c.outcome with
  | buildError caseSummary err => simp [CaseSummary.failed, exitToolError, exitSuccess]
  | run caseSummary result =>
      cases result with
      | error err => simp [CaseSummary.failed, exitToolError, exitSuccess]
      | ok run => simp [caseSummaryFromRun]

omit [UnicodeTables] in
theorem runExitCode_eq_failure_iff {verdict : Str} :
  runExitCode verdict = exitCompatibilityFailure ↔ verdict = verdictIncompatible
  := by
  unfold runExitCode
  split_ifs with h₁ h₂
  · simp [h₁, exitCompatibilityFailure]
  · simp [h₁, exitCompatibilityFailure]
  · simp [h₁, exitCompatibilityFailure]

omit [UnicodeTables] in
theorem runExitCode_eq_toolError_iff {verdict : Str} :
  runExitCode verdict = exitToolError ↔ verdict = verdictInfraError
  := by
  have hne : verdictIncompatible ≠ verdictInfraError := by decide
  unfold runExitCode
  split_ifs with h₁ h₂
  · simp [h₁, hne, exitToolError]
  · simp [h₂, exitToolError]
  · simp [h₂, exitToolError]

theorem exitCode_eq_failure_iff {c : SuiteCase} :
  (executeCase c).exitCode = exitCompatibilityFailure ↔ ProvedIncompatible c
  := by
  unfold executeCase ProvedIncompatible
  cases c.outcome with
  | buildError caseSummary err =>
      simp [CaseSummary.failed, exitToolError, exitCompatibilityFailure]
  | run caseSummary result =>
      cases result with
      | error err => simp [CaseSummary.failed, exitToolError, exitCompatibilityFailure]
      | ok run => simp [caseSummaryFromRun, run.exit, runExitCode_eq_failure_iff]

theorem exitCode_eq_toolError_iff {c : SuiteCase} :
  (executeCase c).exitCode = exitToolError ↔ EndsInToolError c
  := by
  unfold executeCase EndsInToolError
  cases c.outcome with
  | buildError caseSummary err => simp [CaseSummary.failed]
  | run caseSummary result =>
      cases result with
      | error err => simp [CaseSummary.failed]
      | ok run => simp [caseSummaryFromRun, run.exit, runExitCode_eq_toolError_iff]

/-! ### The roll-up -/

/-- The cases that are begun without `stop-on-failure`. -/
def begun (cancelled : Option (Nat × Str)) (cases : List SuiteCase) : List SuiteCase :=
  match cancelled with
  | none => cases
  | some (count, _) => cases.take count

/-- The suite is cancelled while a case is left. -/
def Interrupted (cancelled : Option (Nat × Str)) (cases : List SuiteCase) : Prop :=
  ∃ count err, cancelled = some (count, err) ∧ count < cases.length

theorem entries_not_cancelled (i : Nat) (cases : List SuiteCase) :
  entries false none i cases = cases.map executeCase
  := by
  induction cases generalizing i with
  | nil => rfl
  | cons c cases ih =>
      rw [entries, ctxErr, List.map_cons]
      dsimp only
      rw [if_neg (by simp), ih]

theorem entries_cancelled (count : Nat) (err : Str) (i : Nat) (cases : List SuiteCase) :
  entries false (some (count, err)) i cases
    = (cases.take (count - i)).map executeCase
      ++ (cases[count - i]?.map fun c => cancelledCase c err).toList
  := by
  induction cases generalizing i with
  | nil => rw [entries, List.take_nil, List.map_nil, List.getElem?_nil, Option.map_none,
      Option.toList_none, List.append_nil]
  | cons c cases ih =>
      rw [entries, ctxErr]
      obtain h | h := Nat.lt_or_ge i count
      · obtain ⟨n, hn⟩ : ∃ n, count - i = n + 1 := ⟨count - i - 1, by omega⟩
        have hnext : count - (i + 1) = n := by omega
        rw [if_neg (by omega)]
        dsimp only
        rw [if_neg (by simp), ih, hn, hnext, List.take_succ_cons, List.map_cons, List.cons_append,
          List.getElem?_cons_succ]
      · have hzero : count - i = 0 := by omega
        rw [if_pos h, hzero]
        rfl

/-- Without `stop-on-failure` there is an entry for every case that is begun, and one more where the
suite is cancelled. -/
theorem entries_of_not_stop (cancelled : Option (Nat × Str)) (cases : List SuiteCase) :
  (¬ Interrupted cancelled cases ∧ entries false cancelled 0 cases = cases.map executeCase
    ∧ begun cancelled cases = cases)
  ∨ (Interrupted cancelled cases ∧ ∃ c err, entries false cancelled 0 cases
    = (begun cancelled cases).map executeCase ++ [cancelledCase c err])
  := by
  cases cancelled with
  | none =>
      left
      refine ⟨?_, entries_not_cancelled 0 cases, rfl⟩
      rintro ⟨count, err, h, -⟩
      cases h
  | some p =>
      obtain ⟨count, err⟩ := p
      rw [entries_cancelled, Nat.sub_zero]
      obtain h | h := Nat.lt_or_ge count cases.length
      · right
        refine ⟨⟨count, err, rfl, h⟩, cases[count], err, ?_⟩
        rw [List.getElem?_eq_getElem h]
        rfl
      · left
        refine ⟨?_, ?_, List.take_of_length_le h⟩
        · rintro ⟨count', err', heq, hlt⟩
          cases heq
          omega
        · rw [List.getElem?_eq_none h, List.take_of_length_le h]
          exact List.append_nil _

/-- With `stop-on-failure` only the last entry is one of a failure. -/
theorem entries_of_stop (cancelled : Option (Nat × Str)) (i : Nat) (cases : List SuiteCase)
    (h : exitCompatibilityFailure ∈ (entries true cancelled i cases).map (·.exitCode)) :
  exitToolError ∉ (entries true cancelled i cases).map (·.exitCode)
  := by
  induction cases generalizing i with
  | nil => simp [entries]
  | cons c cases ih =>
      rw [entries] at h ⊢
      cases hctx : ctxErr cancelled i with
      | some err =>
          rw [hctx] at h
          simp [cancelledCase, exitToolError, exitCompatibilityFailure] at h
      | none =>
          rw [hctx] at h
          dsimp only at h ⊢
          split_ifs at h ⊢ with hfailed
          · simp only [List.map_cons, List.map_nil, List.mem_singleton] at h ⊢
            rw [← h]
            decide
          · have hzero : (executeCase c).exitCode = exitSuccess := by simpa using hfailed
            rw [List.map_cons, hzero, List.mem_cons] at h ⊢
            have hrest := h.resolve_left (by decide)
            exact not_or.mpr ⟨by decide, ih (i + 1) hrest⟩

/-- All entries are those of passes exactly if every case ran and passed. -/
theorem entries_passed_iff (stop : Bool) (cancelled : Option (Nat × Str)) (i : Nat)
    (cases : List SuiteCase) :
  (∀ entry ∈ entries stop cancelled i cases, entry.exitCode = exitSuccess)
    ↔ entries stop cancelled i cases = cases.map executeCase ∧ ∀ c ∈ cases, Passed c
  := by
  induction cases generalizing i with
  | nil => simp [entries]
  | cons c cases ih =>
      rw [entries]
      cases hctx : ctxErr cancelled i with
      | some err =>
          constructor
          · intro h
            cases h _ (List.mem_singleton_self _)
          · rintro ⟨heq, hpassed⟩
            rw [List.map_cons, List.cons.injEq] at heq
            have hcode := exitCode_eq_success_iff.mpr (hpassed c List.mem_cons_self)
            rw [← heq.1] at hcode
            cases hcode
      | none =>
          dsimp only
          split_ifs with hfailed
          · constructor
            · intro h
              exact absurd (h _ (List.mem_singleton_self _)) hfailed.2
            · rintro ⟨-, hpassed⟩
              exact absurd (exitCode_eq_success_iff.mpr (hpassed c List.mem_cons_self)) hfailed.2
          · rw [List.forall_mem_cons, List.forall_mem_cons, ih, List.map_cons, List.cons.injEq,
              exitCode_eq_success_iff]
            tauto

omit [UnicodeTables] in
theorem worst_eq_success_iff {codes : List Int} (h : ∀ code ∈ codes,
    code = exitSuccess ∨ code = exitToolError ∨ code = exitCompatibilityFailure) :
  worst codes = exitSuccess ↔ ∀ code ∈ codes, code = exitSuccess
  := by
  unfold worst
  split_ifs with htool hfailure
  · constructor
    · intro heq
      cases heq
    · intro hall
      exact hall _ htool
  · constructor
    · intro heq
      cases heq
    · intro hall
      exact hall _ hfailure
  · constructor
    · intro _ code hcode
      obtain hcase | rfl | rfl := h code hcode
      · exact hcase
      · exact absurd hcode htool
      · exact absurd hcode hfailure
    · intro _
      rfl

theorem exitCode_entries (stop : Bool) (cancelled : Option (Nat × Str)) (i : Nat)
    (cases : List SuiteCase) {entry : CaseSummary} (h : entry ∈ entries stop cancelled i cases) :
  entry.exitCode = exitToolError ∨ ∃ c ∈ cases, entry = executeCase c
  := by
  induction cases generalizing i with
  | nil => simp [entries] at h
  | cons c cases ih =>
      rw [entries] at h
      cases hctx : ctxErr cancelled i with
      | some err =>
          rw [hctx, List.mem_singleton] at h
          rw [h]
          exact .inl rfl
      | none =>
          rw [hctx] at h
          dsimp only at h
          split_ifs at h with hfailed
          · exact .inr ⟨c, List.mem_cons_self, List.mem_singleton.mp h⟩
          · obtain rfl | h := List.mem_cons.mp h
            · exact .inr ⟨c, List.mem_cons_self, rfl⟩
            · obtain htool | ⟨c', hc', rfl⟩ := ih (i + 1) h
              · exact .inl htool
              · exact .inr ⟨c', List.mem_cons_of_mem _ hc', rfl⟩

/-- What the roll-up is for. -/
structure RollUp (w : World) (opts : RunOptions) (spec : Spec) (summary : Summary) : Prop where
  success : summary.exitCode = exitSuccess ↔
    summary.cases = spec.cases.map executeCase ∧ ∀ c ∈ spec.cases, Passed c
  order : opts.stopOnFailure = false → ∀ spec' : Spec, spec'.cases.Perm spec.cases →
    (runSuite w opts spec').exitCode = summary.exitCode
      ∧ (runSuite w opts spec').status = summary.status
  incompatible : ∀ c ∈ spec.cases, executeCase c ∈ summary.cases → ProvedIncompatible c →
    summary.exitCode = exitCompatibilityFailure

theorem success_iff (w : World) (opts : RunOptions) (spec : Spec) :
  (runSuite w opts spec).exitCode = exitSuccess ↔
    (runSuite w opts spec).cases = spec.cases.map executeCase ∧ ∀ c ∈ spec.cases, Passed c
  := by
  obtain ⟨hcases, hrolled⟩ := runSuite_spec w opts spec
  have hcodes : ∀ code ∈ (entries opts.stopOnFailure w.cancelled 0 spec.cases).map (·.exitCode),
      code = exitSuccess ∨ code = exitToolError ∨ code = exitCompatibilityFailure := by
    intro code hcode
    obtain ⟨entry, hentry, rfl⟩ := List.mem_map.mp hcode
    obtain htool | ⟨c, -, rfl⟩ := exitCode_entries _ _ _ _ hentry
    · exact .inr (.inl htool)
    · exact exitCode_executeCase c
  rw [hrolled.exitCode, hcases, worst_eq_success_iff hcodes, ← entries_passed_iff,
    List.forall_mem_map]

omit [UnicodeTables] in
theorem worst_congr {codes codes' : List Int} (h : ∀ code, code ∈ codes ↔ code ∈ codes') :
  worst codes = worst codes'
  := by
  simp only [worst, h]

/-- Without `stop-on-failure` the order of the cases does not matter. -/
theorem worst_entries_perm (cancelled : Option (Nat × Str)) {cases cases' : List SuiteCase}
    (h : cases'.Perm cases) :
  worst ((entries false cancelled 0 cases').map (·.exitCode))
    = worst ((entries false cancelled 0 cases).map (·.exitCode))
  := by
  have htool : ∀ (l : List CaseSummary) (c : SuiteCase) (err : Str),
      worst ((l ++ [cancelledCase c err]).map (·.exitCode)) = exitToolError := by
    intro l c err
    rw [List.map_append, List.map_singleton, worst_append]
    exact if_pos rfl
  have hinterrupted : Interrupted cancelled cases' ↔ Interrupted cancelled cases := by
    unfold Interrupted
    rw [h.length_eq]
  obtain ⟨hnot, heq, -⟩ | ⟨hcut, c, err, heq⟩ := entries_of_not_stop cancelled cases
  · obtain ⟨-, heq', -⟩ | ⟨hcut', -⟩ := entries_of_not_stop cancelled cases'
    · rw [heq, heq']
      apply worst_congr
      intro code
      exact ((h.map executeCase).map _).mem_iff
    · exact absurd (hinterrupted.mp hcut') hnot
  · obtain ⟨hnot', -⟩ | ⟨-, c', err', heq'⟩ := entries_of_not_stop cancelled cases'
    · exact absurd (hinterrupted.mpr hcut) hnot'
    · rw [heq, heq', htool, htool]

/-- Every incompatibility is reported exactly if none meets a tool error. -/
theorem incompatible_iff_codes (w : World) (opts : RunOptions) (spec : Spec) :
  (∀ c ∈ spec.cases, executeCase c ∈ (runSuite w opts spec).cases → ProvedIncompatible c →
    (runSuite w opts spec).exitCode = exitCompatibilityFailure)
  ↔ (exitCompatibilityFailure
      ∈ (entries opts.stopOnFailure w.cancelled 0 spec.cases).map (·.exitCode) →
    exitToolError ∉ (entries opts.stopOnFailure w.cancelled 0 spec.cases).map (·.exitCode))
  := by
  obtain ⟨hcases, hrolled⟩ := runSuite_spec w opts spec
  rw [hrolled.exitCode, hcases]
  constructor
  · intro h hfailure htool
    obtain ⟨entry, hentry, hcode⟩ := List.mem_map.mp hfailure
    obtain herror | ⟨c, hc, rfl⟩ := exitCode_entries _ _ _ _ hentry
    · rw [herror] at hcode
      cases hcode
    · have hworst := h c hc hentry (exitCode_eq_failure_iff.mp hcode)
      rw [worst, if_pos htool] at hworst
      cases hworst
  · intro h c _ hentry hproved
    have hfailure := List.mem_map_of_mem (f := (·.exitCode)) hentry
    rw [exitCode_eq_failure_iff.mpr hproved] at hfailure
    rw [worst, if_neg (h hfailure), if_pos hfailure]

theorem failure_mem_iff (cases : List SuiteCase) :
  exitCompatibilityFailure ∈ (cases.map executeCase).map (·.exitCode)
    ↔ ∃ c ∈ cases, ProvedIncompatible c
  := by
  simp only [List.map_map, List.mem_map, Function.comp_apply, exitCode_eq_failure_iff]

theorem toolError_mem_iff (cases : List SuiteCase) :
  exitToolError ∈ (cases.map executeCase).map (·.exitCode) ↔ ∃ c ∈ cases, EndsInToolError c
  := by
  simp only [List.map_map, List.mem_map, Function.comp_apply, exitCode_eq_toolError_iff]

theorem incompatible_iff (w : World) (opts : RunOptions) (spec : Spec) :
  (∀ c ∈ spec.cases, executeCase c ∈ (runSuite w opts spec).cases → ProvedIncompatible c →
    (runSuite w opts spec).exitCode = exitCompatibilityFailure)
  ↔ opts.stopOnFailure = true
    ∨ (∀ c ∈ begun w.cancelled spec.cases, ¬ ProvedIncompatible c)
    ∨ (∀ c ∈ begun w.cancelled spec.cases, ¬ EndsInToolError c) ∧ ¬ Interrupted w.cancelled spec.cases
  := by
  rw [incompatible_iff_codes]
  cases hstop : opts.stopOnFailure with
  | true =>
      constructor
      · intro _
        exact .inl rfl
      · intro _
        exact entries_of_stop w.cancelled 0 spec.cases
  | false =>
      simp only [Bool.false_eq_true, false_or]
      obtain ⟨hnot, heq, hbegun⟩ | ⟨hcut, c, err, heq⟩ := entries_of_not_stop w.cancelled spec.cases
      · rw [heq, hbegun, failure_mem_iff, toolError_mem_iff]
        simp only [hnot, not_false_eq_true, and_true, not_exists, not_and]
        grind
      · -- the entry of the cancelled case is a tool error
        rw [heq, List.map_append, List.map_singleton, List.mem_append, List.mem_append,
          failure_mem_iff]
        have hlast : exitToolError ∈ [(cancelledCase c err).exitCode] := List.mem_singleton_self _
        have hlast' : exitCompatibilityFailure ∉ [(cancelledCase c err).exitCode] := by
          simp [cancelledCase, exitToolError, exitCompatibilityFailure]
        simp only [hlast, hlast', hcut, or_true, or_false, not_true_eq_false, and_false, imp_false,
          not_exists, not_and]

theorem execute_eq_ok {w : World} {opts : RunOptions} {summary : Summary}
    (h : execute w opts = .ok summary) :
  ∃ spec, w.load opts.suitePath = .ok spec ∧ summary = runSuite w opts spec
  := by
  unfold execute at h
  split_ifs at h with hpath
  obtain ⟨spec, hload, h⟩ := bind_eq_ok_iff.mp h
  obtain ⟨-, -, h⟩ := bind_eq_ok_iff.mp h
  obtain ⟨-, -, h⟩ := bind_eq_ok_iff.mp h
  cases h
  exact ⟨spec, hload, rfl⟩

/-- The roll-up does what it is for exactly if the suite stops on failures, or no case that is begun
proves an incompatibility, or none ends in a tool error and the suite is not cancelled. -/
theorem suite_rollup_iff {w : World} {opts : RunOptions} {spec : Spec} {summary : Summary}
    (hload : w.load opts.suitePath = .ok spec) (h : execute w opts = .ok summary) :
  RollUp w opts spec summary
  ↔ opts.stopOnFailure = true
    ∨ (∀ c ∈ begun w.cancelled spec.cases, ¬ ProvedIncompatible c)
    ∨ (∀ c ∈ begun w.cancelled spec.cases, ¬ EndsInToolError c) ∧ ¬ Interrupted w.cancelled spec.cases
  := by
  obtain ⟨spec', hload', rfl⟩ := execute_eq_ok h
  obtain rfl : spec = spec' := by
    rw [hload] at hload'
    cases hload'
    rfl
  rw [← incompatible_iff]
  constructor
  · intro hroll
    exact hroll.incompatible
  · intro hincompatible
    refine ⟨success_iff w opts spec, ?_, hincompatible⟩
    intro hstop spec' hperm
    obtain ⟨hcases, hrolled⟩ := runSuite_spec w opts spec
    obtain ⟨hcases', hrolled'⟩ := runSuite_spec w opts spec'
    have hcode : (runSuite w opts spec').exitCode = (runSuite w opts spec).exitCode := by
      rw [hrolled.exitCode, hrolled'.exitCode, hcases, hcases', hstop]
      exact worst_entries_perm w.cancelled hperm
    exact ⟨hcode, by rw [hrolled.status, hrolled'.status, hcode]⟩

end

section

attribute [local instance] asciiTables

/-- A run of one required target with the given verdict. -/
def runOf (verdict : Str) : RunResult where
  runDir := []
  exitCode := runExitCode (runVerdict [{ required := true, verdict := verdict }])
  report := { targets := [{ required := true, verdict := verdict }] }

theorem exitCode_runOf (verdict : Str) :
  (runOf verdict).exitCode = runExitCode (runVerdict (runOf verdict).report.targets)
  := rfl

/-- A case that proves an incompatibility. -/
def incompatibleCase : SuiteCase :=
  ⟨str "loader", .run {} (.ok ⟨runOf verdictIncompatible, exitCode_runOf _⟩)⟩

/-- A case that cannot be configured. -/
def unbuiltCase : SuiteCase := ⟨str "agent", .buildError {} (str "no such file")⟩

/-- A suite with the given cases. -/
def suiteOf (cases : List SuiteCase) : World where
  load := fun _ => .ok ⟨str "suite", cases⟩

/-- An incompatibility alone is reported. -/
theorem incompatible_case_reported :
  RollUp (suiteOf [incompatibleCase]) ⟨str "s", [], [], false⟩ ⟨str "suite", [incompatibleCase]⟩
    (runSuite (suiteOf [incompatibleCase]) ⟨str "s", [], [], false⟩ ⟨str "suite", [incompatibleCase]⟩)
  := by
  apply (suite_rollup_iff rfl rfl).mpr
  right
  right
  constructor
  · intro c hc herror
    cases List.mem_singleton.mp hc
    have hverdict := herror _ _ rfl
    revert hverdict
    decide
  · rintro ⟨count, err, h, -⟩
    cases h

/-- A case that cannot be configured hides an incompatibility. -/
theorem tool_error_hides_incompatibility :
  ∃ summary, execute (suiteOf [incompatibleCase, unbuiltCase]) ⟨str "s", [], [], false⟩ = .ok summary
    ∧ summary.exitCode = exitToolError
    ∧ ¬ RollUp (suiteOf [incompatibleCase, unbuiltCase]) ⟨str "s", [], [], false⟩
      ⟨str "suite", [incompatibleCase, unbuiltCase]⟩ summary
  := by
  refine ⟨_, rfl, by decide, ?_⟩
  intro hroll
  have hproved : ProvedIncompatible incompatibleCase := ⟨_, _, rfl, by decide⟩
  have hcode := hroll.incompatible incompatibleCase List.mem_cons_self List.mem_cons_self hproved
  revert hcode
  decide

end

end Suite
