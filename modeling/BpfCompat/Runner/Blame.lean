import BpfCompat.Runner.Honesty
import BpfCompat.Validator.Plan

/-!
# Tests that were never executed

A functional test may not be executed for reasons that are no fault of the software: its plan
cannot be opened, was cut short or has a version the validator does not know, or the pipes
or the process for its command cannot be made.  The validator has no status for that.  It
reports a failed test, or nothing at all, and the runner takes the one for an
incompatibility and the other for success (`never_infra_error`).
-/

namespace Runner

open Go Schema Matrices Validator

/-- The tests of a plan. -/
def planTests (plan : Str) : List Validator.FunctionalTest :=
  (loadFunctionalPlan (some (str "functional-plan.txt")) (.ok plan)).2

/-- What kept a test from being executed. -/
inductive Cause where
  | unopened
  | cutShort
  | wrongVersion
  | noPipe
  | noProcess
deriving DecidableEq

/-- A test of a plan was not executed, for a reason of the pipeline's own. -/
inductive NeverExecuted (plan : Str) (launch : Nat → Launch) :
    Cause → Except Str Str → Validator.FunctionalTest → Prop
  | unopened {test : Validator.FunctionalTest} (e : Str) (h : test ∈ planTests plan) :
    NeverExecuted plan launch .unopened (.error e) test
  | cutShort {test : Validator.FunctionalTest} {contents : Str} (hcut : contents <+: plan)
      (h : test ∈ planTests plan) (hlost : test ∉ planTests contents) :
    NeverExecuted plan launch .cutShort (.ok contents) test
  | wrongVersion {test : Validator.FunctionalTest} {contents version : Str} {lines : List Str}
      (hlines : planLines contents = version :: lines) (hversion : version ≠ planVersion)
      (h : test ∈ planTests plan) :
    NeverExecuted plan launch .wrongVersion (.ok contents) test
  | noPipe {test : Validator.FunctionalTest} {contents : Str} {i : Nat} {e : Str}
      (h : (planTests contents)[i]? = some test) (hlaunch : launch i = .pipeFailed e) :
    NeverExecuted plan launch .noPipe (.ok contents) test
  | noProcess {test : Validator.FunctionalTest} {contents : Str} {i : Nat} {e : Str}
      (h : (planTests contents)[i]? = some test) (hlaunch : launch i = .forkFailed e) :
    NeverExecuted plan launch .noProcess (.ok contents) test

/-- The document of the validator says what it came to. -/
structure Reports (vr : ValidatorResult) (loadOk : Bool) (attachStatus functionalStatus : Str) :
    Prop where
  status : vr.status = overallStatus loadOk attachStatus functionalStatus
  load : vr.load.status = if loadOk then str "pass" else str "fail"
  attach : vr.attach.status = attachStatus
  functional : vr.functional.status = functionalStatus

/-! ### The validator's status -/

theorem loadFunctionalPlan_path {path : Str} (hpath : path ≠ []) (file : Except Str Str) :
  loadFunctionalPlan (some path) file = loadFunctionalPlan (some (str "functional-plan.txt")) file
  := by
  rw [loadFunctionalPlan.eq_def, loadFunctionalPlan.eq_def, Option.getD_some, Option.getD_some,
    if_neg hpath, if_neg (by decide)]

/-- What a computation over a list gives for each of its elements. -/
theorem exists_mem_of_mapM {α β : Type} {f : α → Option β} {l : List α} {out : List β}
    (h : l.mapM f = some out) {a : α} (ha : a ∈ l) :
  ∃ b ∈ out, f a = some b
  := by
  induction l generalizing out with
  | nil => cases ha
  | cons x l ih =>
      rw [List.mapM_cons] at h
      simp only [Option.bind_eq_bind, Option.bind_eq_some_iff, Option.pure_def,
        Option.some_inj] at h
      obtain ⟨b, hb, out, hout, rfl⟩ := h
      rcases List.mem_cons.mp ha with rfl | ha
      · exact ⟨b, List.mem_cons_self, hb⟩
      · obtain ⟨c, hc, hfc⟩ := ih hout ha
        exact ⟨c, List.mem_cons_of_mem b hc, hfc⟩

section

variable {attachStatus functionalStatus : Str} {tests ran : List Validator.FunctionalTest}
  {launch : Nat → Launch} {n : Nat}

/-- A required test that fails makes the functional status a failure. -/
theorem status_of_failed (hattach : attachStatus ≠ str "fail" ∧ attachStatus ≠ str "skipped")
    (hrun : runFunctionalTests true attachStatus tests launch n = some (functionalStatus, ran))
    {i : Nat} {test : Validator.FunctionalTest} (hi : tests[i]? = some test)
    (hfailed : ∀ result, runFunctionalCommand test (launch i) n = some result →
      result.status = str "fail" ∧ result.required = true) :
  functionalStatus = str "fail"
  := by
  have hne : tests ≠ [] := by
    rintro rfl
    cases hi
  have hmem : (test, i) ∈ tests.zipIdx := List.mem_zipIdx_iff_getElem?.mpr hi
  have hpassed : ¬ (true = false ∨ attachStatus = str "fail" ∨ attachStatus = str "skipped") := by
    simp [hattach.1, hattach.2]
  rw [runFunctionalTests, if_neg hne, if_neg hpassed] at hrun
  simp only [Option.bind_eq_bind, Option.bind_eq_some_iff, Option.some_inj, Prod.mk.injEq] at hrun
  obtain ⟨results, hresults, hstatus, -⟩ := hrun
  obtain ⟨result, hresult, hcommand⟩ := exists_mem_of_mapM hresults hmem
  obtain ⟨hfail, hrequired⟩ := hfailed result hcommand
  rw [← hstatus, if_pos]
  rw [List.any_eq_true]
  refine ⟨result, hresult, ?_⟩
  rw [hfail, hrequired]
  rfl

/-- A test whose pipes or whose process cannot be made fails. -/
theorem failed_of_not_started {test result : Validator.FunctionalTest} (hrequired : test.required = true)
    {e : Str} {l : Launch} (hl : l = .pipeFailed e ∨ l = .forkFailed e)
    (h : runFunctionalCommand test l n = some result) :
  result.status = str "fail" ∧ result.required = true
  := by
  rw [runFunctionalCommand.eq_def] at h
  by_cases hcommand : test.command = []
  · rw [if_pos hcommand, Option.some_inj] at h
    rw [← h]
    exact ⟨rfl, hrequired⟩
  · rw [if_neg hcommand] at h
    rcases hl with rfl | rfl
    · rw [Option.some_inj] at h
      rw [← h]
      exact ⟨rfl, hrequired⟩
    · rw [Option.some_inj] at h
      rw [← h]
      exact ⟨rfl, hrequired⟩

/-- The test that stands for a plan that cannot be read fails. -/
theorem failed_of_unreadable {e : Str} {l : Launch} {result : Validator.FunctionalTest}
    (h : runFunctionalCommand (unreadablePlan e) l n = some result) :
  result.status = str "fail" ∧ result.required = true
  := by
  have hcommand : (unreadablePlan e).command = [] := rfl
  rw [runFunctionalCommand.eq_def, if_pos hcommand, Option.some_inj] at h
  rw [← h]
  exact ⟨rfl, rfl⟩

/-- A required test that was not executed makes the functional status a failure, unless the plan
was cut short. -/
theorem status_of_neverExecuted {plan path : Str} {file : Except Str Str} {cause : Cause}
    {test : Validator.FunctionalTest} (hpath : path ≠ [])
    (hattach : attachStatus ≠ str "fail" ∧ attachStatus ≠ str "skipped")
    (hrun : runFunctionalTests true attachStatus (loadFunctionalPlan (some path) file).2 launch n
      = some (functionalStatus, ran))
    (hrequired : test.required = true) (hnever : NeverExecuted plan launch cause file test)
    (hcause : cause ≠ .cutShort) :
  functionalStatus = str "fail"
  := by
  rw [loadFunctionalPlan_path hpath] at hrun
  cases hnever with
  | unopened e h =>
      exact status_of_failed hattach hrun (i := 0) rfl fun result => failed_of_unreadable
  | cutShort => contradiction
  | @wrongVersion _ contents version lines hlines hversion =>
      have hload : (loadFunctionalPlan (some (str "functional-plan.txt")) (.ok contents)).2
          = [unreadablePlan (str "unsupported functional plan version")] := by
        rw [loadFunctionalPlan.eq_def, Option.getD_some, if_neg (by decide)]
        simp only [hlines, if_pos hversion]
      rw [hload] at hrun
      exact status_of_failed hattach hrun (i := 0) rfl fun result => failed_of_unreadable
  | noPipe h hlaunch =>
      exact status_of_failed hattach hrun h fun result =>
        failed_of_not_started hrequired (.inl hlaunch)
  | noProcess h hlaunch =>
      exact status_of_failed hattach hrun h fun result =>
        failed_of_not_started hrequired (.inr hlaunch)

end

section

variable [UnicodeTables]

/-- The verdict about a target whose validator came to its end, load and attach having passed. -/
theorem verdict_of_reports {world : World} {cfg : Config} {staged : Staged}
    {matrixProfile : MatrixProfile} {exec : Vm.ExecutionResult} (hmode : ¬ commandMode cfg)
    (hexec : Executed world cfg staged matrixProfile exec)
    (hended : exec.status ≠ str "infra_error") {vr : ValidatorResult} (hread : Reads world exec vr)
    {attachStatus functionalStatus : Str} (hattach : attachStatus ≠ str "fail")
    (hreports : Reports vr true attachStatus functionalStatus) :
  (runTarget world cfg staged matrixProfile).verdict
    = if functionalStatus = str "fail" then verdictIncompatible else verdictCompatible
  := by
  have hverdict : (runTarget world cfg staged matrixProfile).verdict
      = verdictForStatus (executeTarget world cfg staged matrixProfile).target.status := rfl
  have hload : vr.load.status = str "pass" := hreports.load
  have hstatus := hreports.status
  rw [overallStatus, if_neg (by decide), if_neg hattach] at hstatus
  rw [hverdict, status_of_executed hexec]
  by_cases hfail : functionalStatus = str "fail"
  · rw [if_pos hfail] at hstatus
    have hfails : Fails world cfg exec := by
      rw [Fails, if_neg hmode]
      exact ⟨vr, hread, .inr hstatus⟩
    rw [establishedStatus_of_fails hended hfails, if_pos hfail]
    decide
  · rw [if_neg hfail] at hstatus
    have hpasses : Passes world cfg exec := by
      rw [Passes, if_neg hmode]
      exact ⟨vr, hread, hload, hstatus⟩
    rw [establishedStatus_of_passes hended hpasses, if_neg hfail]
    decide

/-- A required test that was never executed for a reason of the pipeline's own is never reported as
an error of the pipeline: the software is called incompatible, or, where the plan was cut short, is
judged by what was left of it. -/
theorem never_infra_error (world : World) (cfg : Config) (staged : Staged)
    (matrixProfile : MatrixProfile) (exec : Vm.ExecutionResult) (hmode : ¬ commandMode cfg)
    (hexec : Executed world cfg staged matrixProfile exec)
    (hended : exec.status ≠ str "infra_error") (vr : ValidatorResult) (hread : Reads world exec vr)
    (plan path : Str) (hpath : path ≠ []) (file : Except Str Str) (launch : Nat → Launch) (n : Nat)
    (attachStatus functionalStatus : Str) (ran : List Validator.FunctionalTest)
    (hattach : attachStatus ≠ str "fail" ∧ attachStatus ≠ str "skipped")
    (hrun : runFunctionalTests true attachStatus (loadFunctionalPlan (some path) file).2 launch n
      = some (functionalStatus, ran))
    (hreports : Reports vr true attachStatus functionalStatus) (cause : Cause)
    (test : Validator.FunctionalTest) (hrequired : test.required = true)
    (hnever : NeverExecuted plan launch cause file test) :
  (runTarget world cfg staged matrixProfile).verdict ≠ verdictInfraError
    ∧ (cause ≠ .cutShort → (runTarget world cfg staged matrixProfile).verdict = verdictIncompatible)
  := by
  have hverdict := verdict_of_reports hmode hexec hended hread hattach.1 hreports
  constructor
  · rw [hverdict]
    split_ifs
    · decide
    · decide
  · intro hcause
    rw [hverdict, if_pos (status_of_neverExecuted hpath hattach hrun hrequired hnever hcause)]

end

section

attribute [local instance] asciiTables

/-- The document of a run in which load and attach passed and a functional test failed. -/
def failedDocument : Str := str ("\x7b\"status\":\"fail\",\"load\":\x7b\"status\":\"pass\"\x7d,"
  ++ "\"attach\":\x7b\"status\":\"pass\"\x7d,\"functional\":\x7b\"status\":\"fail\"\x7d\x7d")

def failedResult : ValidatorResult where
  status := str "fail"
  load := { status := str "pass" }
  attach := { status := str "pass" }
  functional := { status := str "fail" }

/-- A world in which every profile is executed and leaves that document. -/
def failedWorld : World where
  profilePath := .ok
  loadProfile _ := .ok { distro := str "ubuntu", version := str "22.04", kernelFamily := str "5.15" }
  abs := .ok
  execute _ _ := { status := str "completed", validatorResultPath := str "/run/result.json" }
  files _ := .ok failedDocument
  explain _ := []
  classify _ := ⟨[], [], [], []⟩

def failedExecution : Vm.ExecutionResult where
  status := str "completed"
  validatorResultPath := str "/run/result.json"

theorem failedWorld_executed :
  Executed failedWorld {} {} { id := str "ubuntu-22.04" } failedExecution
  := ⟨_, .vm, ⟨_, rfl, rfl⟩, by decide, rfl⟩

theorem failedWorld_reads :
  Reads failedWorld failedExecution failedResult
  := by
  refine ⟨by decide, readValidatorResult_eq_ok_iff.mpr ⟨failedDocument, rfl, ?_⟩⟩
  decide +kernel

/-- A plan with one test. -/
def pingPlan : Str :=
  unlines [planVersion, str "BEGIN", str "name=ping", str "command=ping", str "END"]

theorem pingPlan_tests :
  { name := str "ping", command := str "ping" } ∈ planTests pingPlan
  := by
  decide +kernel

/-- The plan cannot be opened, and the software is called incompatible. -/
theorem never_infra_error_unopened :
  (runTarget failedWorld {} {} { id := str "ubuntu-22.04" }).verdict = verdictIncompatible
  := (never_infra_error failedWorld {} {} { id := str "ubuntu-22.04" } failedExecution (by decide)
    failedWorld_executed (by decide) failedResult failedWorld_reads pingPlan (str "/tmp/plan")
    (by decide) (.error (str "Permission denied")) (fun _ => .pipeFailed []) 0 (str "pass")
    (str "fail") _ (by decide) rfl ⟨rfl, rfl, rfl, rfl⟩ .unopened _ rfl
    (.unopened _ pingPlan_tests)).2 (by decide)

/-- It is not the case that such failures are reported as errors of the pipeline. -/
theorem pipeline_blames_software :
  ¬ ∀ (world : World) (cfg : Config) (staged : Staged) (matrixProfile : MatrixProfile)
      (exec : Vm.ExecutionResult), ¬ commandMode cfg →
    Executed world cfg staged matrixProfile exec → exec.status ≠ str "infra_error" →
    ∀ vr : ValidatorResult, Reads world exec vr → ∀ plan path : Str, path ≠ [] →
    ∀ (file : Except Str Str) (launch : Nat → Launch) (n : Nat)
      (functionalStatus : Str) (ran : List Validator.FunctionalTest),
    runFunctionalTests true (str "pass") (loadFunctionalPlan (some path) file).2 launch n
      = some (functionalStatus, ran) →
    Reports vr true (str "pass") functionalStatus → ∀ (cause : Cause)
      (test : Validator.FunctionalTest), test.required = true →
    NeverExecuted plan launch cause file test →
    (runTarget world cfg staged matrixProfile).verdict = verdictInfraError
  := by
  intro h
  have hreports : Reports failedResult true (str "pass") (str "fail") := ⟨rfl, rfl, rfl, rfl⟩
  have hinfra := h failedWorld {} {} { id := str "ubuntu-22.04" } failedExecution (by decide)
    failedWorld_executed (by decide) failedResult failedWorld_reads pingPlan (str "/tmp/plan")
    (by decide) (.error (str "Permission denied")) (fun _ => .pipeFailed []) 0 (str "fail") _ rfl
    hreports .unopened _ rfl (.unopened _ pingPlan_tests)
  rw [verdict_of_reports (by decide) failedWorld_executed (by decide) failedWorld_reads (by decide)
    hreports] at hinfra
  exact absurd hinfra (by decide)

end

end Runner
