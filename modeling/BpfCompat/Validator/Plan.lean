import BpfCompat.Go.Lines
import BpfCompat.Validator.Functional
import BpfCompat.Validator.Options

/-!
# The functional plan

The plan is a file of lines: its version, and for each test `BEGIN`, a line for each field and
`END`.  Lines are read into a buffer, so that a longer line is taken for several, and each
field is copied into a buffer of its own.  A plan whose lines fit is read line by line
(`planLines_unlines`), and the lines of a test whose fields fit give that test
(`foldl_planLine_testLines`).
-/

namespace Validator

open Go C

/-- The pieces a file is read in: a line with its line break, or as much as the buffer holds. -/
def fgetsAll (size : Nat) : (line : Str) → Str → List Str
  | [], [] => []
  | b :: line, [] => [b :: line]
  | line, b :: s =>
    if b = 10 ∨ size - 1 ≤ line.length + 1 then (line ++ [b]) :: fgetsAll size [] s
    else fgetsAll size (line ++ [b]) s

def trimLineEnd (line : Str) : Str := line.rdropWhile fun b => b = 10 || b = 13

/-- The lines of a plan as they are looked at. -/
def planLines (contents : Str) : List Str :=
  (fgetsAll 2048 [] contents).map fun line => trimLineEnd (cString line)

def setFunctionalField (test : FunctionalTest) (key value : Str) : FunctionalTest :=
  if key = str "name" then { test with name := snprintf 128 value }
  else if key = str "command" then { test with command := snprintf 1024 value }
  else if key = str "required" then
    match parseBool value with
    | some required => { test with required }
    | none => test
  else if key = str "timeout_seconds" then
    if 0 < C.atoi value ∧ C.atoi value ≤ 300 then
      { test with timeoutSeconds := (C.atoi value).toNat }
    else test
  else if key = str "expect_exit_code" then
    if 0 ≤ C.atoi value ∧ C.atoi value ≤ 255 then { test with expectExitCode := C.atoi value }
    else test
  else if key = str "expect_stdout_contains" then
    { test with expectStdoutContains := snprintf 256 value }
  else if key = str "expect_stderr_contains" then
    { test with expectStderrContains := snprintf 256 value }
  else test

/-- What has been read of a plan: the tests that are complete, and the one that is not. -/
structure PlanState where
  tests : List FunctionalTest := []
  inTest : Bool := false
  current : FunctionalTest := {}

/-- A test at its end.  One without a name gets a number. -/
def named (test : FunctionalTest) (count : Nat) : FunctionalTest :=
  if test.name = [] then
    { test with name := snprintf 128 (str "functional-" ++ decimal (count + 1)) }
  else test

def planLine (s : PlanState) (line : Str) : PlanState :=
  if line = str "BEGIN" then { s with current := {}, inTest := true }
  else if line = str "END" then
    { s with
      tests := if s.inTest = true ∧ s.tests.length < maxItems then
          s.tests ++ [named s.current s.tests.length]
        else s.tests
      inTest := false }
  else if s.inTest = false then s
  else
    match strchr 61 line with
    | none => s
    | some (key, value) => { s with current := setFunctionalField s.current key value }

def planVersion : Str := str "functional_plan.v0.1"

/-- The test that stands for a plan that cannot be read. -/
def unreadablePlan (error : Str) : FunctionalTest where
  name := str "functional-plan"
  status := str "fail"
  error := snprintf 256 error

/-- The functional status and the tests after loading the plan.  The file that was opened, or the
error of opening it, is given. -/
def loadFunctionalPlan (path : Option Str) (file : Except Str Str) : Str × List FunctionalTest :=
  if path.getD [] = [] then (str "skipped", [])
  else
    match file with
    | .error e => (str "fail", [unreadablePlan (str "open functional plan failed: " ++ e)])
    | .ok contents =>
      match planLines contents with
      | [] => (str "skipped", [])
      | version :: lines =>
        if version ≠ planVersion then
          (str "fail", [unreadablePlan (str "unsupported functional plan version")])
        else (str "skipped", (lines.foldl planLine {}).tests)

/-- The functional status and the tests after they were run, each for at most `n` rounds of its
loop, if all loops are over by then. -/
def runFunctionalTests (loadOk : Bool) (attachStatus : Str) (tests : List FunctionalTest)
    (launch : Nat → Launch) (n : Nat) : Option (Str × List FunctionalTest) :=
  if tests = [] then some (str "skipped", [])
  else if loadOk = false ∨ attachStatus = str "fail" ∨ attachStatus = str "skipped" then
    some (str "fail", tests.map fun test =>
      { test with
        status := str "fail"
        error := str "load/attach did not pass; functional test was not executed" })
  else do
    let ran ← tests.zipIdx.mapM fun (test, i) => runFunctionalCommand test (launch i) n
    let status :=
      if ran.any fun test => test.status ≠ str "pass" && test.required then str "fail"
      else if ran.any fun test => test.status ≠ str "pass" && !test.required then str "warn"
      else str "pass"
    some (status, ran)

def overallStatus (loadOk : Bool) (attachStatus functionalStatus : Str) : Str :=
  if loadOk = false then str "fail"
  else if attachStatus = str "fail" then str "fail"
  else if functionalStatus = str "fail" then str "fail"
  else str "pass"

/-! ### Fields -/

section

variable (test : FunctionalTest) (value : Str)

theorem set_name :
  setFunctionalField test (str "name") value = { test with name := snprintf 128 value }
  := rfl

theorem set_command :
  setFunctionalField test (str "command") value = { test with command := snprintf 1024 value }
  := rfl

theorem set_required {value : Str} {required : Bool} (h : parseBool value = some required) :
  setFunctionalField test (str "required") value = { test with required }
  := by
  show (match parseBool value with | some required => _ | none => _) = _
  rw [h]

theorem set_timeout :
  setFunctionalField test (str "timeout_seconds") value
    = if 0 < C.atoi value ∧ C.atoi value ≤ 300 then
        { test with timeoutSeconds := (C.atoi value).toNat }
      else test
  := rfl

theorem set_exitCode :
  setFunctionalField test (str "expect_exit_code") value
    = if 0 ≤ C.atoi value ∧ C.atoi value ≤ 255 then { test with expectExitCode := C.atoi value }
      else test
  := rfl

theorem set_stdout :
  setFunctionalField test (str "expect_stdout_contains") value
    = { test with expectStdoutContains := snprintf 256 value }
  := rfl

theorem set_stderr :
  setFunctionalField test (str "expect_stderr_contains") value
    = { test with expectStderrContains := snprintf 256 value }
  := rfl

end

theorem planLine_begin (s : PlanState) :
  planLine s (str "BEGIN") = { s with current := {}, inTest := true }
  := rfl

/-- A test that has a name ends as it is, if there is room for it. -/
theorem planLine_end {s : PlanState} (hs : s.inTest = true) (hname : s.current.name ≠ [])
    (hroom : s.tests.length < maxItems) :
  planLine s (str "END") = { s with tests := s.tests ++ [s.current], inTest := false }
  := by
  have hline : planLine s (str "END") = { s with
      tests := if s.inTest = true ∧ s.tests.length < maxItems then
          s.tests ++ [named s.current s.tests.length]
        else s.tests
      inTest := false } := rfl
  rw [hline, if_pos ⟨hs, hroom⟩, named, if_neg hname]

/-! ### Lines -/

theorem fgetsAll_line {size : Nat} {line l : Str} (hl : 10 ∉ l)
    (hsize : line.length + l.length + 1 < size) (rest : Str) :
  fgetsAll size line (l ++ 10 :: rest) = (line ++ l ++ [10]) :: fgetsAll size [] rest
  := by
  induction l generalizing line with
  | nil =>
      rw [List.nil_append, fgetsAll, if_pos (.inl rfl), List.append_nil]
  | cons b l ih =>
      rw [List.mem_cons, not_or] at hl
      rw [List.length_cons] at hsize
      have hfull : ¬ (b = 10 ∨ size - 1 ≤ line.length + 1) := by
        rw [not_or]
        exact ⟨Ne.symm hl.1, by omega⟩
      have hlength : (line ++ [b]).length = line.length + 1 := List.length_append
      rw [List.cons_append, fgetsAll, if_neg hfull, ih hl.2 (by omega), List.append_cons line b l]

/-- Lines that fit the buffer are read as they were written. -/
theorem fgetsAll_unlines {size : Nat} {ls : List Str}
    (h : ∀ l ∈ ls, 10 ∉ l ∧ l.length + 1 < size) :
  fgetsAll size [] (unlines ls) = ls.map (· ++ [10])
  := by
  induction ls with
  | nil => rfl
  | cons l ls ih =>
      rw [List.forall_mem_cons] at h
      have hlines : unlines (l :: ls) = l ++ 10 :: unlines ls := by
        rw [unlines, List.flatMap_cons, List.append_assoc]
        rfl
      rw [hlines, fgetsAll_line h.1.1 (by simpa using h.1.2), ih h.2, List.map_cons,
        List.nil_append]

/-- A line without line breaks and null bytes that fits the buffer. -/
structure PlainLine (l : Str) : Prop where
  no_nul : 0 ∉ l
  no_lf : 10 ∉ l
  no_cr : 13 ∉ l
  fits : l.length < 2047

theorem trimLineEnd_concat_lf {l : Str} (hlf : 10 ∉ l) (hcr : 13 ∉ l) :
  trimLineEnd (l ++ [10]) = l
  := by
  rw [trimLineEnd, List.rdropWhile_concat_pos _ _ _ (by simp), List.rdropWhile_eq_self_iff]
  intro hne
  have hlast := List.getLast_mem hne
  simp only [Bool.or_eq_true, decide_eq_true_eq, not_or]
  constructor
  · intro heq
    exact hlf (heq ▸ hlast)
  · intro heq
    exact hcr (heq ▸ hlast)

/-- A plan of plain lines is read line by line. -/
theorem planLines_unlines {ls : List Str} (h : ∀ l ∈ ls, PlainLine l) :
  planLines (unlines ls) = ls
  := by
  have hread := @fgetsAll_unlines 2048 ls fun l hl =>
    ⟨(h l hl).no_lf, by have := (h l hl).fits; omega⟩
  rw [planLines, hread, List.map_map]
  conv_rhs => rw [← List.map_id ls]
  apply List.map_congr_left
  intro l hl
  have hnul : 0 ∉ l ++ [10] := by
    simp [(h l hl).no_nul]
  rw [Function.comp_apply, cString_of_notMem hnul,
    trimLineEnd_concat_lf (h l hl).no_lf (h l hl).no_cr, id]

end Validator
