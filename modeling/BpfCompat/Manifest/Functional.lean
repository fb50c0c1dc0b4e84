import BpfCompat.Go.Duration
import BpfCompat.Manifest

/-!
# Functional tests in manifests

A functional test is a command to run next to the loaded program, with what it is expected
to print and to end with.
-/

namespace Manifest

open Go

structure FunctionalTest where
  name : Str
  command : Str
  required : Option Bool := none
  timeout : Str := []
  expectExitCode : Option Int := none
  expectStdoutContains : Str := []
  expectStderrContains : Str := []
deriving DecidableEq

def hasLineBreak (value : Str) : Bool := value.any fun b => b = 13 || b = 10

def second : Int := 1000000000

section

variable [Fractions]

/-- The error of a timeout that is given and is not positive or is longer than five minutes. -/
def validateTimeout (subject timeout : Str) : Except Str Unit :=
  if trimSpace timeout = [] then .ok ()
  else
    match parseDuration timeout with
    | .error e => .error (subject ++ str ".timeout is invalid: " ++ e)
    | .ok d => do
      reject (d ≤ 0) (subject ++ str ".timeout must be positive")
      reject (5 * 60 * second < d) (subject ++ str ".timeout must be <= 5m")

theorem validateTimeout_ok {subject timeout : Str} (h : validateTimeout subject timeout = .ok ()) :
  trimSpace timeout = [] ∨ ∃ d, parseDuration timeout = .ok d ∧ 0 < d ∧ d ≤ 5 * 60 * second
  := by
  rw [validateTimeout] at h
  by_cases hnone : trimSpace timeout = []
  · exact .inl hnone
  · rw [if_neg hnone] at h
    cases hd : parseDuration timeout with
    | error e =>
        rw [hd] at h
        contradiction
    | ok d =>
        simp only [hd, check_bind_eq_ok_iff, reject_ok, not_le, not_lt] at h
        exact .inr ⟨d, rfl, h.1, h.2⟩

variable [UnicodeTables]

def validateFunctionalTest (seen : List Str) (i : Nat) (test : FunctionalTest) : Except Str Unit := do
  let subject := entryAt "functional_tests" i
  reject (trimSpace test.name = []) (subject ++ str ".name is required")
  reject (hasLineBreak test.name = true) (subject ++ str ".name must be single-line")
  reject (test.name ∈ seen) (str "duplicate functional test " ++ quote test.name)
  reject (trimSpace test.command = []) (subject ++ str ".command is required")
  reject (hasLineBreak test.command = true) (subject ++ str ".command must be single-line")
  reject (1000 < test.command.length) (subject ++ str ".command is too long")
  reject (hasLineBreak test.expectStdoutContains = true ∨ hasLineBreak test.expectStderrContains = true)
    (subject ++ str " expectations must be single-line")
  validateTimeout subject test.timeout
  reject (∃ code ∈ test.expectExitCode, code < 0 ∨ 255 < code)
    (subject ++ str ".expect_exit_code must be between 0 and 255")

def validateFunctionalTests (seen : List Str) (i : Nat) : List FunctionalTest → Except Str Unit
  | [] => .ok ()
  | test :: rest => do
    validateFunctionalTest seen i test
    validateFunctionalTests (test.name :: seen) (i + 1) rest

/-! ### What is accepted -/

/-- What validation asks of a functional test on its own. -/
structure ValidFunctionalTest (test : FunctionalTest) : Prop where
  name_ne_nil : trimSpace test.name ≠ []
  name_line : hasLineBreak test.name = false
  command_ne_nil : trimSpace test.command ≠ []
  command_line : hasLineBreak test.command = false
  command_fits : test.command.length ≤ 1000
  stdout_line : hasLineBreak test.expectStdoutContains = false
  stderr_line : hasLineBreak test.expectStderrContains = false
  timeout : trimSpace test.timeout = []
    ∨ ∃ d, parseDuration test.timeout = .ok d ∧ 0 < d ∧ d ≤ 5 * 60 * second
  exitCode : ∀ code ∈ test.expectExitCode, 0 ≤ code ∧ code ≤ 255

theorem validateFunctionalTest_ok {seen : List Str} {i : Nat} {test : FunctionalTest}
    (h : validateFunctionalTest seen i test = .ok ()) :
  ValidFunctionalTest test ∧ test.name ∉ seen
  := by
  simp only [validateFunctionalTest, check_bind_eq_ok_iff, reject_ok, Bool.not_eq_true, not_or,
    not_lt] at h
  obtain ⟨hname, hnameLine, hseen, hcommand, hcommandLine, hfits, ⟨hstdout, hstderr⟩, htimeout,
    hcode⟩ := h
  refine ⟨⟨hname, hnameLine, hcommand, hcommandLine, hfits, hstdout, hstderr,
    validateTimeout_ok htimeout, ?_⟩, hseen⟩
  intro code hsome
  by_contra hbad
  exact hcode ⟨code, hsome, by omega⟩

theorem validateFunctionalTests_ok {seen : List Str} {i : Nat} {tests : List FunctionalTest}
    (h : validateFunctionalTests seen i tests = .ok ()) :
  ∀ test ∈ tests, ValidFunctionalTest test
  := by
  induction tests generalizing seen i with
  | nil => simp
  | cons test rest ih =>
      rw [validateFunctionalTests, check_bind_eq_ok_iff] at h
      rw [List.forall_mem_cons]
      exact ⟨(validateFunctionalTest_ok h.1).1, ih h.2⟩

end

end Manifest
