import BpfCompat.Manifest.Functional
import BpfCompat.Validator.Plan

/-!
# Functional tests on their way to the validator

The runner writes the functional tests of a manifest into a plan, and the validator loads the
plan.  Texts are trimmed and timeouts rounded up to seconds on the way; apart from that the
tests come back as they are declared, as long as their texts fit the validator's buffers
(`plan_round_trip`).
-/

namespace Runner

open Go Manifest

/-! ### Writing the plan -/

def functionalPlanVersion : Str := str "functional_plan.v0.1"

section

variable [Fractions]

def functionalTimeoutSeconds (raw : Str) : Except Str Int :=
  if trimSpace raw = [] then .ok 10
  else do
    let timeout ← parseDuration (trimSpace raw)
    if timeout ≤ 0 then .error (str "must be positive")
    else
      let seconds := ((timeout + second - 1).bmod (2 ^ 64)).tdiv second
      .ok (if seconds < 1 then 1 else seconds)

/-- A field of a test, without its line break. -/
def planKV (key : String) (value : Str) : Str := str key ++ str "=" ++ trimSpace value

/-- The fields of a test in the order they are written. -/
def testFields (test : Manifest.FunctionalTest) (timeoutSeconds : Int) : List (String × Str) :=
  [("name", test.name),
    ("required", formatBool (test.required.getD true)),
    ("timeout_seconds", itoa timeoutSeconds),
    ("expect_exit_code", itoa (test.expectExitCode.getD 0)),
    ("expect_stdout_contains", test.expectStdoutContains),
    ("expect_stderr_contains", test.expectStderrContains),
    ("command", test.command)]

def testLines (test : Manifest.FunctionalTest) (timeoutSeconds : Int) : List Str :=
  str "BEGIN" :: (testFields test timeoutSeconds).map (fun field => planKV field.1 field.2)
    ++ [str "END"]

variable [UnicodeTables]

/-- The lines of the tests, up to one whose timeout is not valid. -/
def testsLines : List Manifest.FunctionalTest → Except Str (List Str)
  | [] => .ok []
  | test :: tests =>
    match functionalTimeoutSeconds test.timeout with
    | .error e => .error (str "functional test " ++ quote test.name ++ str " timeout: " ++ e)
    | .ok timeoutSeconds => do
      let rest ← testsLines tests
      .ok (testLines test timeoutSeconds ++ rest)

/-- The text of the plan that is written, if there are tests.  The errors of creating its directory
and of writing it are given. -/
def writeFunctionalPlan (mkdirError writeError : Option Str) (tests : List Manifest.FunctionalTest) :
    Except Str (Option Str) :=
  if tests = [] then .ok none
  else if 32 < tests.length then .error (str "too many functional tests: max 32")
  else
    match mkdirError with
    | some e => .error (str "create functional plan directory: " ++ e)
    | none => do
      let lines ← testsLines tests
      match writeError with
      | some e => .error (str "write functional plan: " ++ e)
      | none => .ok (some (unlines (functionalPlanVersion :: lines)))

end

/-! ### What is declared -/

section

variable [Fractions]

/-- A timeout rounded up to seconds, ten if none is given. -/
def declaredTimeout (timeout : Str) : Nat :=
  match parseDuration timeout with
  | .ok d => ((d + second - 1) / second).toNat
  | .error _ => 10

/-- A test as it is declared, with its texts trimmed. -/
def declaredTest (test : Manifest.FunctionalTest) : Validator.FunctionalTest where
  name := trimSpace test.name
  command := trimSpace test.command
  required := test.required.getD true
  timeoutSeconds := declaredTimeout test.timeout
  expectExitCode := test.expectExitCode.getD 0
  expectStdoutContains := trimSpace test.expectStdoutContains
  expectStderrContains := trimSpace test.expectStderrContains

/-- A timeout to the nanosecond, ten seconds if none is given. -/
def exactTimeout (timeout : Str) : Int :=
  match parseDuration timeout with
  | .ok d => d
  | .error _ => 10 * second

/-- A test was loaded exactly as it is declared. -/
def SameTest (loaded : Validator.FunctionalTest) (test : Manifest.FunctionalTest) : Prop :=
  loaded.name = test.name ∧ loaded.command = test.command
    ∧ loaded.required = test.required.getD true
    ∧ loaded.timeoutSeconds * second = exactTimeout test.timeout
    ∧ loaded.expectExitCode = test.expectExitCode.getD 0
    ∧ loaded.expectStdoutContains = test.expectStdoutContains
    ∧ loaded.expectStderrContains = test.expectStderrContains

end

/-- The texts of a test have no null bytes and fit the buffers. -/
structure Carried (test : Manifest.FunctionalTest) : Prop where
  name : 0 ∉ test.name ∧ (trimSpace test.name).length ≤ 127
  command : 0 ∉ test.command
  stdout : 0 ∉ test.expectStdoutContains ∧ (trimSpace test.expectStdoutContains).length ≤ 255
  stderr : 0 ∉ test.expectStderrContains ∧ (trimSpace test.expectStderrContains).length ≤ 255

/-! ### Timeouts -/

section

variable [Fractions]

/-- The timeout of an accepted test, in seconds. -/
theorem functionalTimeoutSeconds_eq {timeout : Str}
    (h : trimSpace timeout = []
      ∨ ∃ d, parseDuration timeout = .ok d ∧ 0 < d ∧ d ≤ 5 * 60 * second) :
  functionalTimeoutSeconds timeout = .ok (declaredTimeout timeout : Int)
    ∧ 0 < declaredTimeout timeout ∧ declaredTimeout timeout ≤ 300
  := by
  have hsecond : second = 1000000000 := rfl
  rw [functionalTimeoutSeconds]
  by_cases hblank : trimSpace timeout = []
  · have hten : declaredTimeout timeout = 10 := by
      rw [declaredTimeout]
      cases hd : parseDuration timeout with
      | error e => rfl
      | ok d =>
          rw [trimSpace_of_parseDuration hd] at hblank
          rw [hblank] at hd
          contradiction
    rw [if_pos hblank, hten]
    exact ⟨rfl, by decide, by decide⟩
  · obtain ⟨d, hd, hpos, hle⟩ := h.resolve_left hblank
    have hdeclared : declaredTimeout timeout = ((d + second - 1) / second).toNat := by
      rw [declaredTimeout, hd]
    have hdiv : 0 < (d + second - 1) / second ∧ (d + second - 1) / second ≤ 300 := by
      rw [hsecond] at hle ⊢
      omega
    have hmod : (d + second - 1).bmod (2 ^ 64) = d + second - 1 := by
      rw [hsecond] at hle ⊢
      exact Int.bmod_eq_of_le (by omega) (by omega)
    rw [if_neg hblank, trimSpace_of_parseDuration hd, hd, hdeclared]
    refine ⟨?_, by omega, by omega⟩
    show (if d ≤ 0 then _ else _) = _
    rw [if_neg (by omega), hmod, Int.tdiv_eq_ediv_of_nonneg (by rw [hsecond]; omega),
      if_neg (by omega), Int.toNat_of_nonneg (by omega)]

end

/-! ### Fields -/

/-- A field of a test that is being read. -/
theorem planLine_planKV {s : Validator.PlanState} (hs : s.inTest = true) {key : String}
    (hkey : 61 ∉ str key) (value : Str) :
  Validator.planLine s (planKV key value)
    = { s with current := Validator.setFunctionalField s.current (str key) (trimSpace value) }
  := by
  have hline : planKV key value = str key ++ 61 :: trimSpace value := by
    rw [planKV, List.append_assoc]
    rfl
  have hmem : 61 ∈ planKV key value := by
    rw [hline]
    simp
  have hbegin : planKV key value ≠ str "BEGIN" := by
    intro h
    rw [h] at hmem
    exact absurd hmem (by decide)
  have hend : planKV key value ≠ str "END" := by
    intro h
    rw [h] at hmem
    exact absurd hmem (by decide)
  rw [Validator.planLine, if_neg hbegin, if_neg hend, if_neg (by simp [hs]), hline,
    C.strchr_append_cons hkey]

theorem foldl_planKV {s : Validator.PlanState} (hs : s.inTest = true) {fields : List (String × Str)}
    (h : ∀ field ∈ fields, 61 ∉ str field.1) :
  (fields.map fun field => planKV field.1 field.2).foldl Validator.planLine s
    = { s with
        current := fields.foldl
          (fun test field => Validator.setFunctionalField test (str field.1) (trimSpace field.2))
          s.current }
  := by
  induction fields generalizing s with
  | nil => rfl
  | cons field fields ih =>
      rw [List.forall_mem_cons] at h
      rw [List.map_cons, List.foldl_cons, planLine_planKV hs h.1, List.foldl_cons]
      exact @ih { s with current := _ } hs h.2

/-- A value that can stand on a line. -/
structure PlainValue (value : Str) : Prop where
  no_nul : 0 ∉ value
  line : hasLineBreak value = false
  fits : (trimSpace value).length ≤ 1000

theorem plainValue_of_isDecimal {value : Str} (h : ∀ b ∈ value, isDecimal b = true)
    (hlength : value.length ≤ 3) :
  PlainValue value
  := by
  refine ⟨fun hmem => absurd (h _ hmem) (by decide), ?_, (length_trimSpace_le value).trans (by omega)⟩
  rw [hasLineBreak, List.any_eq_false]
  intro b hb hbreak
  have hdigit := h b hb
  simp only [Bool.or_eq_true, decide_eq_true_eq] at hbreak
  rcases hbreak with rfl | rfl
  · contradiction
  · contradiction

theorem length_decimal_le {n : Nat} (h : n ≤ 300) :
  (decimal n).length ≤ 3
  := by
  rw [decimal]
  split_ifs with hn
  · decide
  · rw [List.length_reverse, List.length_map]
    exact (Nat.digits_length_le_iff (by decide) n).mpr (by omega)

theorem plainLine_planKV {key : String} (hkey : 0 ∉ str key ∧ 10 ∉ str key ∧ 13 ∉ str key)
    (hlength : (str key).length ≤ 22) {value : Str} (h : PlainValue value) :
  Validator.PlainLine (planKV key value)
  := by
  have hvalue : ∀ b ∈ trimSpace value, b ≠ 0 ∧ b ≠ 10 ∧ b ≠ 13 := by
    intro b hb
    have hmem := mem_of_mem_trimSpace hb
    have hline := List.any_eq_false.mp h.line b hmem
    simp only [Bool.or_eq_true, decide_eq_true_eq, not_or] at hline
    exact ⟨fun hzero => h.no_nul (hzero ▸ hmem), hline.2, hline.1⟩
  have hbyte (b : UInt8) (hb : b ∉ str key) (heq : b ∉ str "=") (hv : b ∉ trimSpace value) :
      b ∉ planKV key value := by
    rw [planKV]
    simp [hb, heq, hv]
  have hfits := h.fits
  exact {
    no_nul := hbyte 0 hkey.1 (by decide) fun hmem => (hvalue 0 hmem).1 rfl
    no_lf := hbyte 10 hkey.2.1 (by decide) fun hmem => (hvalue 10 hmem).2.1 rfl
    no_cr := hbyte 13 hkey.2.2 (by decide) fun hmem => (hvalue 13 hmem).2.2 rfl
    fits := by
      rw [planKV, List.length_append, List.length_append]
      show (str key).length + 1 + _ < 2047
      omega }

/-- The keys of the fields hold no separator and are short. -/
theorem testFields_keys (test : Manifest.FunctionalTest) (timeoutSeconds : Int) :
  ∀ field ∈ testFields test timeoutSeconds, 61 ∉ str field.1
    ∧ (0 ∉ str field.1 ∧ 10 ∉ str field.1 ∧ 13 ∉ str field.1) ∧ (str field.1).length ≤ 22
  := by
  have hkeys : ∀ key ∈ (testFields test timeoutSeconds).map Prod.fst, 61 ∉ str key
      ∧ (0 ∉ str key ∧ 10 ∉ str key ∧ 13 ∉ str key) ∧ (str key).length ≤ 22 := by
    rw [testFields]
    simp only [List.map_cons, List.map_nil]
    decide
  intro field hfield
  exact hkeys field.1 (List.mem_map_of_mem hfield)

theorem itoa_natCast (n : Nat) :
  itoa n = decimal n
  := by
  rw [itoa, if_neg (by omega), Int.natAbs_natCast]

theorem trimSpace_itoa (n : Nat) :
  trimSpace (itoa n) = decimal n
  := by
  rw [itoa_natCast]
  apply trimSpace_of_graphic
  intro b hb
  exact graphic_of_isDecimal (isDecimal_of_mem_decimal hb)

theorem parseBool_formatBool (b : Bool) :
  Validator.parseBool (trimSpace (formatBool b)) = some b
  := by
  cases b
  · decide
  · decide

section

variable [Fractions] {test : Manifest.FunctionalTest} (hvalid : ValidFunctionalTest test)
  (hcarried : Carried test)

include hvalid

theorem exitCode_cases :
  ∃ code : Nat, test.expectExitCode.getD 0 = code ∧ code ≤ 255
  := by
  rcases hsome : test.expectExitCode with - | code
  · exact ⟨0, rfl, by decide⟩
  · obtain ⟨hnonneg, hmax⟩ := hvalid.exitCode code hsome
    exact ⟨code.toNat, by simp [hnonneg], by omega⟩

include hcarried

/-- The lines of a test that fits are read as that test. -/
theorem foldl_planLine_testLines {s : Validator.PlanState} (hroom : s.tests.length < 64) :
  (testLines test (declaredTimeout test.timeout)).foldl Validator.planLine s
    = { tests := s.tests ++ [declaredTest test], inTest := false, current := declaredTest test }
  := by
  obtain ⟨-, hpos, hle⟩ := functionalTimeoutSeconds_eq hvalid.timeout
  have htimeout : C.atoi (decimal (declaredTimeout test.timeout)) = declaredTimeout test.timeout :=
    C.atoi_decimal (by omega)
  obtain ⟨code, hcode, hcodeLe⟩ := exitCode_cases hvalid
  have hexit : C.atoi (decimal code) = code := C.atoi_decimal (by omega)
  have hfields : (testFields test (declaredTimeout test.timeout)).foldl
      (fun test field => Validator.setFunctionalField test (str field.1) (trimSpace field.2)) {}
      = declaredTest test := by
    have hname := C.snprintf_of_lt (Nat.lt_succ_of_le hcarried.name.2)
    have hstdout := C.snprintf_of_lt (Nat.lt_succ_of_le hcarried.stdout.2)
    have hstderr := C.snprintf_of_lt (Nat.lt_succ_of_le hcarried.stderr.2)
    have hcommand := @C.snprintf_of_lt 1024 (trimSpace test.command)
      (lt_of_le_of_lt (length_trimSpace_le _) (by have := hvalid.command_fits; omega))
    simp only [testFields, List.foldl_cons, List.foldl_nil, Validator.set_name,
      Validator.set_required _ (parseBool_formatBool _), hcode, trimSpace_itoa, Validator.set_timeout,
      Validator.set_exitCode, Validator.set_stdout, Validator.set_stderr, Validator.set_command,
      hname, hstdout, hstderr, hcommand, htimeout, hexit]
    rw [if_pos (by omega), if_pos (by omega), declaredTest, hcode, Int.toNat_natCast]
  rw [testLines, List.cons_append, List.foldl_cons, List.foldl_append, Validator.planLine_begin,
    foldl_planKV rfl fun field hfield => (testFields_keys _ _ field hfield).1, hfields, List.foldl_cons, List.foldl_nil]
  exact @Validator.planLine_end ⟨s.tests, true, declaredTest test⟩ rfl hvalid.name_ne_nil hroom

/-- The lines of a test that fits are plain. -/
theorem testLines_plain :
  ∀ l ∈ testLines test (declaredTimeout test.timeout), Validator.PlainLine l
  := by
  obtain ⟨-, -, hle⟩ := functionalTimeoutSeconds_eq hvalid.timeout
  obtain ⟨code, hcode, hcodeLe⟩ := exitCode_cases hvalid
  have hnumber {n : Nat} (hn : n ≤ 300) : PlainValue (itoa n) := by
    rw [itoa_natCast]
    exact plainValue_of_isDecimal (fun b hb => isDecimal_of_mem_decimal hb) (length_decimal_le hn)
  have hbool (b : Bool) : PlainValue (formatBool b) := by
    cases b
    · exact ⟨by decide, by decide, by decide⟩
    · exact ⟨by decide, by decide, by decide⟩
  have hfields : ∀ field ∈ testFields test (declaredTimeout test.timeout), PlainValue field.2 := by
    simp only [testFields, List.forall_mem_cons, List.not_mem_nil, false_implies, implies_true,
      and_true, hcode]
    exact ⟨⟨hcarried.name.1, hvalid.name_line, hcarried.name.2.trans (by decide)⟩, hbool _,
      hnumber hle, hnumber (by omega),
      ⟨hcarried.stdout.1, hvalid.stdout_line, hcarried.stdout.2.trans (by decide)⟩,
      ⟨hcarried.stderr.1, hvalid.stderr_line, hcarried.stderr.2.trans (by decide)⟩,
      ⟨hcarried.command, hvalid.command_line, (length_trimSpace_le _).trans hvalid.command_fits⟩⟩
  intro l hl
  rw [testLines, List.cons_append, List.mem_cons, List.mem_append, List.mem_map,
    List.mem_singleton] at hl
  rcases hl with rfl | ⟨field, hfield, rfl⟩ | rfl
  · exact ⟨by decide, by decide, by decide, by decide⟩
  · obtain ⟨-, hkey, hlength⟩ := testFields_keys _ _ field hfield
    exact plainLine_planKV hkey hlength (hfields field hfield)
  · exact ⟨by decide, by decide, by decide, by decide⟩

end

/-- A plan of plain lines is loaded by reading its lines in order. -/
theorem loadFunctionalPlan_unlines {path : Str} (hpath : path ≠ []) {ls : List Str}
    (h : ∀ l ∈ ls, Validator.PlainLine l) :
  Validator.loadFunctionalPlan (some path) (.ok (unlines (functionalPlanVersion :: ls)))
    = (str "skipped", (ls.foldl Validator.planLine {}).tests)
  := by
  have hlines : Validator.planLines (unlines (functionalPlanVersion :: ls))
      = functionalPlanVersion :: ls := by
    apply Validator.planLines_unlines
    rw [List.forall_mem_cons]
    exact ⟨⟨by decide, by decide, by decide, by decide⟩, h⟩
  rw [Validator.loadFunctionalPlan, Option.getD_some, if_neg hpath]
  simp only [hlines]
  rw [if_neg (by decide)]

section

variable [Fractions] [UnicodeTables]

/-- The plan of accepted tests that fit. -/
theorem testsLines_spec {tests : List Manifest.FunctionalTest}
    (h : ∀ test ∈ tests, ValidFunctionalTest test ∧ Carried test) :
  ∃ ls, testsLines tests = .ok ls ∧ (∀ l ∈ ls, Validator.PlainLine l)
    ∧ ∀ s : Validator.PlanState, s.tests.length + tests.length ≤ 64 →
      (ls.foldl Validator.planLine s).tests = s.tests ++ tests.map declaredTest
  := by
  induction tests with
  | nil => exact ⟨[], rfl, by simp, by simp⟩
  | cons test tests ih =>
      rw [List.forall_mem_cons] at h
      obtain ⟨⟨hvalid, hcarried⟩, hrest⟩ := h
      obtain ⟨ls, hls, hplain, hfold⟩ := ih hrest
      refine ⟨testLines test (declaredTimeout test.timeout) ++ ls, ?_, ?_, ?_⟩
      · rw [testsLines, (functionalTimeoutSeconds_eq hvalid.timeout).1, hls]
        rfl
      · intro l hl
        rcases List.mem_append.mp hl with hl | hl
        · exact testLines_plain hvalid hcarried l hl
        · exact hplain l hl
      · intro s hroom
        rw [List.length_cons] at hroom
        have hlength : (s.tests ++ [declaredTest test]).length = s.tests.length + 1 :=
          List.length_append
        rw [List.foldl_append, foldl_planLine_testLines hvalid hcarried (by omega),
          hfold _ (by rw [hlength]; omega), List.map_cons, ← List.append_cons]

/-- Functional tests survive the way from the manifest to the validator: at most 32 accepted tests
whose texts fit come back in order, with their texts trimmed and their timeouts rounded up to
seconds. -/
theorem plan_round_trip (tests : List Manifest.FunctionalTest)
    (hvalid : validateFunctionalTests [] 0 tests = .ok ()) (hcount : tests.length ≤ 32)
    (hcarried : ∀ test ∈ tests, Carried test) (path : Str) (hpath : path ≠ []) :
  ∃ plan, writeFunctionalPlan none none tests = .ok plan
    ∧ Validator.loadFunctionalPlan (plan.map fun _ => path) (.ok (plan.getD []))
      = (str "skipped", tests.map declaredTest)
  := by
  obtain ⟨ls, hls, hplain, hfold⟩ := testsLines_spec fun test htest =>
    ⟨validateFunctionalTests_ok hvalid test htest, hcarried test htest⟩
  rw [writeFunctionalPlan]
  by_cases hnone : tests = []
  · rw [if_pos hnone, hnone]
    exact ⟨none, rfl, rfl⟩
  · rw [if_neg hnone, if_neg (by omega), hls]
    refine ⟨_, rfl, ?_⟩
    rw [Option.map_some, Option.getD_some, loadFunctionalPlan_unlines hpath hplain,
      hfold {} (by simp; omega)]
    rfl

end

section

attribute [local instance] asciiTables exactFractions

/-- A test with a timeout of a second and a half. -/
def pingTest : Manifest.FunctionalTest where
  name := str "ping"
  command := str "ping -c1 ::1"
  timeout := str "1500ms"
  expectStdoutContains := str "1 received"

theorem pingTest_carried :
  Carried pingTest
  := ⟨by decide, by decide, by decide, by decide⟩

theorem plan_round_trip_ping :
  ∃ plan, writeFunctionalPlan none none [pingTest] = .ok plan
    ∧ Validator.loadFunctionalPlan (plan.map fun _ => str "/tmp/plan") (.ok (plan.getD []))
      = (str "skipped", [declaredTest pingTest])
  := plan_round_trip [pingTest] (by decide) (by decide)
    (by simpa using pingTest_carried)
    (str "/tmp/plan") (by decide)

/-- A timeout of a second and a half comes back as two seconds. -/
theorem timeout_rounded_up :
  ¬ ∀ tests : List Manifest.FunctionalTest, validateFunctionalTests [] 0 tests = .ok () →
    ∃ plan, writeFunctionalPlan none none tests = .ok plan
      ∧ List.Forall₂ SameTest (Validator.loadFunctionalPlan (plan.map fun _ => str "/tmp/plan")
        (.ok (plan.getD []))).2 tests
  := by
  intro h
  have haccepted : validateFunctionalTests [] 0 [pingTest] = .ok () := by
    decide
  have hvalid := validateFunctionalTests_ok haccepted pingTest List.mem_cons_self
  have htwo : declaredTimeout pingTest.timeout = 2 ∧ exactTimeout pingTest.timeout = 1500000000 := by
    decide
  obtain ⟨plan, hplan, hsame⟩ := h [pingTest] haccepted
  have hwritten : writeFunctionalPlan none none [pingTest] = .ok (some (unlines
      (functionalPlanVersion :: testLines pingTest (declaredTimeout pingTest.timeout)))) := by
    rw [writeFunctionalPlan, if_neg (by decide), if_neg (by decide), testsLines,
      (functionalTimeoutSeconds_eq hvalid.timeout).1]
    rfl
  rw [hwritten, Except.ok.injEq] at hplan
  rw [← hplan, Option.map_some, Option.getD_some,
    loadFunctionalPlan_unlines (by decide) (testLines_plain hvalid pingTest_carried),
    foldl_planLine_testLines hvalid pingTest_carried (by decide), List.nil_append,
    List.forall₂_cons] at hsame
  have htimeout := hsame.1.2.2.2.1
  rw [declaredTest, htwo.1, htwo.2] at htimeout
  exact absurd htimeout (by decide)

end

end Runner
