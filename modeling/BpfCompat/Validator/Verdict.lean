import BpfCompat.Validator.Functional

/-!
# When functional tests end and pass

The loop is over when the child is done and both pipes are at their end: the timeout sees to
the child only (`loop_ends_iff`).  A test is judged by the ends of the two streams, so it
passes as it should exactly when the texts it asks for are found there
(`functional_verdict_iff`).
-/

namespace Validator

open Go

variable {test : FunctionalTest} {env : Nat → Round} {n : Nat}

/-! ### The end of the loop -/

/-- The loop is over after `n` rounds. -/
def Over (test : FunctionalTest) (env : Nat → Round) (n : Nat) : Prop :=
  ∃ s, loopAfter test env n = some s ∧ s.running = false

theorem over_iff :
  Over test env n ↔ (childAfter test env n).childDone = true
    ∧ Closes Round.stdout env n ∧ Closes Round.stderr env n
  := by
  rw [Over, loopAfter_eq, closes_iff, closes_iff]
  constructor
  · rintro ⟨s, hs, hover⟩
    simp only [Option.bind_eq_some_iff, Option.map_eq_some_iff] at hs
    obtain ⟨stdout, hstdout, stderr, hstderr, rfl⟩ := hs
    simp only [LoopState.running, LoopState.withPipes, Bool.or_eq_false_iff,
      Bool.not_eq_false'] at hover
    exact ⟨hover.2, ⟨stdout, hstdout, hover.1.1⟩, ⟨stderr, hstderr, hover.1.2⟩⟩
  · rintro ⟨hdone, ⟨stdout, hstdout, hout⟩, ⟨stderr, hstderr, herr⟩⟩
    refine ⟨(childAfter test env n).withPipes stdout stderr, by rw [hstdout, hstderr]; rfl, ?_⟩
    simp [LoopState.running, LoopState.withPipes, hdone, hout, herr]

/-- Once the timeout has elapsed, the loop ends within `k` further rounds if and only if both
pipes come to their end within these. -/
theorem loop_ends_iff (test : FunctionalTest) (env : Nat → Round) (t : Nat)
    (hpos : 0 < test.timeoutSeconds) (hup : test.timeoutSeconds ≤ (env t).elapsed) (k : Nat) :
  Over test env (t + 1 + k)
    ↔ Closes Round.stdout env (t + 1 + k) ∧ Closes Round.stderr env (t + 1 + k)
  := by
  rw [over_iff]
  have hdone := childDone_of_elapsed (n := t + 1 + k) (by omega) hpos hup
  simp [hdone]

/-- A command that is killed after two seconds and leaves nothing behind. -/
def slowCommand : Nat → Round := fun i =>
  if i < 2 then { elapsed := i }
  else { elapsed := i, stdout := some (.reads [] .eof), stderr := some (.reads [] .eof) }

theorem loop_ends_slowCommand :
  Over { timeoutSeconds := 2 } slowCommand 3
  := by
  have hclosed : ∀ poll : Round → Option Poll, poll (slowCommand 2) = some (.reads [] .eof)
      → (∀ j < 2, poll (slowCommand j) = none) → Closes poll slowCommand (2 + 1 + 0) := by
    intro poll hend hbefore
    refine ⟨2, by omega, ⟨[], .eof, hend, by decide⟩, ?_⟩
    intro j hj
    rw [hbefore j hj]
    simp
  apply (loop_ends_iff { timeoutSeconds := 2 } slowCommand 2 (by decide) (by decide) 0).mpr
  constructor
  · apply hclosed _ rfl
    decide
  · apply hclosed _ rfl
    decide

/-- A shell that has exited and left a process behind that keeps its standard output open. -/
def lingeringCommand : Nat → Round := fun i =>
  { waited := some (.exited 0), elapsed := i, stderr := some (.reads [] .eof) }

/-- No number of rounds is enough for the loop to end. -/
theorem loop_never_ends :
  ¬ ∃ k, ∀ (test : FunctionalTest) (env : Nat → Round) (t : Nat), 0 < test.timeoutSeconds
    → test.timeoutSeconds ≤ (env t).elapsed → Over test env (t + 1 + k)
  := by
  rintro ⟨k, h⟩
  have hover := h { timeoutSeconds := 5 } lingeringCommand 5 (by decide) (by decide)
  rw [over_iff] at hover
  obtain ⟨i, -, ⟨chunks, last, hreads, -⟩, -⟩ := hover.2.1
  simp [lingeringCommand] at hreads

/-! ### The verdict -/

/-- A round adds to what has come through a pipe that is open and gives data. -/
theorem streamAfter_succ (poll : Round → Option Poll) (env : Nat → Round) (n : Nat) :
  streamAfter poll env (n + 1) =
    if (streamAfter poll env n).1 then
      match poll (env n) with
      | some (.reads chunks last) => (last = .again, written poll env n ++ chunks.flatten)
      | _ => (true, written poll env n)
    else (false, written poll env n)
  := by
  rw [streamAfter, written]
  rcases streamAfter poll env n with ⟨_ | _, text⟩
  · rfl
  · rfl

theorem written_prefix_succ (poll : Round → Option Poll) (env : Nat → Round) (n : Nat) :
  written poll env n <+: written poll env (n + 1)
  := by
  nth_rewrite 2 [written]
  rw [streamAfter_succ]
  split_ifs
  · rcases poll (env n) with - | ⟨chunks, last⟩ | -
    · apply List.prefix_rfl
    · apply List.prefix_append
    · apply List.prefix_rfl
  · apply List.prefix_rfl

/-- The text a pipe has kept is the end of all that came through it. -/
theorem pipeAfter_tail {poll : Round → Option Poll} {pipe : Pipe}
    (h : pipeAfter poll env n = some pipe) (hnul : 0 ∉ written poll env n) :
  pipe.tail = (written poll env n).rtake (tailSize - 1) ∧ pipe.open = (streamAfter poll env n).1
  := by
  induction n generalizing pipe with
  | zero =>
      rw [pipeAfter, Option.some.injEq] at h
      simp [← h, written, streamAfter]
  | succ n ih =>
      rw [pipeAfter, Option.bind_eq_some_iff] at h
      obtain ⟨before, hbefore, hpoll⟩ := h
      have hsubset := (written_prefix_succ poll env n).subset
      obtain ⟨htail, hopen⟩ := ih hbefore fun hmem => hnul (hsubset hmem)
      rw [written, streamAfter_succ, ← hopen] at hnul ⊢
      rw [pollPipe.eq_def] at hpoll
      by_cases ho : before.open = true
      · rw [if_pos ho] at hnul hpoll ⊢
        rcases hround : poll (env n) with - | ⟨chunks, last⟩ | -
        · rw [hround, Option.some.injEq] at hpoll
          rw [← hpoll]
          exact ⟨htail, ho⟩
        · simp only [hround, readAvailableTail, Option.some.injEq] at hpoll hnul
          rw [List.mem_append, not_or] at hnul
          rw [← hpoll, htail]
          exact ⟨foldl_appendTail (by decide) _ hnul.2, rfl⟩
        · rw [hround] at hpoll
          contradiction
      · rw [if_neg ho, Option.some.injEq] at hpoll
        rw [if_neg ho, ← hpoll]
        exact ⟨htail, by simpa using ho⟩

/-- A text that is asked for, if any, is found. -/
def Found (expected text : Str) : Prop := expected ≠ [] → expected <:+: text

/-- What the test asks for comes about: the command ends before its time is up, with the
expected exit code, and all it wrote has the expected texts in it. -/
def MeetsExpectations (test : FunctionalTest) (env : Nat → Round) (n : Nat) : Prop :=
  ¬ TimesOut test env n
    ∧ (∃ status, EndsWith test env n status ∧ status.exitCode = test.expectExitCode)
    ∧ Found test.expectStdoutContains (written Round.stdout env n)
    ∧ Found test.expectStderrContains (written Round.stderr env n)

/-- A stream that is searched has no null byte. -/
def Searchable (expected text : Str) : Prop := expected ≠ [] → 0 ∉ text

/-- The last bytes of a stream, as many as the validator keeps. -/
def lastBytes (text : Str) : Str := text.rtake (tailSize - 1)

theorem judge_pass {s : LoopState} :
  (judge test s).status = str "pass" ↔ s.timedOut = false
    ∧ s.childStatus.exitCode = test.expectExitCode
    ∧ Found test.expectStdoutContains s.stdout.tail
    ∧ Found test.expectStderrContains s.stderr.tail
  := by
  have hne : str "fail" ≠ str "pass" := by decide
  have hfound : ∀ expected text : Str, ¬ (expected ≠ [] ∧ (!strstr text expected) = true)
      ↔ Found expected text := by
    intro expected text
    simp [Found, strstr]
  rw [judge]
  by_cases hlate : s.timedOut = true
  · simp [hlate, hne]
  simp only [hlate, Bool.false_eq_true, if_false]
  by_cases hcode : s.childStatus.exitCode ≠ test.expectExitCode
  · simp [hcode, hne]
  rw [if_neg hcode]
  rw [not_not] at hcode
  by_cases hout : test.expectStdoutContains ≠ [] ∧ (!strstr s.stdout.tail test.expectStdoutContains) = true
  · rw [if_pos hout]
    simp [hne, hcode, ← hfound, hout]
  rw [if_neg hout]
  by_cases herr : test.expectStderrContains ≠ [] ∧ (!strstr s.stderr.tail test.expectStderrContains) = true
  · rw [if_pos herr]
    simp [hne, hcode, ← hfound, herr]
  rw [if_neg herr]
  rw [hfound] at hout herr
  simp [hcode, hout, herr]

/-- Searching the text a pipe has kept is searching the last bytes of its stream. -/
theorem found_tail_iff {poll : Round → Option Poll} {pipe : Pipe} {expected : Str}
    (h : pipeAfter poll env n = some pipe) (hnul : Searchable expected (written poll env n)) :
  Found expected pipe.tail ↔ Found expected (lastBytes (written poll env n))
  := by
  by_cases hexpected : expected = []
  · simp [Found, hexpected]
  · rw [lastBytes, ← (pipeAfter_tail h (hnul hexpected)).1]

theorem found_of_lastBytes {expected text : Str} (h : Found expected (lastBytes text)) :
  Found expected text
  := by
  intro hexpected
  apply (h hexpected).trans
  rw [lastBytes, List.rtake]
  apply (List.drop_suffix _ _).isInfix

/-- Of a child that is done, the loop knows whether it timed out and what it ended with. -/
theorem child_result (hdone : (childAfter test env n).childDone = true) (code : Int) :
  ((childAfter test env n).timedOut = false ∧ (childAfter test env n).childStatus.exitCode = code)
    ↔ ¬ TimesOut test env n ∧ ∃ status, EndsWith test env n status ∧ status.exitCode = code
  := by
  rcases childAfter_cases test env n with ⟨hnot, -⟩ | ⟨-, hlate, hout, hends⟩
      | ⟨-, hlate, hout, hends⟩
  · rw [hnot] at hdone
    contradiction
  · simp [hlate, hout]
  · simp [hlate, hout, hends]

/-- A test passes if and only if what it asks for comes about, exactly when this is no matter
of texts that were written only before the last bytes of their stream. -/
theorem functional_verdict_iff (test result : FunctionalTest) (env : Nat → Round) (n : Nat)
    (hcommand : test.command ≠ [])
    (hrun : runFunctionalCommand test (.started env) n = some result)
    (hout : Searchable test.expectStdoutContains (written Round.stdout env n))
    (herr : Searchable test.expectStderrContains (written Round.stderr env n)) :
  (result.status = str "pass" ↔ MeetsExpectations test env n)
    ↔ (MeetsExpectations test env n
      → Found test.expectStdoutContains (lastBytes (written Round.stdout env n))
        ∧ Found test.expectStderrContains (lastBytes (written Round.stderr env n)))
  := by
  rw [runFunctionalCommand, if_neg hcommand] at hrun
  simp only [Option.bind_eq_bind, Option.bind_eq_some_iff] at hrun
  obtain ⟨s, hs, hjudge⟩ := hrun
  split_ifs at hjudge with hrunning
  rw [Option.some.injEq] at hjudge
  rw [loopAfter_eq] at hs
  simp only [Option.bind_eq_some_iff, Option.map_eq_some_iff] at hs
  obtain ⟨stdout, hstdout, stderr, hstderr, rfl⟩ := hs
  have hdone : (childAfter test env n).childDone = true := by
    simp only [LoopState.running, LoopState.withPipes, Bool.or_eq_true, not_or,
      Bool.not_eq_true, Bool.not_eq_false'] at hrunning
    exact hrunning.2
  have hpass : result.status = str "pass" ↔ (¬ TimesOut test env n
      ∧ ∃ status, EndsWith test env n status ∧ status.exitCode = test.expectExitCode)
      ∧ Found test.expectStdoutContains (lastBytes (written Round.stdout env n))
      ∧ Found test.expectStderrContains (lastBytes (written Round.stderr env n)) := by
    rw [← hjudge, judge_pass, ← and_assoc, ← child_result hdone, ← found_tail_iff hstdout hout,
      ← found_tail_iff hstderr herr]
    rfl
  constructor
  · intro h hmeets
    exact (hpass.mp (h.mpr hmeets)).2
  · intro h
    constructor
    · intro hstatus
      obtain ⟨⟨hlate, hcode⟩, hstdoutFound, hstderrFound⟩ := hpass.mp hstatus
      exact ⟨hlate, hcode, found_of_lastBytes hstdoutFound, found_of_lastBytes hstderrFound⟩
    · intro hmeets
      exact hpass.mpr ⟨⟨hmeets.1, hmeets.2.1⟩, h hmeets⟩

/-- A test that waits for the word `ready`. -/
def readyTest : FunctionalTest where
  command := str "./probe"
  expectStdoutContains := str "ready"

/-- A command that prints some text, ends and closes its outputs. -/
def printing (chunks : List Str) : Nat → Round := fun _ =>
  { waited := some (.exited 0), stdout := some (.reads chunks .eof), stderr := some (.reads [] .eof) }

theorem written_printing (chunks : List Str) :
  written Round.stdout (printing chunks) 1 = chunks.flatten
    ∧ written Round.stderr (printing chunks) 1 = []
  := ⟨rfl, rfl⟩

/-- The loop is over after one round. -/
theorem run_printing (chunks : List Str) :
  runFunctionalCommand readyTest (.started (printing chunks)) 1
    = some (judge readyTest { stdout := ⟨false, chunks.foldl (appendTail tailSize) []⟩
                              stderr := ⟨false, []⟩, childDone := true })
  := rfl

theorem printing_meets_iff (chunks : List Str) :
  MeetsExpectations readyTest (printing chunks) 1 ↔ str "ready" <:+: chunks.flatten
  := by
  have hlate : ¬ TimesOut readyTest (printing chunks) 1 := by
    rintro ⟨t, -, -, -, hwaits⟩
    exact absurd (hwaits t le_rfl) (by simp [printing])
  have hends : ∃ status, EndsWith readyTest (printing chunks) 1 status
      ∧ status.exitCode = readyTest.expectExitCode := by
    refine ⟨.exited 0, ⟨0, Nat.zero_lt_one, rfl, ?_⟩, rfl⟩
    intro j hj
    omega
  have hstderr : Found readyTest.expectStderrContains (written Round.stderr (printing chunks) 1) :=
    fun h => absurd rfl h
  have hexpected : readyTest.expectStdoutContains = str "ready" := rfl
  simp only [MeetsExpectations, hlate, hends, hstderr, not_false_eq_true, true_and, and_true]
  rw [Found, hexpected, (written_printing chunks).1]
  constructor
  · intro h
    exact h (by decide)
  · intro h _
    exact h

/-- A short output is searched as a whole. -/
theorem functional_verdict_ready :
  (judge readyTest { stdout := ⟨false, str "ready"⟩, stderr := ⟨false, []⟩
                     childDone := true }).status = str "pass"
    ↔ MeetsExpectations readyTest (printing [str "ready"]) 1
  := by
  have hrun : runFunctionalCommand readyTest (.started (printing [str "ready"])) 1
      = some (judge readyTest { stdout := ⟨false, str "ready"⟩, stderr := ⟨false, []⟩
                                childDone := true }) := by
    rw [run_printing]
    congr
  apply (functional_verdict_iff readyTest _ (printing [str "ready"]) 1 (by decide) hrun ?_ ?_).mpr
  · intro _
    constructor
    · intro _
      rw [(written_printing _).1, lastBytes, List.rtake]
      decide
    · intro h
      exact absurd rfl h
  · intro _
    rw [(written_printing _).1]
    decide
  · intro h
    exact absurd rfl h

/-- Some full reads of the same letter. -/
def flood (reads : Nat) : List Str := List.replicate reads (List.replicate 512 120)

theorem mem_flood {reads : Nat} {b : UInt8} (h : b ∈ (flood reads).flatten) :
  b = 120
  := by
  rw [List.mem_flatten] at h
  obtain ⟨chunk, hchunk, hb⟩ := h
  rw [List.eq_of_mem_replicate hchunk] at hb
  exact List.eq_of_mem_replicate hb

theorem length_flood (reads : Nat) :
  (flood reads).flatten.length = reads * 512
  := by
  rw [List.length_flatten, flood, List.map_replicate, List.length_replicate, List.sum_replicate,
    smul_eq_mul]

/-- Nothing is left of what was printed before more output than the validator keeps. -/
theorem lastBytes_append_flood (text : Str) :
  lastBytes (text ++ (flood 4).flatten) ⊆ (flood 4).flatten
  := by
  intro b hb
  rw [lastBytes, List.rtake, List.length_append, length_flood, List.drop_append, List.mem_append] at hb
  rcases hb with hb | hb
  · rw [List.drop_eq_nil_of_le] at hb
    · contradiction
    · rw [tailSize]
      omega
  · exact List.mem_of_mem_drop hb

/-- A test fails although the command ended in time, with the expected code, and printed the
expected text. -/
theorem ready_overlooked :
  ¬ ∀ (test result : FunctionalTest) (env : Nat → Round) (n : Nat), test.command ≠ []
    → runFunctionalCommand test (.started env) n = some result
    → (result.status = str "pass" ↔ MeetsExpectations test env n)
  := by
  intro h
  have hmeets : MeetsExpectations readyTest (printing (str "ready" :: flood 4)) 1 := by
    rw [printing_meets_iff, List.flatten_cons]
    exact ⟨[], (flood 4).flatten, rfl⟩
  have hpass := (h readyTest _ _ 1 (by decide) (run_printing (str "ready" :: flood 4))).mpr hmeets
  have hnul : (0 : UInt8) ∉ (str "ready" :: flood 4).flatten := by
    rw [List.flatten_cons, List.mem_append]
    rintro (hready | hflood)
    · exact absurd hready (by decide)
    · exact absurd (mem_flood hflood) (by decide)
  have htail := @foldl_appendTail tailSize (by decide) [] _ hnul
  rw [List.nil_append, List.rtake_nil, List.flatten_cons, ← lastBytes] at htail
  rw [judge_pass] at hpass
  have hfound := hpass.2.2.1 (by decide)
  simp only [htail] at hfound
  -- the text that is searched consists of one letter
  have hr : (114 : UInt8) ∈ str "ready" := by decide
  exact absurd (mem_flood (lastBytes_append_flood _ (hfound.subset hr))) (by decide)

end Validator
