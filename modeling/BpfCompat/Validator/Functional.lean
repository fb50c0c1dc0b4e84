import BpfCompat.Go.Strings

/-!
# Functional tests

The validator runs the command of a functional test in a shell and reads both of its outputs
through pipes, keeping only the end of each.  What the operating system answers in one round
of the wait loop is a `Round`; a run of the loop is a sequence of them.  A string in a fixed
buffer is modelled by its bytes before the terminating null byte.
-/

namespace Validator

open Go

/-! ### Bounded tails -/

/-- The bytes before the first null byte. -/
def cString (s : Str) : Str := s.takeWhile (· ≠ 0)

/-- The text in a buffer after further bytes were appended, its beginning dropped as needed. -/
def appendTail (size : Nat) (dst src : Str) : Str :=
  if size = 0 ∨ src = [] then dst
  else if size ≤ src.length then cString (src.drop (src.length - size + 1))
  else
    let kept :=
      if size ≤ dst.length + src.length then
        let dropped := dst.length + src.length - size + 1
        if dst.length ≤ dropped then [] else dst.drop dropped
      else dst
    kept ++ cString src

theorem cString_of_notMem {s : Str} (h : 0 ∉ s) :
  cString s = s
  := by
  rw [cString, List.takeWhile_eq_self_iff]
  intro b hb
  rw [decide_eq_true_eq]
  rintro rfl
  exact h hb

/-- The end of a text that was cut before more was added is the end of the whole text. -/
theorem rtake_rtake_append {α : Type*} (k : Nat) (l m : List α) :
  (l.rtake k ++ m).rtake k = (l ++ m).rtake k
  := by
  simp only [List.rtake_eq_reverse_take_reverse, List.reverse_append, List.reverse_reverse,
    List.take_append, List.take_take]
  congr 3
  omega

/-- Without null bytes, appending keeps the end of the text. -/
theorem appendTail_eq {size : Nat} (hsize : 0 < size) {dst src : Str} (hdst : dst.length < size)
    (hsrc : 0 ∉ src) :
  appendTail size dst src = (dst ++ src).rtake (size - 1)
  := by
  rw [appendTail]
  by_cases hnil : size = 0 ∨ src = []
  · rw [if_pos hnil]
    rcases hnil with hzero | rfl
    · omega
    · rw [List.append_nil, List.rtake]
      rw [show dst.length - (size - 1) = 0 from by omega, List.drop_zero]
  rw [if_neg hnil]
  by_cases hlong : size ≤ src.length
  · have hsuffix : 0 ∉ src.drop (src.length - size + 1) := fun h => hsrc (List.mem_of_mem_drop h)
    have hdrop : dst.drop (dst.length + src.length - (size - 1)) = [] :=
      List.drop_eq_nil_of_le (by omega)
    rw [if_pos hlong, cString_of_notMem hsuffix, List.rtake, List.length_append, List.drop_append,
      hdrop, List.nil_append]
    congr 1
    omega
  rw [if_neg hlong, cString_of_notMem hsrc, List.rtake, List.length_append]
  by_cases hfull : size ≤ dst.length + src.length
  · simp only [if_pos hfull]
    by_cases hall : dst.length ≤ dst.length + src.length - size + 1
    · rw [if_pos hall, List.nil_append, List.drop_append, List.drop_eq_nil_of_le (by omega),
        List.nil_append, show dst.length + src.length - (size - 1) - dst.length = 0 from by omega,
        List.drop_zero]
    · rw [if_neg hall, List.drop_append_of_le_length (by omega)]
      congr 2
      omega
  · simp only [if_neg hfull]
    rw [show dst.length + src.length - (size - 1) = 0 from by omega, List.drop_zero]

/-- Without null bytes, appending piece by piece keeps the end of all pieces together. -/
theorem foldl_appendTail {size : Nat} (hsize : 0 < size) (text : Str) {chunks : List Str}
    (h : 0 ∉ chunks.flatten) :
  chunks.foldl (appendTail size) (text.rtake (size - 1))
    = (text ++ chunks.flatten).rtake (size - 1)
  := by
  induction chunks generalizing text with
  | nil => simp
  | cons chunk chunks ih =>
      rw [List.flatten_cons, List.mem_append, not_or] at h
      have hshort : (text.rtake (size - 1)).length < size := by
        rw [List.rtake, List.length_drop]
        omega
      rw [List.foldl_cons, appendTail_eq hsize hshort h.1, rtake_rtake_append, ih _ h.2,
        List.flatten_cons, List.append_assoc]

/-! ### The wait loop -/

structure FunctionalTest where
  name : Str := []
  command : Str := []
  required : Bool := true
  timeoutSeconds : Nat := 10
  expectExitCode : Int := 0
  expectStdoutContains : Str := []
  expectStderrContains : Str := []
  status : Str := str "skipped"
  exitCode : Int := 0
  timedOut : Bool := false
  stdoutTail : Str := []
  stderrTail : Str := []
  error : Str := []
deriving DecidableEq

/-- What a process ended with. -/
inductive WaitStatus where
  | exited (code : Nat)
  | signaled (signal : Nat)
  | other
deriving DecidableEq

/-- How reading from a pipe that has nothing more to give ends. -/
inductive PipeEnd where
  | again
  | eof
  | failed
deriving DecidableEq

/-- What a pipe that is ready gives: some reads of data, then no more for now; or data without
end. -/
inductive Poll where
  | reads (chunks : List Str) (last : PipeEnd)
  | endless
deriving DecidableEq

/-- The answers of the operating system in one round of the loop: the child's status if it has
ended, the seconds since the start, the status of the child after it was killed, and for each
pipe what reading it gives if it is ready. -/
structure Round where
  waited : Option WaitStatus := none
  elapsed : Nat := 0
  killed : WaitStatus := .signaled 9
  stdout : Option Poll := none
  stderr : Option Poll := none
deriving DecidableEq

/-- The size of a tail buffer. -/
def tailSize : Nat := 2048

/-- A pipe as the loop sees it. -/
structure Pipe where
  «open» : Bool := true
  tail : Str := []
deriving DecidableEq

/-- Reading all a ready pipe has.  There is no result when it never runs dry. -/
def readAvailableTail (pipe : Pipe) : Poll → Option Pipe
  | .reads chunks last =>
    some { «open» := last = .again, tail := chunks.foldl (appendTail tailSize) pipe.tail }
  | .endless => none

structure LoopState where
  stdout : Pipe := {}
  stderr : Pipe := {}
  childDone : Bool := false
  childStatus : WaitStatus := .exited 0
  timedOut : Bool := false
deriving DecidableEq

/-- The loop goes on while a pipe is open or the child has not ended. -/
def LoopState.running (s : LoopState) : Bool := s.stdout.open || s.stderr.open || !s.childDone

/-- A pipe after a round: only an open pipe that is ready is read. -/
def pollPipe (pipe : Pipe) (poll : Option Poll) : Option Pipe :=
  if pipe.open then
    match poll with
    | none => some pipe
    | some p => readAvailableTail pipe p
  else some pipe

/-- The child is waited for. -/
def reapChild (s : LoopState) (r : Round) : LoopState :=
  match s.childDone, r.waited with
  | false, some status => { s with childDone := true, childStatus := status }
  | _, _ => s

/-- The child is killed once its time is up. -/
def killLate (test : FunctionalTest) (s : LoopState) (r : Round) : LoopState :=
  if s.childDone = false ∧ 0 < test.timeoutSeconds ∧ test.timeoutSeconds ≤ r.elapsed then
    { s with timedOut := true, childStatus := r.killed, childDone := true }
  else s

/-- The first part of a round. -/
def waitChild (test : FunctionalTest) (s : LoopState) (r : Round) : LoopState :=
  killLate test (reapChild s r) r

/-- One round of the loop. -/
def loopRound (test : FunctionalTest) (s : LoopState) (r : Round) : Option LoopState := do
  let s := waitChild test s r
  let stdout ← pollPipe s.stdout r.stdout
  let stderr ← pollPipe s.stderr r.stderr
  return { s with stdout, stderr }

/-- The state after some rounds; a loop that is over does not change any more. -/
def loopAfter (test : FunctionalTest) (env : Nat → Round) : Nat → Option LoopState
  | 0 => some {}
  | n + 1 => do
    let s ← loopAfter test env n
    if s.running then loopRound test s (env n) else some s

/-- The exit code a status stands for. -/
def WaitStatus.exitCode : WaitStatus → Int
  | .exited code => code
  | .signaled signal => 128 + signal
  | .other => 125

/-- Whether a text occurs in a string. -/
def strstr (haystack needle : Str) : Bool := decide (needle <:+: haystack)

/-- The result of a test whose loop is over. -/
def judge (test : FunctionalTest) (s : LoopState) : FunctionalTest :=
  let test := { test with stdoutTail := s.stdout.tail, stderrTail := s.stderr.tail }
  if s.timedOut then
    { test with timedOut := true, exitCode := 124, status := str "fail"
                error := str "functional command timed out after "
                  ++ decimal test.timeoutSeconds ++ str " seconds" }
  else
    let test := { test with exitCode := s.childStatus.exitCode }
    if test.exitCode ≠ test.expectExitCode then
      { test with status := str "fail"
                  error := str "expected exit code " ++ itoa test.expectExitCode ++ str ", got "
                    ++ itoa test.exitCode }
    else if test.expectStdoutContains ≠ [] ∧ !strstr s.stdout.tail test.expectStdoutContains then
      { test with status := str "fail", error := str "stdout did not contain expected text" }
    else if test.expectStderrContains ≠ [] ∧ !strstr s.stderr.tail test.expectStderrContains then
      { test with status := str "fail", error := str "stderr did not contain expected text" }
    else { test with status := str "pass", error := [] }

/-- What starting the command comes to. -/
inductive Launch where
  | pipeFailed (reason : Str)
  | forkFailed (reason : Str)
  | started (env : Nat → Round)

/-- The test after at most `n` rounds of its loop, if the loop is over by then. -/
def runFunctionalCommand (test : FunctionalTest) (launch : Launch) (n : Nat) : Option FunctionalTest :=
  if test.command = [] then
    some { test with status := str "fail", error := str "functional command is empty" }
  else
    match launch with
    | .pipeFailed reason =>
      some { test with status := str "fail", error := str "pipe failed: " ++ reason }
    | .forkFailed reason =>
      some { test with status := str "fail", error := str "fork failed: " ++ reason }
    | .started env => do
      let s ← loopAfter test env n
      if s.running then none else some (judge test s)

/-! ### The loop, part by part

The two pipes and the child have nothing to do with each other until the end: the loop is over
when each of the three is. -/

/-- A pipe after some rounds. -/
def pipeAfter (poll : Round → Option Poll) (env : Nat → Round) : Nat → Option Pipe
  | 0 => some {}
  | n + 1 => (pipeAfter poll env n).bind (pollPipe · (poll (env n)))

/-- What is known of the child after some rounds. -/
def childAfter (test : FunctionalTest) (env : Nat → Round) : Nat → LoopState
  | 0 => {}
  | n + 1 => waitChild test (childAfter test env n) (env n)

theorem waitChild_of_done {test : FunctionalTest} {s : LoopState} (h : s.childDone = true) (r : Round) :
  waitChild test s r = s
  := by
  simp [waitChild, reapChild, killLate, h]

/-- The state with these pipes. -/
def LoopState.withPipes (s : LoopState) (stdout stderr : Pipe) : LoopState :=
  { s with stdout := stdout, stderr := stderr }

/-- The child is waited for without regard to the pipes. -/
theorem waitChild_withPipes (test : FunctionalTest) (s : LoopState) (r : Round)
    (stdout stderr : Pipe) :
  waitChild test (s.withPipes stdout stderr) r = (waitChild test s r).withPipes stdout stderr
  := by
  have hreap : reapChild (s.withPipes stdout stderr) r = (reapChild s r).withPipes stdout stderr := by
    rcases s with ⟨o, e, done, status, late⟩
    cases done <;> cases hwaited : r.waited <;> simp [reapChild, LoopState.withPipes, hwaited]
  have hdone : ((reapChild s r).withPipes stdout stderr).childDone = (reapChild s r).childDone := rfl
  rw [waitChild, hreap, waitChild, killLate, killLate, hdone]
  split_ifs
  · rfl
  · rfl

theorem pollPipe_of_closed {pipe : Pipe} (h : pipe.open = false) (poll : Option Poll) :
  pollPipe pipe poll = some pipe
  := by
  simp [pollPipe, h]

/-- The state of the loop is put together from its three parts. -/
theorem loopAfter_eq (test : FunctionalTest) (env : Nat → Round) (n : Nat) :
  loopAfter test env n
    = (pipeAfter Round.stdout env n).bind fun stdout =>
      (pipeAfter Round.stderr env n).map fun stderr =>
        (childAfter test env n).withPipes stdout stderr
  := by
  induction n with
  | zero => rfl
  | succ n ih =>
      rw [loopAfter, ih, pipeAfter, pipeAfter, childAfter]
      rcases pipeAfter Round.stdout env n with - | o
      · rfl
      rcases pipeAfter Round.stderr env n with - | e
      · simp
      simp only [Option.map_some, Option.bind_some, Option.bind_eq_bind]
      by_cases hrunning : ((childAfter test env n).withPipes o e).running = true
      · rw [if_pos hrunning, loopRound, waitChild_withPipes]
        simp only [LoopState.withPipes, Option.bind_eq_bind, Option.pure_def, Option.map_eq_bind]
        rfl
      · have hover := hrunning
        simp only [LoopState.running, LoopState.withPipes, Bool.or_eq_true, not_or,
          Bool.not_eq_true, Bool.not_eq_false'] at hover
        rw [if_neg hrunning, pollPipe_of_closed hover.1.1, pollPipe_of_closed hover.1.2,
          waitChild_of_done hover.2]
        rfl

/-! ### The pipes -/

/-- The pipe is found at its end within `n` rounds, and never before gives data without end. -/
def Closes (poll : Round → Option Poll) (env : Nat → Round) (n : Nat) : Prop :=
  ∃ i < n, (∃ chunks last, poll (env i) = some (.reads chunks last) ∧ last ≠ .again)
    ∧ ∀ j < i, poll (env j) ≠ some .endless

/-- What has come through the pipe within `n` rounds, and whether it is still open. -/
def streamAfter (poll : Round → Option Poll) (env : Nat → Round) : Nat → Bool × Str
  | 0 => (true, [])
  | n + 1 =>
    match streamAfter poll env n with
    | (false, text) => (false, text)
    | (true, text) =>
      match poll (env n) with
      | some (.reads chunks last) => (last = .again, text ++ chunks.flatten)
      | _ => (true, text)

/-- All that has come through the pipe. -/
def written (poll : Round → Option Poll) (env : Nat → Round) (n : Nat) : Str :=
  (streamAfter poll env n).2

/-- A pipe is closed, or open and dry, or it never runs dry. -/
theorem pipeAfter_cases (poll : Round → Option Poll) (env : Nat → Round) (n : Nat) :
  (Closes poll env n ∧ ∃ pipe, pipeAfter poll env n = some pipe ∧ pipe.open = false)
    ∨ (¬ Closes poll env n ∧ (∀ j < n, poll (env j) ≠ some .endless)
      ∧ ∃ pipe, pipeAfter poll env n = some pipe ∧ pipe.open = true)
    ∨ (¬ Closes poll env n ∧ (∃ j < n, poll (env j) = some .endless) ∧ pipeAfter poll env n = none)
  := by
  have hmono : ∀ {n}, Closes poll env n → Closes poll env (n + 1) := by
    rintro n ⟨i, hi, hclose⟩
    exact ⟨i, by omega, hclose⟩
  induction n with
  | zero =>
      right
      left
      refine ⟨?_, by simp, {}, rfl, rfl⟩
      rintro ⟨i, hi, -⟩
      omega
  | succ n ih =>
      rw [pipeAfter]
      rcases ih with ⟨hcloses, pipe, hpipe, hopen⟩ | ⟨hcloses, hdry, pipe, hpipe, hopen⟩
          | ⟨hcloses, ⟨j, hj, hendless⟩, hpipe⟩
      · left
        refine ⟨hmono hcloses, pipe, ?_, hopen⟩
        rw [hpipe, Option.bind_some, pollPipe_of_closed hopen]
      · -- the pipe is open: the round decides
        have hstep : Closes poll env (n + 1) ↔
            ∃ chunks last, poll (env n) = some (.reads chunks last) ∧ last ≠ .again := by
          constructor
          · rintro ⟨i, hi, hend, hbefore⟩
            rcases Nat.lt_succ_iff_lt_or_eq.mp hi with hlt | rfl
            · exact absurd ⟨i, hlt, hend, hbefore⟩ hcloses
            · exact hend
          · intro hend
            exact ⟨n, Nat.lt_succ_self n, hend, hdry⟩
        rw [hpipe, Option.bind_some, pollPipe.eq_def, if_pos hopen]
        rcases hpoll : poll (env n) with - | ⟨chunks, last⟩ | -
        · right
          left
          refine ⟨?_, ?_, pipe, rfl, hopen⟩
          · rw [hstep, hpoll]
            simp
          · intro j hj
            rcases Nat.lt_succ_iff_lt_or_eq.mp hj with hlt | rfl
            · exact hdry j hlt
            · simp [hpoll]
        · by_cases hlast : last = .again
          · right
            left
            refine ⟨?_, ?_, _, rfl, by simp [hlast]⟩
            · rw [hstep, hpoll]
              simp [hlast]
            · intro j hj
              rcases Nat.lt_succ_iff_lt_or_eq.mp hj with hlt | rfl
              · exact hdry j hlt
              · simp [hpoll]
          · left
            refine ⟨hstep.mpr ⟨chunks, last, hpoll, hlast⟩, _, rfl, by simp [hlast]⟩
        · right
          right
          refine ⟨?_, ⟨n, Nat.lt_succ_self n, hpoll⟩, rfl⟩
          rw [hstep, hpoll]
          simp
      · right
        right
        refine ⟨?_, ⟨j, by omega, hendless⟩, by rw [hpipe]; rfl⟩
        rintro ⟨i, hi, hend, hbefore⟩
        rcases Nat.lt_succ_iff_lt_or_eq.mp hi with hlt | rfl
        · exact hcloses ⟨i, hlt, hend, hbefore⟩
        · exact hbefore j hj hendless

theorem closes_iff (poll : Round → Option Poll) (env : Nat → Round) (n : Nat) :
  Closes poll env n ↔ ∃ pipe, pipeAfter poll env n = some pipe ∧ pipe.open = false
  := by
  rcases pipeAfter_cases poll env n with ⟨hcloses, hpipe⟩ | ⟨hcloses, -, pipe, hpipe, hopen⟩
      | ⟨hcloses, -, hpipe⟩
  · simp [hcloses, hpipe]
  · simp [hcloses, hpipe, hopen]
  · simp [hcloses, hpipe]

/-! ### The child -/

/-- The time of the child is up in a round before which it had not ended. -/
def TimesOut (test : FunctionalTest) (env : Nat → Round) (n : Nat) : Prop :=
  ∃ t < n, 0 < test.timeoutSeconds ∧ test.timeoutSeconds ≤ (env t).elapsed
    ∧ ∀ j ≤ t, (env j).waited = none

/-- The child ends with a status before its time is up. -/
def EndsWith (test : FunctionalTest) (env : Nat → Round) (n : Nat) (status : WaitStatus) : Prop :=
  ∃ t < n, (env t).waited = some status ∧ ∀ j < t, (env j).waited = none
    ∧ ¬ (0 < test.timeoutSeconds ∧ test.timeoutSeconds ≤ (env j).elapsed)

/-- The child is running, or has timed out, or has ended with a status. -/
theorem childAfter_cases (test : FunctionalTest) (env : Nat → Round) (n : Nat) :
  ((childAfter test env n).childDone = false ∧ (childAfter test env n).timedOut = false
      ∧ ∀ j < n, (env j).waited = none
        ∧ ¬ (0 < test.timeoutSeconds ∧ test.timeoutSeconds ≤ (env j).elapsed))
    ∨ ((childAfter test env n).childDone = true ∧ (childAfter test env n).timedOut = true
      ∧ TimesOut test env n ∧ ∀ status, ¬ EndsWith test env n status)
    ∨ ((childAfter test env n).childDone = true ∧ (childAfter test env n).timedOut = false
      ∧ ¬ TimesOut test env n
      ∧ ∀ status, EndsWith test env n status ↔ (childAfter test env n).childStatus = status)
  := by
  induction n with
  | zero =>
      left
      exact ⟨rfl, rfl, by simp⟩
  | succ n ih =>
      rw [childAfter]
      rcases ih with ⟨hdone, hlate, hbefore⟩ | ⟨hdone, hlate, ⟨t, ht, hout⟩, hends⟩
          | ⟨hdone, hlate, hout, hends⟩
      · cases hwaited : (env n).waited with
        | none =>
            have hreap : reapChild (childAfter test env n) (env n) = childAfter test env n := by
              simp [reapChild, hwaited]
            have hwaits : ∀ j ≤ n, (env j).waited = none := by
              intro j hj
              rcases Nat.lt_or_eq_of_le hj with hlt | rfl
              · exact (hbefore j hlt).1
              · exact hwaited
            rw [waitChild, hreap, killLate]
            by_cases hup : 0 < test.timeoutSeconds ∧ test.timeoutSeconds ≤ (env n).elapsed
            · rw [if_pos ⟨hdone, hup⟩]
              right
              left
              refine ⟨rfl, rfl, ⟨n, Nat.lt_succ_self n, hup.1, hup.2, hwaits⟩, ?_⟩
              rintro status ⟨t, ht, hstatus, -⟩
              rw [hwaits t (Nat.lt_succ_iff.mp ht)] at hstatus
              contradiction
            · rw [if_neg fun h => hup h.2]
              left
              refine ⟨hdone, hlate, ?_⟩
              intro j hj
              rcases Nat.lt_succ_iff_lt_or_eq.mp hj with hlt | rfl
              · exact hbefore j hlt
              · exact ⟨hwaited, hup⟩
        | some status =>
            have hreap : reapChild (childAfter test env n) (env n)
                = { childAfter test env n with childDone := true, childStatus := status } := by
              simp [reapChild, hwaited, hdone]
            rw [waitChild, hreap, killLate, if_neg (by simp)]
            right
            right
            refine ⟨rfl, hlate, ?_, ?_⟩
            · rintro ⟨t, ht, hpos, hup, hwaits⟩
              rcases Nat.lt_succ_iff_lt_or_eq.mp ht with hlt | rfl
              · exact (hbefore t hlt).2 ⟨hpos, hup⟩
              · rw [hwaits t le_rfl] at hwaited
                contradiction
            · intro status'
              constructor
              · rintro ⟨t, ht, hstatus, -⟩
                rcases Nat.lt_succ_iff_lt_or_eq.mp ht with hlt | rfl
                · rw [(hbefore t hlt).1] at hstatus
                  contradiction
                · rw [hwaited] at hstatus
                  exact Option.some.inj hstatus
              · rintro rfl
                exact ⟨n, Nat.lt_succ_self n, hwaited, hbefore⟩
      · rw [waitChild_of_done hdone]
        right
        left
        refine ⟨hdone, hlate, ⟨t, by omega, hout⟩, ?_⟩
        rintro status ⟨i, hi, hstatus, hbefore⟩
        have hlt : t < i := by
          by_contra hle
          rw [hout.2.2 i (by omega)] at hstatus
          contradiction
        exact (hbefore t hlt).2 ⟨hout.1, hout.2.1⟩
      · rw [waitChild_of_done hdone]
        have hended := (hends (childAfter test env n).childStatus).mpr rfl
        obtain ⟨i, hi, hstatus, hbefore⟩ := hended
        right
        right
        refine ⟨hdone, hlate, ?_, ?_⟩
        · rintro ⟨t, ht, hpos, hup, hwaits⟩
          by_cases hle : i ≤ t
          · rw [hwaits i hle] at hstatus
            contradiction
          · exact (hbefore t (by omega)).2 ⟨hpos, hup⟩
        · intro status
          rw [← hends]
          constructor
          · rintro ⟨t, ht, hstatus', hbefore'⟩
            refine ⟨t, ?_, hstatus', hbefore'⟩
            by_contra hge
            rw [(hbefore' i (by omega)).1] at hstatus
            contradiction
          · rintro ⟨t, ht, hrest⟩
            exact ⟨t, by omega, hrest⟩

/-- Once its time is up the child is done. -/
theorem childDone_of_elapsed {test : FunctionalTest} {env : Nat → Round} {t n : Nat} (htn : t < n)
    (hpos : 0 < test.timeoutSeconds) (hup : test.timeoutSeconds ≤ (env t).elapsed) :
  (childAfter test env n).childDone = true
  := by
  rcases childAfter_cases test env n with ⟨-, -, hbefore⟩ | ⟨hdone, -⟩ | ⟨hdone, -⟩
  · exact absurd ⟨hpos, hup⟩ (hbefore t htn).2
  · exact hdone
  · exact hdone

end Validator
