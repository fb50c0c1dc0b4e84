import BpfCompat.Runner.Report
import BpfCompat.Transition

/-!
# The worker pool

Every profile of the matrix is executed by a goroutine of its own.  A goroutine takes a
place in the semaphore before it executes its target, sends its result, gives the place
back, and reports itself done.  Another goroutine waits until all are done and closes the
channel of results; the main goroutine starts them all and then collects results until the
channel is closed and drained.

The pool is a transition system in which any goroutine that is not blocked may take the next
step.
-/

namespace Runner

open Go Schema Matrices

/-! ### The state of the pool -/

/-- Where the goroutine of a profile is. -/
inductive Phase where
  /-- Not started. -/
  | idle
  /-- About to take a place in the semaphore. -/
  | waiting
  /-- Inside `executeTarget`. -/
  | running
  /-- About to send its result. -/
  | returned (outcome : TargetOutcome)
  /-- About to give its place back. -/
  | delivered
  /-- About to report itself done. -/
  | released
  | finished

/-- The goroutine has a place in the semaphore. -/
def Phase.holds : Phase → Bool
  | .running | .returned _ | .delivered => true
  | _ => false

/-- The goroutine executes a target. -/
def Phase.executes : Phase → Bool
  | .running => true
  | _ => false

/-- The wait group waits for the goroutine. -/
def Phase.pending : Phase → Bool
  | .idle | .finished => false
  | _ => true

/-- The goroutine has sent its result. -/
def Phase.sent : Phase → Bool
  | .delivered | .released | .finished => true
  | _ => false

/-- How much a goroutine still has to do. -/
def Phase.rank : Phase → Nat
  | .idle => 7
  | .waiting => 6
  | .running => 5
  | .returned _ => 4
  | .delivered => 2
  | .released => 1
  | .finished => 0

/-- Where the main goroutine is. -/
inductive MainPhase where
  | spawning
  | collecting
  | returned
deriving DecidableEq

/-- Where the goroutine that closes the channel is. -/
inductive CloserPhase where
  | absent
  | waiting
  | finished
deriving DecidableEq

/-- How much the main goroutine still has to do, apart from collecting. -/
def MainPhase.rank : MainPhase → Nat
  | .spawning => 3
  | .collecting => 1
  | .returned => 0

/-- How much the closing goroutine still has to do. -/
def CloserPhase.rank : CloserPhase → Nat
  | .absent => 1
  | .waiting => 1
  | .finished => 0

/-- What a goroutine sends. -/
structure TargetExecutionResult where
  index : Nat
  outcome : TargetOutcome

/-- The state of the pool. -/
structure Pool where
  /-- How many goroutines have been started. -/
  spawned : Nat := 0
  phases : List Phase
  /-- How many places of the semaphore are taken. -/
  sem : Nat := 0
  wg : Nat := 0
  /-- What the channel of results holds. -/
  results : List TargetExecutionResult := []
  closed : Bool := false
  main : MainPhase := .spawning
  closer : CloserPhase := .absent
  completed : Nat := 0
  targets : List Target
  /-- The completed counts the collector has reported. -/
  progress : List Nat := []
  panicked : Bool := false

/-- The pool before the first goroutine is started. -/
def Pool.start (n : Nat) : Pool where
  phases := List.replicate n .idle
  targets := List.replicate n {}

/-- The capacity of the semaphore. -/
def poolLimit (concurrency : Int64) : Nat := if concurrency < 1 then 1 else concurrency.toInt.toNat

/-! ### Its steps -/

section

variable [UnicodeTables] (concurrency : Int64) (worlds : Nat → World) (cfg : Config)
  (staged : Staged) (m : ProfileMatrix)

/-- A target as the collector stores it. -/
def collected (outcome : TargetOutcome) : Target :=
  { outcome.target with verdict := verdictForStatus outcome.target.status }

/-- One goroutine takes one step. -/
inductive PoolStep : Pool → Pool → Prop where
  /-- `wg.Add(1)` and `go`; nothing waits for the wait group yet. -/
  | spawn {s : Pool} (hmain : s.main = .spawning) (hidle : s.phases[s.spawned]? = some .idle) :
      PoolStep s
        { s with
          spawned := s.spawned + 1
          phases := s.phases.set s.spawned .waiting
          wg := s.wg + 1 }
  | collect {s : Pool} (hmain : s.main = .spawning) (hall : s.spawned = m.profiles.length) :
      PoolStep s { s with main := .collecting, closer := .waiting }
  | acquire {s : Pool} {i : Nat} (hi : s.phases[i]? = some .waiting)
      (hsem : s.sem < poolLimit concurrency) :
      PoolStep s { s with sem := s.sem + 1, phases := s.phases.set i .running }
  | execute {s : Pool} {i : Nat} {p : MatrixProfile} (hi : s.phases[i]? = some .running)
      (hp : m.profiles[i]? = some p) :
      PoolStep s
        { s with phases := s.phases.set i (.returned (executeTarget (worlds i) cfg staged p)) }
  | send {s : Pool} {i : Nat} {outcome : TargetOutcome}
      (hi : s.phases[i]? = some (.returned outcome)) (hopen : s.closed = false)
      (hroom : s.results.length < m.profiles.length) :
      PoolStep s
        { s with
          results := s.results ++ [{ index := i, outcome }]
          phases := s.phases.set i .delivered }
  /-- Sending on a closed channel. -/
  | sendClosed {s : Pool} {i : Nat} {outcome : TargetOutcome}
      (hi : s.phases[i]? = some (.returned outcome)) (hclosed : s.closed = true) :
      PoolStep s { s with panicked := true, phases := s.phases.set i .finished }
  | release {s : Pool} {i : Nat} (hi : s.phases[i]? = some .delivered) (hsem : 0 < s.sem) :
      PoolStep s { s with sem := s.sem - 1, phases := s.phases.set i .released }
  | done {s : Pool} {i : Nat} (hi : s.phases[i]? = some .released) (hwg : 0 < s.wg) :
      PoolStep s { s with wg := s.wg - 1, phases := s.phases.set i .finished }
  /-- The counter of a wait group must not become negative. -/
  | doneNegative {s : Pool} {i : Nat} (hi : s.phases[i]? = some .released) (hwg : s.wg = 0) :
      PoolStep s { s with panicked := true, phases := s.phases.set i .finished }
  | close {s : Pool} (hcloser : s.closer = .waiting) (hwg : s.wg = 0) :
      PoolStep s { s with closed := true, closer := .finished }
  | receive {s : Pool} {r : TargetExecutionResult} {rest : List TargetExecutionResult}
      (hmain : s.main = .collecting) (hresults : s.results = r :: rest) :
      PoolStep s
        { s with
          results := rest
          completed := s.completed + 1
          targets := s.targets.set r.index (collected r.outcome)
          progress := s.progress ++ [s.completed + 1] }
  | stop {s : Pool} (hmain : s.main = .collecting) (hresults : s.results = [])
      (hclosed : s.closed = true) :
      PoolStep s { s with main := .returned }

/-! ### Counting goroutines -/

omit [UnicodeTables] in
theorem countP_set_phase {l : List Phase} {i : Nat} {x : Phase} (hi : l[i]? = some x) (a : Phase)
    (p : Phase → Bool) :
  (l.set i a).countP p + (p x).toNat = l.countP p + (p a).toNat
  := by
  obtain ⟨hlt, hx⟩ := List.getElem?_eq_some_iff.mp hi
  have hpos : p x = true → 0 < l.countP p := by
    intro hp
    apply List.countP_pos_iff.mpr
    use x, List.mem_of_getElem? hi
  rw [List.countP_set hlt, hx]
  cases hpx : p x with
  | true =>
      have h := hpos hpx
      cases p a
      · simp
        omega
      · simp
        omega
  | false =>
      cases p a
      · simp
      · simp

omit [UnicodeTables] in
/-- What is left to do, over all goroutines. -/
def remaining (l : List Phase) : Nat := (l.map Phase.rank).sum

/-- The outcome of a goroutine is the one its own profile has in its own world. -/
def OwnOutcome (i : Nat) (outcome : TargetOutcome) : Prop :=
  ∃ p, m.profiles[i]? = some p ∧ outcome = executeTarget (worlds i) cfg staged p

/-- The target of a profile, by index. -/
def ownTarget (i : Nat) : Target :=
  (m.profiles[i]?.map fun p => runTarget (worlds i) cfg staged p).getD {}

theorem OwnOutcome.collected {i : Nat} {outcome : TargetOutcome}
    (h : OwnOutcome worlds cfg staged m i outcome) :
  collected outcome = ownTarget worlds cfg staged m i
  := by
  obtain ⟨p, hp, rfl⟩ := h
  rw [ownTarget, hp]
  rfl

/-- The goroutines, the semaphore and the wait group agree. -/
structure Balanced (s : Pool) : Prop where
  length : s.phases.length = m.profiles.length
  spawned_le : s.spawned ≤ m.profiles.length
  idle_iff : ∀ i ph, s.phases[i]? = some ph → (ph = .idle ↔ s.spawned ≤ i)
  sem : s.sem = s.phases.countP Phase.holds
  sem_le : s.sem ≤ poolLimit concurrency
  wg : s.wg = s.phases.countP Phase.pending
  own : ∀ i outcome, s.phases[i]? = some (.returned outcome) →
    OwnOutcome worlds cfg staged m i outcome

/-- The channel is closed when every goroutine is done, and the main goroutine returns when
it is closed and drained. -/
structure Controlled (s : Pool) : Prop where
  spawning : s.main = .spawning → s.closer = .absent
  spawned : s.main ≠ .spawning → s.spawned = m.profiles.length ∧ s.closer ≠ .absent
  closed : s.closed = true ↔ s.closer = .finished
  finished : s.closed = true → ∀ ph ∈ s.phases, ph = .finished
  returned : s.main = .returned → s.closed = true ∧ s.results = []
  panicked : s.panicked = false

omit [UnicodeTables] in
/-- The goroutine of a profile has sent its result. -/
def SentAt (phases : List Phase) (i : Nat) : Prop := ∃ ph, phases[i]? = some ph ∧ ph.sent

/-- The results the collector has received, by index, and those still in the channel are
those that were sent. -/
structure Accounted (s : Pool) (received : List Nat) : Prop where
  own : ∀ r ∈ s.results, OwnOutcome worlds cfg staged m r.index r.outcome
  completed : s.completed = received.length
  targets : s.targets = fill (ownTarget worlds cfg staged m) (received.map fun i => (i, i))
    (List.replicate m.profiles.length {})
  nodup : (received ++ s.results.map (·.index)).Nodup
  sent : ∀ i, i ∈ received ++ s.results.map (·.index) ↔ SentAt s.phases i
  progress : s.progress = (List.range s.completed).map (· + 1)

/-- What every reachable state satisfies. -/
structure PoolInvariant (s : Pool) : Prop where
  balanced : Balanced concurrency worlds cfg staged m s
  controlled : Controlled m s
  accounted : ∃ received, Accounted worlds cfg staged m s received

/-- Before the first step. -/
theorem poolInvariant_start :
  PoolInvariant concurrency worlds cfg staged m (.start m.profiles.length)
  := by
  refine ⟨⟨?_, ?_, ?_, ?_, ?_, ?_, ?_⟩, ⟨?_, ?_, ?_, ?_, ?_, ?_⟩, [], ⟨?_, ?_, ?_, ?_, ?_, ?_⟩⟩
  · simp [Pool.start]
  · simp [Pool.start]
  · intro i ph hi
    have hmem := List.mem_of_getElem? hi
    simp only [Pool.start, List.mem_replicate] at hmem
    simp [hmem.2, Pool.start]
  · simp [Pool.start, List.countP_replicate, Phase.holds]
  · simp [Pool.start]
  · simp [Pool.start, List.countP_replicate, Phase.pending]
  · intro i outcome hi
    have hmem := List.mem_of_getElem? hi
    simp [Pool.start] at hmem
  · simp [Pool.start]
  · simp [Pool.start]
  · simp [Pool.start]
  · simp [Pool.start]
  · simp [Pool.start]
  · simp [Pool.start]
  · simp [Pool.start]
  · simp [Pool.start]
  · simp [Pool.start, fill]
  · simp [Pool.start]
  · intro i
    constructor
    · simp [Pool.start]
    · rintro ⟨ph, hi, hsent⟩
      have hmem := List.mem_of_getElem? hi
      simp only [Pool.start, List.mem_replicate] at hmem
      rw [hmem.2] at hsent
      cases hsent
  · simp [Pool.start]

variable {concurrency worlds cfg staged m} {s s' : Pool}

/-- A goroutine that has been started moves on. -/
theorem Balanced.move (h : Balanced concurrency worlds cfg staged m s) {i : Nat} {x a : Phase}
    (hi : s.phases[i]? = some x) (hx : x ≠ .idle) (ha : a ≠ .idle)
    (hphases : s'.phases = s.phases.set i a) (hspawned : s'.spawned = s.spawned)
    (hsem : s'.sem + x.holds.toNat = s.sem + a.holds.toNat)
    (hwg : s'.wg + x.pending.toNat = s.wg + a.pending.toNat)
    (hle : s'.sem ≤ poolLimit concurrency)
    (hown : ∀ outcome, a = .returned outcome → OwnOutcome worlds cfg staged m i outcome) :
  Balanced concurrency worlds cfg staged m s'
  := by
  have hholds := countP_set_phase hi a Phase.holds
  have hpending := countP_set_phase hi a Phase.pending
  have h₁ := h.sem
  have h₂ := h.wg
  refine ⟨?_, ?_, ?_, ?_, hle, ?_, ?_⟩
  · rw [hphases, List.length_set, h.length]
  · rw [hspawned]
    exact h.spawned_le
  · intro j ph hj
    rw [hphases, List.getElem?_set] at hj
    rw [hspawned]
    split_ifs at hj with hij hlt
    · cases hj
      rw [← hij, ← h.idle_iff i x hi]
      simp [hx, ha]
    · exact h.idle_iff j ph hj
  · rw [hphases]
    omega
  · rw [hphases]
    omega
  · intro j outcome hj
    rw [hphases, List.getElem?_set] at hj
    split_ifs at hj with hij hlt
    · rw [← hij]
      exact hown outcome (Option.some.inj hj)
    · exact h.own j outcome hj

/-- Starting a goroutine. -/
theorem Balanced.spawn (h : Balanced concurrency worlds cfg staged m s)
    (hidle : s.phases[s.spawned]? = some .idle) (hphases : s'.phases = s.phases.set s.spawned .waiting)
    (hspawned : s'.spawned = s.spawned + 1) (hsem : s'.sem = s.sem) (hwg : s'.wg = s.wg + 1) :
  Balanced concurrency worlds cfg staged m s'
  := by
  have hholds := countP_set_phase hidle .waiting Phase.holds
  have hpending := countP_set_phase hidle .waiting Phase.pending
  have h₁ := h.sem
  have h₂ := h.wg
  simp only [Phase.holds, Phase.pending, Bool.toNat_false, Bool.toNat_true] at hholds hpending
  refine ⟨?_, ?_, ?_, ?_, ?_, ?_, ?_⟩
  · rw [hphases, List.length_set, h.length]
  · have hlt := (List.getElem?_eq_some_iff.mp hidle).1
    rw [h.length] at hlt
    rw [hspawned]
    exact hlt
  · intro j ph hj
    rw [hphases, List.getElem?_set] at hj
    rw [hspawned]
    split_ifs at hj with hij hlt
    · cases hj
      simp [← hij]
    · rw [h.idle_iff j ph hj]
      omega
  · rw [hphases]
    omega
  · rw [hsem]
    exact h.sem_le
  · rw [hphases]
    omega
  · intro j outcome hj
    rw [hphases, List.getElem?_set] at hj
    split_ifs at hj with hij hlt
    · cases hj
    · exact h.own j outcome hj

/-- Steps that touch no goroutine of a profile. -/
theorem Balanced.frame (h : Balanced concurrency worlds cfg staged m s)
    (hphases : s'.phases = s.phases) (hspawned : s'.spawned = s.spawned) (hsem : s'.sem = s.sem)
    (hwg : s'.wg = s.wg) :
  Balanced concurrency worlds cfg staged m s'
  := by
  refine ⟨?_, ?_, ?_, ?_, ?_, ?_, ?_⟩
  · rw [hphases]
    exact h.length
  · rw [hspawned]
    exact h.spawned_le
  · rw [hphases, hspawned]
    exact h.idle_iff
  · rw [hsem, hphases]
    exact h.sem
  · rw [hsem]
    exact h.sem_le
  · rw [hwg, hphases]
    exact h.wg
  · rw [hphases]
    exact h.own

/-- A goroutine is neither done nor able to panic while it still has a result to send. -/
theorem PoolInvariant.open_of_returned (h : PoolInvariant concurrency worlds cfg staged m s)
    {i : Nat} {outcome : TargetOutcome} (hi : s.phases[i]? = some (.returned outcome)) :
  s.closed = false
  := by
  cases hclosed : s.closed with
  | false => rfl
  | true => cases h.controlled.finished hclosed _ (List.mem_of_getElem? hi)

theorem Balanced.wg_pos (h : Balanced concurrency worlds cfg staged m s) {i : Nat} {ph : Phase}
    (hi : s.phases[i]? = some ph) (hph : ph.pending = true) :
  0 < s.wg
  := by
  rw [h.wg, List.countP_pos_iff]
  use ph, List.mem_of_getElem? hi

theorem PoolStep.balanced (hstep : PoolStep concurrency worlds cfg staged m s s')
    (h : PoolInvariant concurrency worlds cfg staged m s) :
  Balanced concurrency worlds cfg staged m s'
  := by
  have hb := h.balanced
  cases hstep with
  | spawn hmain hidle => exact hb.spawn hidle rfl rfl rfl rfl
  | collect hmain hall => exact hb.frame rfl rfl rfl rfl
  | acquire hi hsem =>
      refine hb.move hi (by simp) (by simp) rfl rfl ?_ ?_ ?_ ?_
      · simp [Phase.holds]
      · simp [Phase.pending]
      · exact hsem
      · simp
  | @execute i p hi hp =>
      refine hb.move hi (by simp) (by simp) rfl rfl ?_ ?_ ?_ ?_
      · simp [Phase.holds]
      · simp [Phase.pending]
      · exact hb.sem_le
      · intro outcome houtcome
        use p, hp
        rw [Phase.returned.injEq] at houtcome
        exact houtcome.symm
  | send hi hopen hroom =>
      refine hb.move hi (by simp) (by simp) rfl rfl ?_ ?_ ?_ ?_
      · simp [Phase.holds]
      · simp [Phase.pending]
      · exact hb.sem_le
      · simp
  | sendClosed hi hclosed =>
      rw [h.open_of_returned hi] at hclosed
      cases hclosed
  | release hi hsem =>
      have hle := hb.sem_le
      refine hb.move hi (by simp) (by simp) rfl rfl ?_ ?_ ?_ ?_
      · simp only [Phase.holds, Bool.toNat_true, Bool.toNat_false]
        omega
      · simp [Phase.pending]
      · simp only
        omega
      · simp
  | done hi hwg =>
      refine hb.move hi (by simp) (by simp) rfl rfl ?_ ?_ ?_ ?_
      · simp [Phase.holds]
      · simp only [Phase.pending, Bool.toNat_true, Bool.toNat_false]
        omega
      · exact hb.sem_le
      · simp
  | doneNegative hi hwg =>
      have hpos := hb.wg_pos hi rfl
      omega
  | close hcloser hwg => exact hb.frame rfl rfl rfl rfl
  | receive hmain hresults => exact hb.frame rfl rfl rfl rfl
  | stop hmain hresults hclosed => exact hb.frame rfl rfl rfl rfl

omit [UnicodeTables] in
/-- While a goroutine is not finished, the channel is open. -/
theorem Controlled.open_of_phase (h : Controlled m s) {i : Nat} {ph : Phase}
    (hi : s.phases[i]? = some ph) (hph : ph ≠ .finished) :
  s.closed = false
  := by
  cases hclosed : s.closed with
  | false => rfl
  | true => exact absurd (h.finished hclosed ph (List.mem_of_getElem? hi)) hph

omit [UnicodeTables] in
/-- Steps of a goroutine that is not finished leave the control state as it is. -/
theorem Controlled.frame (h : Controlled m s) (hopen : s.closed = false)
    (hmain : s'.main = s.main) (hcloser : s'.closer = s.closer)
    (hspawned : s'.main ≠ .spawning → s'.spawned = s.spawned) (hclosed : s'.closed = s.closed)
    (hpanicked : s'.panicked = s.panicked) :
  Controlled m s'
  := by
  have hnotClosed : s'.closed ≠ true := by
    rw [hclosed, hopen]
    exact Bool.false_ne_true
  refine ⟨?_, ?_, ?_, ?_, ?_, ?_⟩
  · rw [hmain, hcloser]
    exact h.spawning
  · intro hne
    rw [hspawned hne, hcloser]
    rw [hmain] at hne
    exact h.spawned hne
  · rw [hclosed, hcloser]
    exact h.closed
  · intro htrue
    exact absurd htrue hnotClosed
  · intro hreturned
    rw [hmain] at hreturned
    obtain ⟨htrue, -⟩ := h.returned hreturned
    rw [hopen] at htrue
    cases htrue
  · rw [hpanicked]
    exact h.panicked

/-- When the wait group is done, so is every goroutine. -/
theorem PoolInvariant.finished_of_wg (h : PoolInvariant concurrency worlds cfg staged m s)
    (hcloser : s.closer = .waiting) (hwg : s.wg = 0) :
  ∀ ph ∈ s.phases, ph = .finished
  := by
  have hmain : s.main ≠ .spawning := by
    intro hmain
    rw [h.controlled.spawning hmain] at hcloser
    cases hcloser
  obtain ⟨hspawned, -⟩ := h.controlled.spawned hmain
  have hnone : s.phases.countP Phase.pending = 0 := by
    rw [← h.balanced.wg, hwg]
  intro ph hph
  have hpending := List.countP_eq_zero.mp hnone ph hph
  obtain ⟨i, hi⟩ := List.getElem?_of_mem hph
  have hlt := (List.getElem?_eq_some_iff.mp hi).1
  have hidle := h.balanced.idle_iff i ph hi
  rw [hspawned, ← h.balanced.length] at hidle
  cases ph with
  | idle => simp at hidle; omega
  | finished => rfl
  | _ => simp [Phase.pending] at hpending

theorem PoolStep.controlled (hstep : PoolStep concurrency worlds cfg staged m s s')
    (h : PoolInvariant concurrency worlds cfg staged m s) :
  Controlled m s'
  := by
  have hc := h.controlled
  cases hstep with
  | spawn hmain hidle =>
      refine hc.frame (hc.open_of_phase hidle (by simp)) rfl rfl ?_ rfl rfl
      intro hne
      exact absurd hmain hne
  | collect hmain hall =>
      have hcloser := hc.spawning hmain
      have hnotClosed : s.closed ≠ true := by
        rw [ne_eq, hc.closed, hcloser]
        simp
      refine ⟨?_, ?_, ?_, ?_, ?_, hc.panicked⟩
      · simp
      · simp [hall]
      · simp [hnotClosed]
      · intro hclosed
        exact absurd hclosed hnotClosed
      · simp
  | acquire hi hsem => exact hc.frame (hc.open_of_phase hi (by simp)) rfl rfl (fun _ => rfl) rfl rfl
  | execute hi hp => exact hc.frame (hc.open_of_phase hi (by simp)) rfl rfl (fun _ => rfl) rfl rfl
  | send hi hopen hroom => exact hc.frame hopen rfl rfl (fun _ => rfl) rfl rfl
  | sendClosed hi hclosed =>
      rw [h.open_of_returned hi] at hclosed
      cases hclosed
  | release hi hsem => exact hc.frame (hc.open_of_phase hi (by simp)) rfl rfl (fun _ => rfl) rfl rfl
  | done hi hwg => exact hc.frame (hc.open_of_phase hi (by simp)) rfl rfl (fun _ => rfl) rfl rfl
  | doneNegative hi hwg =>
      have hpos := h.balanced.wg_pos hi rfl
      omega
  | close hcloser hwg =>
      have hne : s.main ≠ .spawning := by
        intro hmain
        rw [hc.spawning hmain] at hcloser
        cases hcloser
      refine ⟨?_, ?_, ?_, ?_, ?_, hc.panicked⟩
      · intro hmain
        exact absurd hmain hne
      · intro _
        use (hc.spawned hne).1
        simp
      · simp
      · intro _
        exact h.finished_of_wg hcloser hwg
      · intro hreturned
        have hclosed := hc.closed.mp (hc.returned hreturned).1
        rw [hcloser] at hclosed
        cases hclosed
  | receive hmain hresults =>
      refine ⟨hc.spawning, hc.spawned, hc.closed, hc.finished, ?_, hc.panicked⟩
      intro hreturned
      rw [hmain] at hreturned
      cases hreturned
  | stop hmain hresults hclosed =>
      refine ⟨?_, ?_, hc.closed, hc.finished, ?_, hc.panicked⟩
      · simp
      · intro _
        exact hc.spawned (by simp [hmain])
      · intro _
        use hclosed, hresults

omit [UnicodeTables] in
/-- A goroutine that moves on without sending has sent its result if and only if it had. -/
theorem sent_set_iff {l : List Phase} {i : Nat} {x a : Phase} (hi : l[i]? = some x)
    (hsent : a.sent = x.sent) (j : Nat) :
  SentAt (l.set i a) j ↔ SentAt l j
  := by
  simp only [SentAt]
  rw [List.getElem?_set]
  have hlt := (List.getElem?_eq_some_iff.mp hi).1
  split_ifs with hij
  · rw [← hij, hi]
    simp [hsent]
  · rfl

/-- Steps that neither send nor receive. -/
theorem Accounted.frame {received : List Nat} (h : Accounted worlds cfg staged m s received)
    (hresults : s'.results = s.results) (hcompleted : s'.completed = s.completed)
    (htargets : s'.targets = s.targets) (hprogress : s'.progress = s.progress)
    (hsent : ∀ i, SentAt s'.phases i ↔ SentAt s.phases i) :
  Accounted worlds cfg staged m s' received
  := by
  refine ⟨?_, ?_, ?_, ?_, ?_, ?_⟩
  · rw [hresults]
    exact h.own
  · rw [hcompleted]
    exact h.completed
  · rw [htargets]
    exact h.targets
  · rw [hresults]
    exact h.nodup
  · intro i
    rw [hresults, hsent]
    exact h.sent i
  · rw [hprogress, hcompleted]
    exact h.progress

/-- The result of a goroutine enters the channel. -/
theorem Accounted.send {received : List Nat} (h : Accounted worlds cfg staged m s received)
    {i : Nat} {outcome : TargetOutcome} (hi : s.phases[i]? = some (.returned outcome))
    (hown : OwnOutcome worlds cfg staged m i outcome) :
  Accounted worlds cfg staged m
    { s with
      results := s.results ++ [{ index := i, outcome }]
      phases := s.phases.set i .delivered } received
  := by
  have hnew : i ∉ received ++ s.results.map (·.index) := by
    rw [h.sent i, SentAt, hi]
    simp [Phase.sent]
  refine ⟨?_, h.completed, h.targets, ?_, ?_, h.progress⟩
  · intro r hr
    rw [List.mem_append, List.mem_singleton] at hr
    obtain hr | rfl := hr
    · exact h.own r hr
    · exact hown
  · rw [List.map_append, ← List.append_assoc, List.nodup_append_comm]
    exact List.nodup_cons.mpr ⟨hnew, h.nodup⟩
  · intro j
    have hlt := (List.getElem?_eq_some_iff.mp hi).1
    rw [List.map_append, ← List.append_assoc, List.mem_append, h.sent j, SentAt, SentAt,
      List.getElem?_set]
    split_ifs with hij
    · simp [hij, Phase.sent]
    · simp [Ne.symm hij]

/-- The collector stores the result it receives at the place of its profile. -/
theorem Accounted.receive {received : List Nat} (h : Accounted worlds cfg staged m s received)
    {r : TargetExecutionResult} {rest : List TargetExecutionResult}
    (hresults : s.results = r :: rest) :
  Accounted worlds cfg staged m
    { s with
      results := rest
      completed := s.completed + 1
      targets := s.targets.set r.index (collected r.outcome)
      progress := s.progress ++ [s.completed + 1] } (received ++ [r.index])
  := by
  have hindices : received ++ [r.index] ++ rest.map (·.index)
      = received ++ s.results.map (·.index) := by
    rw [hresults, List.map_cons, List.append_assoc]
    rfl
  refine ⟨?_, ?_, ?_, ?_, ?_, ?_⟩
  · intro r' hr'
    apply h.own
    rw [hresults]
    exact List.mem_cons_of_mem r hr'
  · simp [h.completed]
  · have hown := h.own r (by simp [hresults])
    simp only [h.targets, hown.collected, fill, List.map_append, List.foldl_append, List.map_cons,
      List.map_nil, List.foldl_cons, List.foldl_nil]
  · rw [hindices]
    exact h.nodup
  · intro i
    rw [hindices]
    exact h.sent i
  · rw [h.progress, List.range_succ, List.map_append]
    rfl

theorem PoolStep.accounted (hstep : PoolStep concurrency worlds cfg staged m s s')
    (h : PoolInvariant concurrency worlds cfg staged m s) :
  ∃ received, Accounted worlds cfg staged m s' received
  := by
  obtain ⟨received, ha⟩ := h.accounted
  cases hstep with
  | spawn hmain hidle => exact ⟨received, ha.frame rfl rfl rfl rfl (sent_set_iff hidle rfl)⟩
  | collect hmain hall => exact ⟨received, ha.frame rfl rfl rfl rfl (fun _ => Iff.rfl)⟩
  | acquire hi hsem => exact ⟨received, ha.frame rfl rfl rfl rfl (sent_set_iff hi rfl)⟩
  | execute hi hp => exact ⟨received, ha.frame rfl rfl rfl rfl (sent_set_iff hi rfl)⟩
  | send hi hopen hroom => exact ⟨received, ha.send hi (h.balanced.own _ _ hi)⟩
  | sendClosed hi hclosed =>
      rw [h.open_of_returned hi] at hclosed
      cases hclosed
  | release hi hsem => exact ⟨received, ha.frame rfl rfl rfl rfl (sent_set_iff hi rfl)⟩
  | done hi hwg => exact ⟨received, ha.frame rfl rfl rfl rfl (sent_set_iff hi rfl)⟩
  | doneNegative hi hwg =>
      have hpos := h.balanced.wg_pos hi rfl
      omega
  | close hcloser hwg => exact ⟨received, ha.frame rfl rfl rfl rfl (fun _ => Iff.rfl)⟩
  | receive hmain hresults => exact ⟨_, ha.receive hresults⟩
  | stop hmain hresults hclosed => exact ⟨received, ha.frame rfl rfl rfl rfl (fun _ => Iff.rfl)⟩

/-- The invariant is kept by every step. -/
theorem PoolInvariant.step (h : PoolInvariant concurrency worlds cfg staged m s)
    (hstep : PoolStep concurrency worlds cfg staged m s s') :
  PoolInvariant concurrency worlds cfg staged m s'
  := ⟨hstep.balanced h, hstep.controlled h, hstep.accounted h⟩

/-! ### The pool is never stuck -/

/-- When the main goroutine returns, every result has been received. -/
theorem PoolInvariant.received (h : PoolInvariant concurrency worlds cfg staged m s)
    (hmain : s.main = .returned) :
  ∃ received : List Nat, received.Perm (List.range m.profiles.length) ∧
    Accounted worlds cfg staged m s received
  := by
  obtain ⟨received, ha⟩ := h.accounted
  obtain ⟨hclosed, hresults⟩ := h.controlled.returned hmain
  have hnodup := ha.nodup
  have hsent := ha.sent
  rw [hresults, List.map_nil, List.append_nil] at hnodup hsent
  refine ⟨received, ?_, ha⟩
  apply (List.perm_ext_iff_of_nodup hnodup List.nodup_range).mpr
  intro i
  rw [hsent, List.mem_range, ← h.balanced.length]
  constructor
  · rintro ⟨ph, hi, -⟩
    exact (List.getElem?_eq_some_iff.mp hi).1
  · intro hlt
    have hi := List.getElem?_eq_getElem hlt
    have hfinished := h.controlled.finished hclosed _ (List.mem_of_getElem? hi)
    use .finished
    rw [hi, hfinished]
    exact ⟨rfl, rfl⟩

theorem PoolInvariant.targets (h : PoolInvariant concurrency worlds cfg staged m s)
    (hmain : s.main = .returned) :
  s.targets = m.profiles.mapIdx fun i p => runTarget (worlds i) cfg staged p
  := by
  obtain ⟨received, hperm, ha⟩ := h.received hmain
  have hzip : (List.range m.profiles.length).map (fun i => (i, i))
      = (List.range m.profiles.length).zipIdx := by
    apply List.ext_getElem <;> simp
  rw [ha.targets, fill_perm _ (hzip ▸ hperm.map fun i => (i, i)) (by simp)]
  apply List.ext_getElem
  · simp
  · intro i hi hi'
    simp only [List.length_map, List.length_range] at hi
    simp [ownTarget, hi]

theorem PoolInvariant.completed (h : PoolInvariant concurrency worlds cfg staged m s)
    (hmain : s.main = .returned) :
  s.progress = (List.range m.profiles.length).map (· + 1)
  := by
  obtain ⟨received, hperm, ha⟩ := h.received hmain
  rw [ha.progress, ha.completed, hperm.length_eq, List.length_range]

variable (concurrency worlds cfg staged m)

/-- Where the world of a target depends on its profile only, the pool computes what
`executeTargets` computes. -/
theorem pool_refines_executeTargets (worlds : MatrixProfile → World)
    (arrival : RangeOrder (MatrixProfile × Nat)) {s : Pool}
    (h : PoolInvariant concurrency (fun i => worlds (m.profiles.getD i {})) cfg staged m s)
    (hmain : s.main = .returned) :
  s.targets = (executeTargets worlds arrival cfg staged m).1
  := by
  rw [h.targets hmain, executeTargets_eq]
  apply List.ext_getElem
  · simp
  · intro i hi hi'
    simp only [List.length_map] at hi'
    simp [List.getD_eq_getElem?_getD, hi']

end

/-! ### A run of the pool -/

section

attribute [local instance] asciiTables

/-- A world in which no profile can be found. -/
def missingWorld : World where
  profilePath _ := .error (str "not found")
  loadProfile _ := .error []
  abs path := .ok path
  execute _ _ := {}
  files _ := .error []
  explain _ := []
  classify _ := { code := [], confidence := [], reason := [], remediation := [] }

end

end Runner
