import BpfCompat.Api.Lifecycle

/-!
# How many jobs may wait

A submission is turned away when the active jobs are as many as may run and the queued ones as many
as may wait.  But it is checked before it records its job, in another section, and the queue is not
looked at while a place is free.  So submissions that are checked together are all let in, and so
are those that come before the jobs let in first have taken their places.

What has to be bounded is the jobs that are not over, when a job is recorded: then no more jobs wait
than may whenever all places are taken, and otherwise they do as soon as the places are taken
(`queue_bounded_iff_room`).
-/

namespace Api

open Go KeyedList

variable {ρ : Type*}

/-- There is a place or room in the queue for one more job. -/
def Room (limits : JobLimits) (s : JobServer ρ) : Prop :=
  activeJobs s.jobs + queuedJobs s.jobs < limits.maxActive + limits.maxQueued

/-- When all places are taken, no more jobs wait than may. -/
def QueueBounded (limits : JobLimits) (s : JobServer ρ) : Prop :=
  limits.maxActive ≤ activeJobs s.jobs → queuedJobs s.jobs ≤ limits.maxQueued

/-- The jobs that are not over. -/
def openJobs (jobs : List (ValidateJob ρ)) : Nat := jobs.countP fun job => !job.state.finished

theorem openJobs_eq (jobs : List (ValidateJob ρ)) :
  openJobs jobs = activeJobs jobs + queuedJobs jobs
  := by
  induction jobs with
  | nil => rfl
  | cons job jobs ih =>
      rw [openJobs] at ih
      rw [openJobs, activeJobs, queuedJobs, List.countP_cons, List.countP_cons, List.countP_cons, ih,
        activeJobs, queuedJobs]
      cases job.state <;> simp [JobState.finished] <;> omega

section

variable {limits : JobLimits} {s s' : JobServer ρ} {w : Worker ρ}

/-- No step of a goroutine opens a job. -/
theorem JobInvariant.openJobs_le (h : JobInvariant limits s)
    (hstep : JobStep limits (fun _ => False) s s') :
  openJobs s'.jobs ≤ openJobs s.jobs
  := by
  cases hstep with
  | check => exact Nat.le_refl _
  | create _ _ _ _ _ hpermitted => exact hpermitted.elim
  | poll w now hw hphase =>
      obtain ⟨hqueued, hpoll⟩ := h.poll_eq hw hphase now
      rw [hpoll]
      split_ifs
      · apply countP_adjust_le
        intro job hjob hid _
        rw [hqueued job hjob hid]
        rfl
      · exact Nat.le_refl _
  | progress w update now hw hphase =>
      apply countP_adjust_le
      intro job hjob hid _
      rw [h.running hw (.inl hphase) job hjob hid]
      rfl
  | back w result hw hphase =>
      apply countP_adjust_le
      exact fun job _ _ hopen => hopen
  | finish w result now hw hphase =>
      apply countP_adjust_le
      intro job hjob hid _
      rw [h.running hw (.inr ⟨result, hphase⟩) job hjob hid]
      rfl

/-- A step other than recording a job. -/
theorem JobStep.create_or {allowed : JobServer ρ → Prop} (h : JobStep limits allowed s s') :
  allowed s ∧ openJobs s'.jobs ≤ openJobs s.jobs + 1 ∨ JobStep limits (fun _ => False) s s'
  := by
  cases h with
  | check hroom => exact .inr (.check s hroom)
  | create id profileIDs now finished _ hpermitted =>
      left
      use hpermitted
      have hcount : openJobs (trimValidateJobs (s.jobs ++ [newValidateJob id profileIDs now])
          finished) ≤ openJobs (s.jobs ++ [newValidateJob id profileIDs now]) :=
        List.filter_sublist.countP_le
      have hone : openJobs (s.jobs ++ [newValidateJob id profileIDs now]) = openJobs s.jobs + 1 := by
        rw [openJobs, List.countP_append]
        rfl
      rwa [hone] at hcount
  | poll w now hw hphase => exact .inr (.poll s w now hw hphase)
  | progress w update now hw hphase => exact .inr (.progress s w update now hw hphase)
  | back w result hw hphase => exact .inr (.back s w result hw hphase)
  | finish w result now hw hphase => exact .inr (.finish s w result now hw hphase)

theorem JobStep.mono {allowed allowed' : JobServer ρ → Prop} (himp : ∀ s, allowed s → allowed' s)
    (h : JobStep limits allowed s s') :
  JobStep limits allowed' s s'
  := by
  cases h with
  | check hroom => exact .check s hroom
  | create id profileIDs now finished hchecked hpermitted hnew horder =>
      exact .create s id profileIDs now finished hchecked (himp s hpermitted) hnew horder
  | poll w now hw hphase => exact .poll s w now hw hphase
  | progress w update now hw hphase => exact .progress s w update now hw hphase
  | back w result hw hphase => exact .back s w result hw hphase
  | finish w result now hw hphase => exact .finish s w result now hw hphase

/-- When jobs are only recorded where there is room, the open ones stay as many as there are places
and room in the queue. -/
theorem openJobs_of_room (h : Relation.ReflTransGen (JobStep limits (Room limits)) {} s) :
  openJobs s.jobs ≤ limits.maxActive + limits.maxQueued
  := by
  have hstep : ∀ s s' : JobServer ρ,
      JobInvariant limits s ∧ openJobs s.jobs ≤ limits.maxActive + limits.maxQueued →
      JobStep limits (Room limits) s s' →
      JobInvariant limits s' ∧ openJobs s'.jobs ≤ limits.maxActive + limits.maxQueued := by
    rintro s s' ⟨hinv, hopen⟩ hstep
    use (hinv.step hstep).1
    rcases hstep.create_or with ⟨hroom, hone⟩ | hother
    · rw [Room, ← openJobs_eq] at hroom
      exact hone.trans hroom
    · exact (hinv.openJobs_le hother).trans hopen
  exact (Transition.invariant hstep h ⟨jobInvariant_start limits, Nat.zero_le _⟩).2

/-! ### Without room -/

/-- A queued job that is polled for gets a free place. -/
theorem JobInvariant.fill (h : JobInvariant limits s)
    (hplace : activeJobs s.jobs < limits.maxActive) (hqueued : 0 < queuedJobs s.jobs) :
  ∃ s', JobStep limits (fun _ => False) s s' ∧ openJobs s'.jobs = openJobs s.jobs ∧
    activeJobs s.jobs < activeJobs s'.jobs
  := by
  rw [queuedJobs, List.countP_pos_iff] at hqueued
  obtain ⟨job, hjob, hstate⟩ := hqueued
  rw [decide_eq_true_eq] at hstate
  obtain ⟨w, hw, hid⟩ := List.mem_map.mp (h.owned job hjob)
  have hphase : w.phase = .waiting := by
    have hallows := h.agrees w hw job hjob hid.symm
    rw [hstate] at hallows
    cases hphase : w.phase <;> rw [hphase] at hallows <;> first | rfl | cases hallows
  obtain ⟨-, hpoll⟩ := h.poll_eq hw hphase 0
  rw [if_pos hplace] at hpoll
  have hopen : openJobs (adjust ValidateJob.jobID w.jobID (ValidateJob.start 0) s.jobs) + 1
      = openJobs s.jobs + 1 := by
    have hcount := countP_adjust (f := ValidateJob.start 0)
      (p := fun job : ValidateJob ρ => !job.state.finished) h.jobIDs hjob hid.symm
    simp only [hstate] at hcount
    exact hcount
  have hactive : activeJobs (adjust ValidateJob.jobID w.jobID (ValidateJob.start 0) s.jobs) + 0
      = activeJobs s.jobs + 1 := by
    have hcount := countP_adjust (f := ValidateJob.start 0)
      (p := fun job : ValidateJob ρ => decide (job.state = .running)) h.jobIDs hjob hid.symm
    simp only [hstate] at hcount
    exact hcount
  refine ⟨_, .poll s w 0 hw hphase, ?_, ?_⟩
  · rw [hpoll]
    exact Nat.succ.inj hopen
  · rw [hpoll]
    exact Nat.lt_of_succ_le hactive.ge

/-- More open jobs than there are places and room in the queue come to overflow the queue, when
those that wait take the places. -/
theorem JobInvariant.overflows (h : JobInvariant limits s)
    (hopen : limits.maxActive + limits.maxQueued < openJobs s.jobs) :
  ∃ s', Relation.ReflTransGen (JobStep limits fun _ => False) s s' ∧ ¬ QueueBounded limits s'
  := by
  induction hfree : limits.maxActive - activeJobs s.jobs using Nat.strong_induction_on
    generalizing s with
  | _ n ih =>
      have hcount := openJobs_eq s.jobs
      by_cases hplace : activeJobs s.jobs < limits.maxActive
      · obtain ⟨t, hstep, hsame, hmore⟩ := h.fill hplace (by omega)
        obtain ⟨s', hrun, hover⟩ := ih (limits.maxActive - activeJobs t.jobs) (by omega)
          (h.step hstep).1 (by omega) rfl
        exact ⟨s', .head hstep hrun, hover⟩
      · refine ⟨s, .refl, fun hbounded => ?_⟩
        have hqueued := hbounded (by omega)
        have hactive := h.active
        omega

end

/-- When every job is recorded where there is room, no more jobs wait than may whenever all places
are taken.  Whatever the jobs of a state do, this stays so exactly when no more of them are open than
there are places and room in the queue. -/
theorem queue_bounded_iff_room (limits : JobLimits) :
  (∀ s : JobServer ρ, Relation.ReflTransGen (JobStep limits (Room limits)) {} s →
    QueueBounded limits s) ∧
  ∀ s : JobServer ρ, Relation.ReflTransGen (JobStep limits fun _ => True) {} s →
    ((∀ s', Relation.ReflTransGen (JobStep limits fun _ => False) s s' → QueueBounded limits s') ↔
      activeJobs s.jobs + queuedJobs s.jobs ≤ limits.maxActive + limits.maxQueued)
  := by
  have hbounded : ∀ s : JobServer ρ, openJobs s.jobs ≤ limits.maxActive + limits.maxQueued →
      QueueBounded limits s := by
    intro s hopen hactive
    rw [openJobs_eq] at hopen
    omega
  constructor
  · intro s hs
    exact hbounded s (openJobs_of_room hs)
  · intro s hs
    have hinv : JobInvariant limits s := ((jobInvariant_start limits).run hs).1
    rw [← openJobs_eq]
    constructor
    · intro hall
      by_contra hmore
      obtain ⟨s', hrun, hover⟩ := hinv.overflows (Nat.lt_of_not_le hmore)
      exact hover (hall s' hrun)
    · intro hopen s' hrun
      apply hbounded
      have hstep : ∀ t t' : JobServer ρ,
          JobInvariant limits t ∧ openJobs t.jobs ≤ limits.maxActive + limits.maxQueued →
          JobStep limits (fun _ => False) t t' →
          JobInvariant limits t' ∧ openJobs t'.jobs ≤ limits.maxActive + limits.maxQueued := by
        rintro t t' ⟨ht, hle⟩ hstep
        exact ⟨(ht.step hstep).1, (ht.openJobs_le hstep).trans hle⟩
      exact (Transition.invariant hstep hrun ⟨hinv, hopen⟩).2

/-- The queue stays bounded after one job is completed, until another is recorded. -/
theorem queue_stays_bounded_after_one :
  ∀ s', Relation.ReflTransGen (JobStep oneByOne fun _ => False) jobCompleted s' →
    QueueBounded oneByOne s'
  := by
  apply ((queue_bounded_iff_room oneByOne).2 jobCompleted jobCompleted_run).mpr
  decide

/-! ### Two submissions -/

/-- Two submissions were checked while the place was free, and both jobs are recorded. -/
def bothQueued : JobServer Unit where
  jobs := trimValidateJobs ((trimValidateJobs [newValidateJob (str "val-a") [] 1] []) ++
    [newValidateJob (str "val-b") [] 2]) []
  workers := [{ jobID := str "val-a", phase := .waiting }, { jobID := str "val-b", phase := .waiting }]

/-- The first has got the place. -/
def firstStarted : JobServer Unit := bothQueued.poll oneByOne (str "val-a") 3

/-- With one place and no queue, one job runs and another waits. -/
theorem checked_together_overflow :
  Relation.ReflTransGen (JobStep oneByOne fun _ => True) {} firstStarted ∧
    activeJobs firstStarted.jobs = 1 ∧ queuedJobs firstStarted.jobs = 1 ∧
    ¬ QueueBounded oneByOne firstStarted
  := by
  have hfirst : JobStep oneByOne (fun _ => True) ({} : JobServer Unit) { checked := 1 } :=
    .check {} rfl
  have hsecond : JobStep oneByOne (fun _ => True) ({ checked := 1 } : JobServer Unit)
      { checked := 2 } :=
    .check { checked := 1 } rfl
  have hcreate : JobStep oneByOne (fun _ => True) ({ checked := 2 } : JobServer Unit)
      { jobQueued with checked := 1 } :=
    .create { checked := 2 } (str "val-a") [] 1 [] Nat.two_pos trivial List.not_mem_nil
      (oldestFirst_single _ _)
  have hcreate' : JobStep oneByOne (fun _ => True) { jobQueued with checked := 1 } bothQueued :=
    .create { jobQueued with checked := 1 } (str "val-b") [] 2 [] Nat.one_pos trivial
      (by decide) ⟨List.Perm.refl _, List.Pairwise.nil⟩
  have hpoll : JobStep oneByOne (fun _ => True) bothQueued firstStarted :=
    .poll bothQueued { jobID := str "val-a", phase := .waiting } 3 List.mem_cons_self rfl
  have hactive : activeJobs firstStarted.jobs = 1 := by decide
  have hqueued : queuedJobs firstStarted.jobs = 1 := by decide
  refine ⟨.tail (.tail (.tail (.tail (.single hfirst) hsecond) hcreate) hcreate') hpoll, hactive,
    hqueued, ?_⟩
  intro hbounded
  have hle := hbounded hactive.ge
  rw [hqueued] at hle
  exact absurd hle (by decide)

end Api
