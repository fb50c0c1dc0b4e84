import BpfCompat.Api.Jobs

/-!
# The life of a validate job

The goroutine of a job and the state of the job go together: a job is queued while its goroutine
polls, running while it validates, and over when the goroutine is (`JobInvariant`).  A report of
progress writes the running state whatever the state was, but only a running job gets reports.  So
a job only ever moves on, its percentage only grows, it is run once, and it stays as it is from its
end to the day it is dropped (`validate_job_lifecycle`).
-/

namespace Api

open Go KeyedList

variable {ρ : Type*}

/-! ### Percentages -/

theorem clamp_range (v : Int64) :
  0 ≤ clamp v 0 100 ∧ clamp v 0 100 ≤ 100
  := by
  rw [clamp]
  split_ifs with hlow hhigh
  · exact ⟨by decide, by decide⟩
  · exact ⟨by decide, by decide⟩
  · rw [Int64.lt_iff_toInt_lt] at hlow hhigh
    rw [Int64.le_iff_toInt_le, Int64.le_iff_toInt_le]
    omega

/-- The clamp does not go below what is in the range. -/
theorem le_clamp {p v : Int64} (hp : p ≤ 100) (h : p ≤ v) :
  p ≤ clamp v 0 100
  := by
  rw [clamp]
  split_ifs with hlow hhigh
  · rw [Int64.le_iff_toInt_le] at h ⊢
    rw [Int64.lt_iff_toInt_lt] at hlow
    omega
  · exact hp
  · exact h

theorem percent_touch (job : ValidateJob ρ) (now : Nat) :
  0 ≤ (job.touch now).percent ∧ (job.touch now).percent ≤ 100
  := clamp_range job.percent

theorem le_ite_lt (p v : Int64) :
  p ≤ if p < v then v else p
  := by
  split_ifs with h
  · exact Int64.le_of_lt h
  · exact Int64.le_refl p

/-- A report of progress does not lower the percentage. -/
theorem percent_applyRunnerProgress (update : ProgressUpdate) (now : Nat) {job : ValidateJob ρ}
    (h : job.percent ≤ 100) :
  job.percent ≤ ((applyRunnerProgress update job).touch now).percent
  := by
  apply le_clamp h
  rw [applyRunnerProgress]
  apply le_ite_lt

theorem percent_recordOutcome (result : Except Str ρ) (now : Nat) {job : ValidateJob ρ}
    (h : job.percent ≤ 100) :
  job.percent ≤ ((recordOutcome result now job).touch now).percent
  := by
  apply le_clamp h
  cases result with
  | error e => exact Int64.le_refl _
  | ok response => exact h

/-- A place raises the percentage to one at least. -/
theorem percent_start {job : ValidateJob ρ} (h : job.percent ≤ 100) (now : Nat) :
  job.percent ≤ (job.start now).percent ∧ (job.start now).percent ≤ 100
  := by
  rw [ValidateJob.start]
  dsimp only
  split_ifs with hlow
  · exact ⟨Int64.le_of_lt hlow, by decide⟩
  · exact ⟨Int64.le_refl _, h⟩

/-! ### Jobs and their goroutines -/

/-- The state a job is in while its goroutine is in a phase. -/
def WorkerPhase.allows : WorkerPhase ρ → JobState → Prop
  | .waiting, state => state = .queued
  | .running, state => state = .running
  | .returned _, state => state = .running
  | .finished, state => state.finished = true

/-- The goroutine still needs the job. -/
def WorkerPhase.live : WorkerPhase ρ → Bool
  | .finished => false
  | _ => true

/-- How often the goroutine may have called the validation. -/
def WorkerPhase.called : WorkerPhase ρ → Nat
  | .waiting => 0
  | _ => 1

structure JobInvariant (limits : JobLimits) (s : JobServer ρ) : Prop where
  workerIDs : (s.workers.map Worker.jobID).Nodup
  jobIDs : (s.jobs.map ValidateJob.jobID).Nodup
  owned : ∀ job ∈ s.jobs, job.jobID ∈ s.workers.map Worker.jobID
  attended : ∀ w ∈ s.workers, w.phase.live = true → w.jobID ∈ s.jobs.map ValidateJob.jobID
  agrees : ∀ w ∈ s.workers, ∀ job ∈ s.jobs, job.jobID = w.jobID → w.phase.allows job.state
  once : ∀ w ∈ s.workers, w.starts ≤ w.phase.called
  percent : ∀ job ∈ s.jobs, 0 ≤ job.percent ∧ job.percent ≤ 100
  active : activeJobs s.jobs ≤ limits.maxActive

/-- What a step does to a job that stays. -/
inductive Advances (job : ValidateJob ρ) : ValidateJob ρ → Prop
  | same : Advances job job
  | on (job' : ValidateJob ρ) (id : job'.jobID = job.jobID)
      (states : job.state = .queued ∧ job'.state = .running ∨
        job.state = .running ∧ job'.state ≠ .queued)
      (percent : job.percent ≤ job'.percent) : Advances job job'

theorem Advances.jobID {job job' : ValidateJob ρ} (h : Advances job job') :
  job'.jobID = job.jobID
  := by
  cases h with
  | same => rfl
  | on _ hid => exact hid

/-- What a step does to the jobs: each advances, or was over and is dropped; and a job that was not
there is queued, under an identifier that was never used. -/
structure Moves (s s' : JobServer ρ) : Prop where
  kept : ∀ job ∈ s.jobs, (∃ job' ∈ s'.jobs, Advances job job') ∨
    job.state.finished = true ∧ job.jobID ∉ s'.jobs.map ValidateJob.jobID
  known : ∀ job' ∈ s'.jobs, (∃ job ∈ s.jobs, Advances job job') ∨
    job'.state = .queued ∧ job'.jobID ∉ s.workers.map Worker.jobID
  used : ∀ id ∈ s.workers.map Worker.jobID, id ∈ s'.workers.map Worker.jobID

theorem Moves.refl (s : JobServer ρ) :
  Moves s s
  := by
  constructor
  · exact fun job hjob => .inl ⟨job, hjob, .same⟩
  · exact fun job hjob => .inl ⟨job, hjob, .same⟩
  · exact fun id hid => hid

section

variable {limits : JobLimits} {s : JobServer ρ} {w : Worker ρ}
  {f : ValidateJob ρ → ValidateJob ρ} {g : Worker ρ → Worker ρ}

/-- A change of the job and the goroutine of one identifier keeps the invariant when the two go
together again. -/
theorem JobInvariant.move (h : JobInvariant limits s) (hw : w ∈ s.workers)
    (hf : ∀ job, (f job).jobID = job.jobID) (hg : ∀ v, (g v).jobID = v.jobID)
    (hlive : (g w).phase.live = true → w.phase.live = true)
    (honce : (g w).starts ≤ (g w).phase.called)
    (hjob : ∀ job ∈ s.jobs, job.jobID = w.jobID →
      (g w).phase.allows (f job).state ∧ 0 ≤ (f job).percent ∧ (f job).percent ≤ 100)
    (hactive : activeJobs (adjust ValidateJob.jobID w.jobID f s.jobs) ≤ limits.maxActive) :
  JobInvariant limits (s.move w.jobID f g)
  := by
  -- the goroutine with the identifier is the one that moves
  have hself : ∀ v ∈ s.workers, v.jobID = w.jobID → v = w := by
    intro v hv hid
    exact List.inj_on_of_nodup_map h.workerIDs hv hw hid
  have hworkers : ∀ v ∈ (s.move w.jobID f g).workers, v = g w ∨ v ∈ s.workers ∧ v.jobID ≠ w.jobID := by
    intro v hv
    rcases mem_adjust.mp hv with ⟨u, hu, hid, rfl⟩ | hother
    · rw [hself u hu hid]
      exact .inl rfl
    · exact .inr hother
  have hids : (s.move w.jobID f g).jobs.map ValidateJob.jobID = s.jobs.map ValidateJob.jobID :=
    map_key_adjust hf
  have hwids : (s.move w.jobID f g).workers.map Worker.jobID = s.workers.map Worker.jobID :=
    map_key_adjust hg
  constructor
  · rw [hwids]
    exact h.workerIDs
  · rw [hids]
    exact h.jobIDs
  · intro job hjob'
    rw [hwids]
    rcases mem_adjust.mp hjob' with ⟨old, hold, -, rfl⟩ | ⟨hold, -⟩
    · rw [hf]
      exact h.owned old hold
    · exact h.owned job hold
  · intro v hv hvlive
    rw [hids]
    rcases hworkers v hv with rfl | ⟨hv, -⟩
    · rw [hg]
      exact h.attended w hw (hlive hvlive)
    · exact h.attended v hv hvlive
  · intro v hv job hjob' hid
    rcases hworkers v hv with rfl | ⟨hv, hne⟩
    · rw [hg] at hid
      rcases mem_adjust.mp hjob' with ⟨old, hold, hkey, rfl⟩ | ⟨-, hne⟩
      · exact (hjob old hold hkey).1
      · exact absurd hid hne
    · rcases mem_adjust.mp hjob' with ⟨old, hold, hkey, rfl⟩ | ⟨hold, -⟩
      · rw [hf, hkey] at hid
        exact absurd hid.symm hne
      · exact h.agrees v hv job hold hid
  · intro v hv
    rcases hworkers v hv with rfl | ⟨hv, -⟩
    · exact honce
    · exact h.once v hv
  · intro job hjob'
    rcases mem_adjust.mp hjob' with ⟨old, hold, hkey, rfl⟩ | ⟨hold, -⟩
    · exact (hjob old hold hkey).2
    · exact h.percent job hold
  · exact hactive

/-- A change that takes the job on is a move. -/
theorem moves_of_move (hg : ∀ v, (g v).jobID = v.jobID)
    (h : ∀ job ∈ s.jobs, job.jobID = w.jobID → Advances job (f job)) :
  Moves s (s.move w.jobID f g)
  := by
  have hwids : (s.move w.jobID f g).workers.map Worker.jobID = s.workers.map Worker.jobID :=
    map_key_adjust hg
  constructor
  · intro job hjob
    left
    by_cases hid : job.jobID = w.jobID
    · exact ⟨f job, mem_adjust_of_eq hjob hid, h job hjob hid⟩
    · exact ⟨job, mem_adjust_of_ne hjob hid, .same⟩
  · intro job' hjob'
    left
    rcases mem_adjust.mp hjob' with ⟨job, hjob, hid, rfl⟩ | ⟨hjob, -⟩
    · exact ⟨job, hjob, h job hjob hid⟩
    · exact ⟨job', hjob, .same⟩
  · intro id hid
    rw [hwids]
    exact hid

/-- A change after which no job runs that did not. -/
theorem activeJobs_adjust_le {id : Str}
    (h : ∀ job ∈ s.jobs, job.jobID = id → (f job).state = .running → job.state = .running) :
  activeJobs (adjust ValidateJob.jobID id f s.jobs) ≤ activeJobs s.jobs
  := by
  apply countP_adjust_le
  intro job hjob hid hstate
  rw [decide_eq_true_eq] at hstate ⊢
  exact h job hjob hid hstate

/-! ### Recording a job -/

section

variable {id : Str} {profileIDs : List Str} {now : Nat} {finished : List (ValidateJob ρ)}

/-- The identifier of a new job is that of no job. -/
theorem JobInvariant.nodup_concat (h : JobInvariant limits s)
    (hnew : id ∉ s.workers.map Worker.jobID) (profileIDs : List Str) (now : Nat) :
  ((s.jobs ++ [newValidateJob id profileIDs now]).map ValidateJob.jobID).Nodup
  := by
  rw [List.map_append, List.map_singleton, List.nodup_append]
  refine ⟨h.jobIDs, List.nodup_singleton _, ?_⟩
  intro a ha b hb
  rw [List.mem_singleton] at hb
  rintro rfl
  rw [List.mem_map] at ha
  obtain ⟨job, hjob, hid⟩ := ha
  apply hnew
  rw [show id = job.jobID from hb.symm.trans hid.symm]
  exact h.owned job hjob

/-- Only jobs that are over are dropped. -/
theorem finished_of_dropped {jobs : List (ValidateJob ρ)} (hids : (jobs.map ValidateJob.jobID).Nodup)
    (horder : OldestFirst jobs finished) {job : ValidateJob ρ} (hjob : job ∈ jobs)
    (hdropped : job ∉ trimValidateJobs jobs finished) :
  job.state.finished = true ∧ job.jobID ∉ (trimValidateJobs jobs finished).map ValidateJob.jobID
  := by
  have hid : job.jobID ∈
      (finished.take (jobs.length - maxStoredValidateJobs)).map ValidateJob.jobID := by
    by_contra hkept
    apply hdropped
    rw [trimValidateJobs, List.mem_filter, decide_eq_true_eq]
    exact ⟨hjob, hkept⟩
  constructor
  · rw [List.mem_map] at hid
    obtain ⟨old, hold, hsame⟩ := hid
    have hmem := horder.perm.mem_iff.mp (List.mem_of_mem_take hold)
    rw [List.mem_filter] at hmem
    rw [← List.inj_on_of_nodup_map hids hmem.1 hjob hsame]
    exact hmem.2
  · intro hmem
    rw [List.mem_map] at hmem
    obtain ⟨other, hother, hsame⟩ := hmem
    rw [trimValidateJobs, List.mem_filter, decide_eq_true_eq, hsame] at hother
    exact hother.2 hid

theorem mem_of_mem_trim {jobs : List (ValidateJob ρ)} {job : ValidateJob ρ}
    (h : job ∈ trimValidateJobs jobs finished) :
  job ∈ jobs
  := List.mem_of_mem_filter h

/-- Recording a job keeps the invariant. -/
theorem JobInvariant.create (h : JobInvariant limits s) (hnew : id ∉ s.workers.map Worker.jobID)
    (horder : OldestFirst (s.jobs ++ [newValidateJob id profileIDs now]) finished) (checked : Nat) :
  JobInvariant limits
    { jobs := trimValidateJobs (s.jobs ++ [newValidateJob id profileIDs now]) finished
      workers := s.workers ++ [{ jobID := id, phase := .waiting }]
      checked := checked }
  := by
  have hids := h.nodup_concat hnew profileIDs now
  have hmem : ∀ job ∈ trimValidateJobs (s.jobs ++ [newValidateJob id profileIDs now]) finished,
      job ∈ s.jobs ∨ job = newValidateJob id profileIDs now := by
    intro job hjob
    have hjob' := mem_of_mem_trim hjob
    rwa [List.mem_append, List.mem_singleton] at hjob'
  have hworker : ∀ w ∈ s.workers ++ [({ jobID := id, phase := .waiting } : Worker ρ)],
      w ∈ s.workers ∨ w = { jobID := id, phase := .waiting } := by
    intro w hw
    rwa [List.mem_append, List.mem_singleton] at hw
  constructor
  · rw [List.map_append, List.map_singleton, List.nodup_append]
    refine ⟨h.workerIDs, List.nodup_singleton _, ?_⟩
    intro a ha b hb
    rw [List.mem_singleton] at hb
    rintro rfl
    rw [hb] at ha
    exact hnew ha
  · exact hids.sublist (List.filter_sublist.map _)
  · intro job hjob
    rw [List.map_append, List.mem_append]
    rcases hmem job hjob with hold | rfl
    · exact .inl (h.owned job hold)
    · exact .inr (List.mem_singleton.mpr rfl)
  · -- a job whose goroutine still needs it is not over, so it is not dropped
    intro w hw hlive
    have hkept : ∀ job ∈ s.jobs ++ [newValidateJob id profileIDs now],
        job.state.finished = false →
        job.jobID ∈ (trimValidateJobs (s.jobs ++ [newValidateJob id profileIDs now]) finished).map
          ValidateJob.jobID := by
      intro job hjob hstate
      by_contra hgone
      have hdropped : job ∉ trimValidateJobs (s.jobs ++ [newValidateJob id profileIDs now])
          finished := fun hin => hgone (List.mem_map_of_mem hin)
      rw [(finished_of_dropped hids horder hjob hdropped).1] at hstate
      cases hstate
    rcases hworker w hw with hold | rfl
    · have hattended := h.attended w hold hlive
      rw [List.mem_map] at hattended
      obtain ⟨job, hjob, hid⟩ := hattended
      rw [← hid]
      apply hkept job (List.mem_append_left _ hjob)
      have hstate := h.agrees w hold job hjob hid
      cases hphase : w.phase with
      | waiting => rw [hphase] at hstate; rw [show job.state = .queued from hstate]; rfl
      | running => rw [hphase] at hstate; rw [show job.state = .running from hstate]; rfl
      | returned result => rw [hphase] at hstate; rw [show job.state = .running from hstate]; rfl
      | finished => rw [hphase] at hlive; cases hlive
    · exact hkept (newValidateJob id profileIDs now) (by simp) rfl
  · intro w hw job hjob hid
    rcases hworker w hw with hold | rfl <;> rcases hmem job hjob with hjob | rfl
    · exact h.agrees w hold job hjob hid
    · have hsame : id = w.jobID := hid
      exact absurd (hsame ▸ List.mem_map_of_mem hold) hnew
    · have hsame : job.jobID = id := hid
      exact absurd (hsame ▸ h.owned job hjob) hnew
    · rfl
  · intro w hw
    rcases hworker w hw with hold | rfl
    · exact h.once w hold
    · exact Nat.le_refl _
  · intro job hjob
    rcases hmem job hjob with hold | rfl
    · exact h.percent job hold
    · exact ⟨(by decide : (0 : Int64) ≤ 0), (by decide : (0 : Int64) ≤ 100)⟩
  · have hcount : activeJobs (trimValidateJobs (s.jobs ++ [newValidateJob id profileIDs now])
        finished) ≤ activeJobs (s.jobs ++ [newValidateJob id profileIDs now]) :=
      List.filter_sublist.countP_le
    have hsame : activeJobs (s.jobs ++ [newValidateJob id profileIDs now]) = activeJobs s.jobs := by
      rw [activeJobs, List.countP_append]
      rfl
    exact hcount.trans (hsame ▸ h.active)

/-- Recording a job is a move. -/
theorem JobInvariant.moves_create (h : JobInvariant limits s)
    (hnew : id ∉ s.workers.map Worker.jobID)
    (horder : OldestFirst (s.jobs ++ [newValidateJob id profileIDs now]) finished) (checked : Nat) :
  Moves s
    { jobs := trimValidateJobs (s.jobs ++ [newValidateJob id profileIDs now]) finished
      workers := s.workers ++ [{ jobID := id, phase := .waiting }]
      checked := checked }
  := by
  have hids := h.nodup_concat hnew profileIDs now
  constructor
  · intro job hjob
    by_cases hkept : job ∈ trimValidateJobs (s.jobs ++ [newValidateJob id profileIDs now]) finished
    · exact .inl ⟨job, hkept, .same⟩
    · exact .inr (finished_of_dropped hids horder (List.mem_append_left _ hjob) hkept)
  · intro job' hjob'
    have hmem := mem_of_mem_trim hjob'
    rw [List.mem_append, List.mem_singleton] at hmem
    rcases hmem with hold | rfl
    · exact .inl ⟨job', hold, .same⟩
    · exact .inr ⟨rfl, hnew⟩
  · intro id' hid'
    rw [List.map_append, List.mem_append]
    exact .inl hid'

end

/-! ### The steps of a goroutine -/

theorem Int64.zero_le_of_le {p q : Int64} (hp : 0 ≤ p) (h : p ≤ q) :
  0 ≤ q
  := by
  rw [Int64.le_iff_toInt_le] at hp h ⊢
  exact hp.trans h

/-- What a round of polling does: the queued job gets a place if there is one. -/
theorem JobInvariant.poll_eq (h : JobInvariant limits s) (hw : w ∈ s.workers)
    (hphase : w.phase = .waiting) (now : Nat) :
  (∀ job ∈ s.jobs, job.jobID = w.jobID → job.state = .queued) ∧
    s.poll limits w.jobID now = if activeJobs s.jobs < limits.maxActive then
      s.move w.jobID (ValidateJob.start now) Worker.call else s
  := by
  have hqueued : ∀ job ∈ s.jobs, job.jobID = w.jobID → job.state = .queued := by
    intro job hjob hid
    have hallows := h.agrees w hw job hjob hid
    rwa [hphase] at hallows
  use hqueued
  have hattended := h.attended w hw (by rw [hphase]; rfl)
  rw [JobServer.poll]
  cases hfind : find ValidateJob.jobID s.jobs w.jobID with
  | none => exact absurd hattended (find_eq_none_iff.mp hfind)
  | some job =>
      obtain ⟨hjob, hid⟩ := find_eq_some hfind
      have hstate : job.state ≠ .running := by
        rw [hqueued job hjob hid]
        decide
      exact if_neg hstate

/-- A place among the active jobs keeps the invariant. -/
theorem JobInvariant.start (h : JobInvariant limits s) (hw : w ∈ s.workers)
    (hphase : w.phase = .waiting) (hplace : activeJobs s.jobs < limits.maxActive) (now : Nat) :
  JobInvariant limits (s.move w.jobID (ValidateJob.start now) Worker.call)
  := by
  refine h.move hw (fun _ => rfl) (fun _ => rfl) ?_ ?_ ?_ ?_
  · intro _
    rw [hphase]
    rfl
  · have honce := h.once w hw
    rw [hphase] at honce
    exact Nat.succ_le_succ honce
  · intro job hjob _
    obtain ⟨hlow, hhigh⟩ := h.percent job hjob
    obtain ⟨hle, hrange⟩ := percent_start hhigh now
    exact ⟨rfl, Int64.zero_le_of_le hlow hle, hrange⟩
  · exact (countP_adjust_le_succ h.jobIDs).trans hplace

theorem JobInvariant.running (h : JobInvariant limits s) (hw : w ∈ s.workers)
    (hphase : w.phase = .running ∨ ∃ result, w.phase = .returned result) :
  ∀ job ∈ s.jobs, job.jobID = w.jobID → job.state = .running
  := by
  intro job hjob hid
  have hallows := h.agrees w hw job hjob hid
  rcases hphase with hphase | ⟨result, hphase⟩ <;> rwa [hphase] at hallows

/-- Every step keeps the invariant and moves the jobs. -/
theorem JobInvariant.step {allowed : JobServer ρ → Prop} {s' : JobServer ρ}
    (h : JobInvariant limits s) (hstep : JobStep limits allowed s s') :
  JobInvariant limits s' ∧ Moves s s'
  := by
  cases hstep with
  | check =>
      have hmoves := Moves.refl s
      exact ⟨⟨h.workerIDs, h.jobIDs, h.owned, h.attended, h.agrees, h.once, h.percent, h.active⟩,
        hmoves.kept, hmoves.known, hmoves.used⟩
  | create id profileIDs now finished hchecked _ hnew horder =>
      exact ⟨h.create hnew horder _, h.moves_create hnew horder _⟩
  | poll w now hw hphase =>
      obtain ⟨hqueued, hpoll⟩ := h.poll_eq hw hphase now
      rw [hpoll]
      split_ifs with hplace
      · use h.start hw hphase hplace now
        refine moves_of_move (fun _ => rfl) ?_
        intro job hjob hid
        exact .on _ rfl (.inl ⟨hqueued job hjob hid, rfl⟩)
          (percent_start (h.percent job hjob).2 now).1
      · exact ⟨h, .refl s⟩
  | progress w update now hw hphase =>
      have hrunning := h.running hw (.inl hphase)
      constructor
      · refine h.move hw (fun _ => rfl) (fun _ => rfl) (fun hlive => hlive) (h.once w hw) ?_ ?_
        · intro job hjob _
          rw [hphase]
          exact ⟨rfl, percent_touch (applyRunnerProgress update job) now⟩
        · apply (activeJobs_adjust_le _).trans h.active
          intro job hjob hid _
          exact hrunning job hjob hid
      · refine moves_of_move (fun _ => rfl) ?_
        intro job hjob hid
        exact .on _ rfl (.inr ⟨hrunning job hjob hid, JobState.noConfusion⟩)
          (percent_applyRunnerProgress update now (h.percent job hjob).2)
  | back w result hw hphase =>
      have hrunning := h.running hw (.inl hphase)
      constructor
      · refine h.move hw (fun _ => rfl) (fun _ => rfl) ?_ ?_ ?_ ?_
        · intro _
          rw [hphase]
          rfl
        · have honce := h.once w hw
          rw [hphase] at honce
          exact honce
        · intro job hjob hid
          exact ⟨hrunning job hjob hid, h.percent job hjob⟩
        · exact (activeJobs_adjust_le fun _ _ _ hstate => hstate).trans h.active
      · refine moves_of_move (fun _ => rfl) ?_
        intro job _ _
        exact .same
  | finish w result now hw hphase =>
      have hrunning := h.running hw (.inr ⟨result, hphase⟩)
      have hid : ∀ job : ValidateJob ρ,
          ((recordOutcome result now job).touch now).jobID = job.jobID := by
        intro job
        cases result <;> rfl
      have hover : ∀ job : ValidateJob ρ,
          ((recordOutcome result now job).touch now).state.finished = true := by
        intro job
        cases result <;> rfl
      constructor
      · refine h.move hw hid (fun _ => rfl) ?_ ?_ ?_ ?_
        · intro hlive
          cases hlive
        · have honce := h.once w hw
          rw [hphase] at honce
          exact honce
        · intro job hjob _
          exact ⟨hover job, percent_touch _ now⟩
        · apply (activeJobs_adjust_le _).trans h.active
          intro job hjob hid _
          exact hrunning job hjob hid
      · refine moves_of_move (fun _ => rfl) ?_
        intro job hjob hsame
        have hstate : ((recordOutcome result now job).touch now).state ≠ .queued := by
          intro hqueued
          have hfinished := hover job
          rw [hqueued] at hfinished
          cases hfinished
        exact .on _ (hid job) (.inr ⟨hrunning job hjob hsame, hstate⟩)
          (percent_recordOutcome result now (h.percent job hjob).2)

/-! ### Whole runs -/

/-- How far a job is. -/
def JobState.rank : JobState → Nat
  | .queued => 0
  | .running => 1
  | .completed | .failed => 2

/-- What a run does to a job that stays. -/
structure Progressed (job job' : ValidateJob ρ) : Prop where
  jobID : job'.jobID = job.jobID
  rank : job.state.rank ≤ job'.state.rank
  percent : job.percent ≤ job'.percent
  ended : job.state.finished = true → job' = job

theorem Progressed.refl (job : ValidateJob ρ) :
  Progressed job job
  := ⟨rfl, Nat.le_refl _, Int64.le_refl _, fun _ => rfl⟩

theorem Progressed.advance {job job' job'' : ValidateJob ρ} (h : Progressed job job')
    (hstep : Advances job' job'') :
  Progressed job job''
  := by
  cases hstep with
  | same => exact h
  | on _ hid hstates hpercent =>
      refine ⟨hid.trans h.jobID, ?_, Int64.le_trans h.percent hpercent, ?_⟩
      · apply h.rank.trans
        rcases hstates with ⟨hold, hnew⟩ | ⟨hold, hnew⟩
        · rw [hold]
          exact Nat.zero_le _
        · rw [hold]
          cases hstate : job''.state with
          | queued => exact absurd hstate hnew
          | running => exact Nat.le_refl _
          | completed => exact Nat.le_succ _
          | failed => exact Nat.le_succ _
      · intro hover
        rw [h.ended hover] at hstates
        rcases hstates with ⟨hold, -⟩ | ⟨hold, -⟩ <;> rw [hold] at hover <;> cases hover

theorem jobInvariant_start (limits : JobLimits) :
  JobInvariant limits ({} : JobServer ρ)
  := by
  refine ⟨List.nodup_nil, List.nodup_nil, ?_, ?_, ?_, ?_, ?_, Nat.zero_le _⟩ <;>
    exact fun _ hmem => absurd hmem List.not_mem_nil

/-- Every job after a run is one from before it, further on, or was recorded on the way. -/
theorem JobInvariant.run {allowed : JobServer ρ → Prop} {s' : JobServer ρ}
    (h : JobInvariant limits s) (hrun : Relation.ReflTransGen (JobStep limits allowed) s s') :
  JobInvariant limits s' ∧
    (∀ id ∈ s.workers.map Worker.jobID, id ∈ s'.workers.map Worker.jobID) ∧
    ∀ job' ∈ s'.jobs, (∃ job ∈ s.jobs, Progressed job job') ∨
      job'.jobID ∉ s.workers.map Worker.jobID
  := by
  induction hrun with
  | refl => exact ⟨h, fun _ hid => hid, fun job' hjob' => .inl ⟨job', hjob', .refl job'⟩⟩
  | tail _ hstep ih =>
      obtain ⟨hinv, hused, hjobs⟩ := ih
      obtain ⟨hinv', hmoves⟩ := hinv.step hstep
      refine ⟨hinv', fun id hid => hmoves.used id (hused id hid), ?_⟩
      intro job'' hjob''
      rcases hmoves.known job'' hjob'' with ⟨job', hjob', hadvances⟩ | ⟨-, hnew⟩
      · rcases hjobs job' hjob' with ⟨job, hjob, hprogressed⟩ | hnew
        · exact .inl ⟨job, hjob, hprogressed.advance hadvances⟩
        · rw [hadvances.jobID]
          exact .inr hnew
      · exact .inr fun hold => hnew (hused _ hold)

end

/-- In every state that the server comes to, each job has been run once at most, no more jobs run
than may, and percentages are percentages.  Every step takes a job on or drops one that is over, and
over a whole run a job only moves on and stays as it is when it is over. -/
theorem validate_job_lifecycle (limits : JobLimits) (s : JobServer ρ)
    (hs : Relation.ReflTransGen (JobStep limits fun _ => True) {} s) :
  ((s.workers.map Worker.jobID).Nodup ∧ ∀ w ∈ s.workers, w.starts ≤ 1) ∧
    activeJobs s.jobs ≤ limits.maxActive ∧
    (∀ job ∈ s.jobs, 0 ≤ job.percent ∧ job.percent ≤ 100) ∧
    (∀ s', JobStep limits (fun _ => True) s s' → Moves s s') ∧
    ∀ s', Relation.ReflTransGen (JobStep limits fun _ => True) s s' →
      ∀ job ∈ s.jobs, ∀ job' ∈ s'.jobs, job'.jobID = job.jobID → Progressed job job'
  := by
  have hinv : JobInvariant limits s := ((jobInvariant_start limits).run hs).1
  refine ⟨⟨hinv.workerIDs, ?_⟩, hinv.active, hinv.percent, fun s' hstep => (hinv.step hstep).2, ?_⟩
  · intro w hw
    have honce := hinv.once w hw
    cases hphase : w.phase <;> rw [hphase] at honce
    · exact honce.trans (Nat.zero_le 1)
    · exact honce
    · exact honce
    · exact honce
  · intro s' hrun job hjob job' hjob' hid
    rcases (hinv.run hrun).2.2 job' hjob' with ⟨old, hold, hprogressed⟩ | hnew
    · have hsame : old = job :=
        List.inj_on_of_nodup_map hinv.jobIDs hold hjob (hprogressed.jobID.symm.trans hid)
      rw [← hsame]
      exact hprogressed
    · rw [hid] at hnew
      exact absurd (hinv.owned job hjob) hnew

/-! ### One job -/

/-- One place, and no queue. -/
def oneByOne : JobLimits where
  maxActive := 1
  maxQueued := 0

/-- One job is recorded. -/
def jobQueued : JobServer Unit where
  jobs := trimValidateJobs [newValidateJob (str "val-a") [] 1] []
  workers := [{ jobID := str "val-a", phase := .waiting }]

/-- It has a place. -/
def jobStarted : JobServer Unit := jobQueued.poll oneByOne (str "val-a") 2

/-- Its validation is back. -/
def jobReturned : JobServer Unit :=
  jobStarted.move (str "val-a") (fun job => job) (Worker.goTo (.returned (.ok ())))

/-- Its outcome is recorded. -/
def jobCompleted : JobServer Unit :=
  jobReturned.move (str "val-a") (fun job => (recordOutcome (.ok ()) 3 job).touch 3)
    (Worker.goTo .finished)

theorem oldestFirst_single (id : Str) (now : Nat) :
  OldestFirst [(newValidateJob id [] now : ValidateJob Unit)] []
  := ⟨List.Perm.refl _, List.Pairwise.nil⟩

theorem jobCompleted_run :
  Relation.ReflTransGen (JobStep oneByOne fun _ => True) {} jobCompleted
  := by
  have hcheck : JobStep oneByOne (fun _ => True) ({} : JobServer Unit) { checked := 1 } :=
    .check {} rfl
  have hcreate : JobStep oneByOne (fun _ => True) ({ checked := 1 } : JobServer Unit) jobQueued :=
    .create { checked := 1 } (str "val-a") [] 1 [] Nat.one_pos trivial List.not_mem_nil
      (oldestFirst_single _ _)
  have hpoll : JobStep oneByOne (fun _ => True) jobQueued jobStarted :=
    .poll jobQueued { jobID := str "val-a", phase := .waiting } 2 List.mem_cons_self rfl
  have hback : JobStep oneByOne (fun _ => True) jobStarted jobReturned :=
    .back jobStarted { jobID := str "val-a", phase := .running, starts := 1 } (.ok ())
      List.mem_cons_self rfl
  have hfinish : JobStep oneByOne (fun _ => True) jobReturned jobCompleted :=
    .finish jobReturned { jobID := str "val-a", phase := .returned (.ok ()), starts := 1 } (.ok ())
      3 List.mem_cons_self rfl
  exact .tail (.tail (.tail (.tail (.single hcheck) hcreate) hpoll) hback) hfinish

/-- The job was run once, and is completed. -/
theorem validate_job_lifecycle_one :
  (∀ w ∈ jobCompleted.workers, w.starts ≤ 1) ∧ activeJobs jobCompleted.jobs ≤ 1 ∧
    jobCompleted.jobs.map ValidateJob.state = [.completed]
  := by
  obtain ⟨⟨-, honce⟩, hactive, -⟩ := validate_job_lifecycle oneByOne jobCompleted jobCompleted_run
  exact ⟨honce, hactive, rfl⟩

end Api
