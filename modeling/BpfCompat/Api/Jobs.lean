import BpfCompat.Go.Strings
import BpfCompat.Go.Collections
import BpfCompat.KeyedList
import BpfCompat.Transition

/-!
# Validate jobs

A submission is checked against the limits of the server, recorded as a queued job, and left to a
goroutine of its own.  The goroutine polls for a place among the active jobs, runs the validation,
which reports its progress, and records the outcome.  The jobs are kept in one map under a lock;
when there are too many, the oldest of the finished ones are dropped.

Every step below is one section that holds the lock, so a run of the system is an interleaving of
the submissions and goroutines.  A submission takes the lock twice, once for the check and once to
record its job, and other steps may come in between.
-/

namespace Api

open Go

/-! ### The source -/

inductive JobState where
  | queued
  | running
  | completed
  | failed
deriving DecidableEq

/-- The job is over. -/
def JobState.finished : JobState → Bool
  | .completed | .failed => true
  | _ => false

/-- A job and its status, with a response of some type.  Times are readings of the clock; the zero
time is `0`. -/
structure ValidateJob (ρ : Type*) where
  jobID : Str
  state : JobState
  stage : Str
  message : Str
  percent : Int64
  totalProfiles : Int64
  completedProfiles : Int64
  profileStatusByID : Map Str Str
  startedAt : Nat
  updatedAt : Nat
  finishedAt : Nat := 0
  response : Option ρ := none
  error : Str := []

/-- What the validation reports. -/
structure ProgressUpdate where
  stage : Str := []
  message : Str := []
  totalProfiles : Int64 := 0
  completedProfiles : Int64 := 0
  profileID : Str := []
  profileStatus : Str := []

/-- How many jobs may run, and how many may wait when none can start. -/
structure JobLimits where
  maxActive : Nat
  maxQueued : Nat

def maxStoredValidateJobs : Nat := 200

def clamp (value minValue maxValue : Int64) : Int64 :=
  if value < minValue then minValue
  else if maxValue < value then maxValue
  else value

def estimateValidateProgressPercent (stage : Str) (completedProfiles totalProfiles : Int64) :
    Int64 :=
  if stage = str "prepare_run" then 5
  else if stage = str "inspect_artifact" then 15
  else if stage = str "stage_artifact" then 25
  else if stage = str "load_matrix" then 35
  else if stage = str "load_manifest" then 40
  else if stage = str "validate_targets" then
    if totalProfiles ≤ 0 then 50
    else
      let completedProfiles := if completedProfiles < 0 then 0 else completedProfiles
      let completedProfiles :=
        if totalProfiles < completedProfiles then totalProfiles else completedProfiles
      45 + completedProfiles * 45 / totalProfiles
  else if stage = str "write_report" then 92
  else if stage = str "persist_registry" then 97
  else if stage = str "completed" then 100
  else 5

section

variable {ρ : Type*}

def activeJobs (jobs : List (ValidateJob ρ)) : Nat := jobs.countP fun job => job.state = .running

def queuedJobs (jobs : List (ValidateJob ρ)) : Nat := jobs.countP fun job => job.state = .queued

/-- There is room for another submission.  The queue is not looked at while a place is free. -/
def ensureValidateJobCapacity (limits : JobLimits) (jobs : List (ValidateJob ρ)) : Bool :=
  activeJobs jobs < limits.maxActive || queuedJobs jobs < limits.maxQueued

/-- A job as it is recorded first. -/
def newValidateJob (jobID : Str) (profileIDs : List Str) (now : Nat) : ValidateJob ρ :=
  let profileStatuses := ((profileIDs.map trimSpace).filter (· ≠ [])).foldl
    (fun (m : Map Str Str) cleanID => m.insert cleanID (str "pending")) ∅
  { jobID := jobID
    state := .queued
    stage := str "queued"
    message := str "Validation job queued"
    percent := 0
    totalProfiles := Int64.ofNat profileStatuses.entries.length
    completedProfiles := 0
    profileStatusByID := profileStatuses
    startedAt := now
    updatedAt := now }

/-- The jobs without the first of a list of finished ones, as many as there are too many. -/
def trimValidateJobs (jobs finished : List (ValidateJob ρ)) : List (ValidateJob ρ) :=
  let dropped := (finished.take (jobs.length - maxStoredValidateJobs)).map ValidateJob.jobID
  jobs.filter fun job => job.jobID ∉ dropped

/-- An order in which the finished jobs may be dropped: the oldest first.  The map is read in no
particular order, and the sort leaves equal times as it likes. -/
structure OldestFirst (jobs finished : List (ValidateJob ρ)) : Prop where
  perm : finished.Perm (jobs.filter fun job => job.state.finished)
  sorted : finished.Pairwise fun job job' => job.updatedAt ≤ job'.updatedAt

/-- What `updateValidateJob` does to a job after the change it was called for. -/
def ValidateJob.touch (now : Nat) (job : ValidateJob ρ) : ValidateJob ρ :=
  { job with
    percent := clamp job.percent 0 100
    startedAt := if job.startedAt = 0 then now else job.startedAt
    updatedAt := now }

/-- The job has got a place. -/
def ValidateJob.start (now : Nat) (job : ValidateJob ρ) : ValidateJob ρ :=
  { job with
    state := .running
    stage := str "queued"
    message := str "Validation job started"
    percent := if job.percent < 1 then 1 else job.percent
    startedAt := if job.startedAt = 0 then now else job.startedAt
    updatedAt := now }

/-- The change that a report of progress makes. -/
def applyRunnerProgress (update : ProgressUpdate) (job : ValidateJob ρ) : ValidateJob ρ :=
  let stage := trimSpace update.stage
  let stage := if stage = [] then str "running" else stage
  let message := trimSpace update.message
  let totalProfiles :=
    if 0 < update.totalProfiles then update.totalProfiles else job.totalProfiles
  let completedProfiles :=
    if 0 ≤ update.completedProfiles then update.completedProfiles else job.completedProfiles
  let profileID := trimSpace update.profileID
  let status := trimSpace update.profileStatus
  let status := if status = [] then str "running" else status
  let nextPercent := estimateValidateProgressPercent stage completedProfiles totalProfiles
  { job with
    state := .running
    stage := stage
    message := if message ≠ [] then message else job.message
    totalProfiles := totalProfiles
    completedProfiles := completedProfiles
    profileStatusByID :=
      if profileID ≠ [] then job.profileStatusByID.insert profileID status
      else job.profileStatusByID
    percent := if job.percent < nextPercent then nextPercent else job.percent }

/-- The change that the outcome of the validation makes. -/
def recordOutcome (result : Except Str ρ) (now : Nat) (job : ValidateJob ρ) : ValidateJob ρ :=
  match result with
  | .error e =>
    { job with
      state := .failed
      stage := str "failed"
      message := str "Validation failed"
      error := e
      finishedAt := now }
  | .ok response =>
    { job with
      state := .completed
      stage := str "completed"
      message := str "Validation completed"
      percent := 100
      response := some response
      error := []
      finishedAt := now }

end

/-! ### The system -/

/-- Where the goroutine of a job is. -/
inductive WorkerPhase (ρ : Type*) where
  /-- Polling for a place. -/
  | waiting
  /-- Inside the validation. -/
  | running
  /-- About to record the outcome. -/
  | returned (result : Except Str ρ)
  | finished

/-- The goroutine of a job, and how often it has called the validation. -/
structure Worker (ρ : Type*) where
  jobID : Str
  phase : WorkerPhase ρ
  starts : Nat := 0

/-- The jobs, the goroutines, and the submissions that were checked and have not recorded their job
yet. -/
structure JobServer (ρ : Type*) where
  jobs : List (ValidateJob ρ) := []
  workers : List (Worker ρ) := []
  checked : Nat := 0

section

variable {ρ : Type*}

/-- The job and the goroutine of one identifier changed. -/
def JobServer.move (s : JobServer ρ) (id : Str) (f : ValidateJob ρ → ValidateJob ρ)
    (g : Worker ρ → Worker ρ) : JobServer ρ :=
  { s with
    jobs := KeyedList.adjust ValidateJob.jobID id f s.jobs
    workers := KeyedList.adjust Worker.jobID id g s.workers }

/-- The goroutine goes on to a phase. -/
def Worker.goTo (phase : WorkerPhase ρ) (w : Worker ρ) : Worker ρ := { w with phase := phase }

/-- The goroutine calls the validation. -/
def Worker.call (w : Worker ρ) : Worker ρ := { w with phase := .running, starts := w.starts + 1 }

/-- One round of `waitForValidateRunSlot`. -/
def JobServer.poll (limits : JobLimits) (s : JobServer ρ) (id : Str) (now : Nat) : JobServer ρ :=
  match find ValidateJob.jobID s.jobs id with
  | none => s.move id (fun job => job) (Worker.goTo .finished)
  | some job =>
    if job.state = .running then s.move id (fun job => job) Worker.call
    else if activeJobs s.jobs < limits.maxActive then s.move id (ValidateJob.start now) Worker.call
    else s

/-- The steps of the system.  Jobs are recorded where `allowed` holds.  The identifier of a job is
new, and a validation reports progress until it returns. -/
inductive JobStep (limits : JobLimits) (allowed : JobServer ρ → Prop) :
    JobServer ρ → JobServer ρ → Prop
  /-- A submission is checked. -/
  | check (s : JobServer ρ) (room : ensureValidateJobCapacity limits s.jobs = true) :
      JobStep limits allowed s { s with checked := s.checked + 1 }
  /-- A submission records its job and starts the goroutine. -/
  | create (s : JobServer ρ) (id : Str) (profileIDs : List Str) (now : Nat)
      (finished : List (ValidateJob ρ)) (checked : 0 < s.checked) (permitted : allowed s)
      (new : id ∉ s.workers.map Worker.jobID)
      (oldest : OldestFirst (s.jobs ++ [newValidateJob id profileIDs now]) finished) :
      JobStep limits allowed s
        { jobs := trimValidateJobs (s.jobs ++ [newValidateJob id profileIDs now]) finished
          workers := s.workers ++ [{ jobID := id, phase := .waiting }]
          checked := s.checked - 1 }
  | poll (s : JobServer ρ) (w : Worker ρ) (now : Nat) (mem : w ∈ s.workers)
      (phase : w.phase = .waiting) : JobStep limits allowed s (s.poll limits w.jobID now)
  | progress (s : JobServer ρ) (w : Worker ρ) (update : ProgressUpdate) (now : Nat)
      (mem : w ∈ s.workers) (phase : w.phase = .running) :
      JobStep limits allowed s
        (s.move w.jobID (fun job => (applyRunnerProgress update job).touch now) fun w => w)
  | back (s : JobServer ρ) (w : Worker ρ) (result : Except Str ρ) (mem : w ∈ s.workers)
      (phase : w.phase = .running) :
      JobStep limits allowed s (s.move w.jobID (fun job => job) (Worker.goTo (.returned result)))
  | finish (s : JobServer ρ) (w : Worker ρ) (result : Except Str ρ) (now : Nat)
      (mem : w ∈ s.workers) (phase : w.phase = .returned result) :
      JobStep limits allowed s
        (s.move w.jobID (fun job => (recordOutcome result now job).touch now)
          (Worker.goTo .finished))

end

end Api
