import BpfCompat.Api.Jobs
import BpfCompat.Runner.Pool

/-!
# Progress of a job

The goroutines of a run report to the job that runs it: the goroutine of a profile reports that the
profile is running, and the collector reports every result with the number of results so far.  The
first kind of report has no number, and the job takes it for zero.

What the job shows never goes back exactly if a goroutine reports that its profile is running only
while the job shows no completed profile (`progress_never_back_iff`).
-/

namespace Api

open Go Schema Matrices Runner

/-! ### Reports -/

def validateTargets : Str := str "validate_targets"

/-- The report before the goroutines are started. -/
def startUpdate (totalProfiles : Nat) : ProgressUpdate where
  stage := validateTargets
  message := str "Starting VM profile validation"
  totalProfiles := Int64.ofNat totalProfiles
  completedProfiles := 0

/-- The report of the goroutine of a profile. -/
def runningUpdate (totalProfiles : Nat) (p : MatrixProfile) : ProgressUpdate where
  stage := validateTargets
  message := str "Running profile " ++ p.id
  totalProfiles := Int64.ofNat totalProfiles
  profileID := p.id
  profileStatus := str "running"

/-- The report of the collector. -/
def completedUpdate (totalProfiles completedProfiles : Nat) (target : Target) : ProgressUpdate where
  stage := validateTargets
  message := str "Completed profile " ++ target.profileID ++ str " (" ++ itoa completedProfiles ++
    str "/" ++ itoa totalProfiles ++ str ")"
  totalProfiles := Int64.ofNat totalProfiles
  completedProfiles := Int64.ofNat completedProfiles
  profileID := target.profileID
  profileStatus := target.status

/-! ### The pool and the job -/

/-- The pool and the job it reports to, with the goroutines that have reported and the profiles whose
results the collector has reported. -/
structure Watched (ρ : Type*) where
  pool : Pool
  job : ValidateJob ρ
  announced : List Nat := []
  settled : List Nat := []

section

variable [UnicodeTables] {ρ : Type*} (concurrency : Int64) (worlds : Nat → World) (cfg : Config)
  (staged : Staged) (m : ProfileMatrix)

omit [UnicodeTables] in
/-- The pool before the first goroutine is started, and the job after the first report. -/
def Watched.start (job : ValidateJob ρ) (now : Nat) : Watched ρ where
  pool := .start m.profiles.length
  job := (applyRunnerProgress (startUpdate m.profiles.length) job).touch now

/-- One step of the pool, or one report.  A goroutine reports when it has its place and before it
executes its target, and the collector reports a result when it has received it. -/
inductive WatchStep : Watched ρ → Watched ρ → Prop where
  | silent {s : Watched ρ} {pool : Pool} (hstep : PoolStep concurrency worlds cfg staged m s.pool pool)
      (hcount : pool.completed = s.pool.completed)
      (hannounced : ∀ i, s.pool.phases[i]? = some .running →
        pool.phases[i]? = some .running ∨ i ∈ s.announced) :
      WatchStep s { s with pool }
  | announce {s : Watched ρ} {i : Nat} {p : MatrixProfile} (now : Nat)
      (hi : s.pool.phases[i]? = some .running) (hp : m.profiles[i]? = some p)
      (hnew : i ∉ s.announced) :
      WatchStep s
        { s with
          job := (applyRunnerProgress (runningUpdate m.profiles.length p) s.job).touch now
          announced := i :: s.announced }
  | collect {s : Watched ρ} {r : TargetExecutionResult} {rest : List TargetExecutionResult} (now : Nat)
      (hmain : s.pool.main = .collecting) (hresults : s.pool.results = r :: rest) :
      WatchStep s
        { s with
          pool :=
            { s.pool with
              results := rest
              completed := s.pool.completed + 1
              targets := s.pool.targets.set r.index (collected r.outcome)
              progress := s.pool.progress ++ [s.pool.completed + 1] }
          job := (applyRunnerProgress (completedUpdate m.profiles.length (s.pool.completed + 1)
            r.outcome.target) s.job).touch now
          settled := r.index :: s.settled }

/-- The job shows a profile with a status. -/
def Shows (job : ValidateJob ρ) (id status : Str) : Prop := job.profileStatusByID.lookup id = some status

/-- The status is one with which a profile ends. -/
def Final (status : Str) : Prop := status ≠ str "pending" ∧ status ≠ str "running"

/-- What the job shows later does not go back behind what it showed earlier. -/
structure NeverBack (earlier later : Watched ρ) : Prop where
  count : earlier.job.completedProfiles ≤ later.job.completedProfiles
  final : ∀ id status, Shows earlier.job id status → Final status →
    ¬ Shows later.job id (str "running")

/-- The states of a run one after the other, the first of which is the first state of the pool. -/
structure IsRun (job : ValidateJob ρ) (now : Nat) (run : List (Watched ρ)) : Prop where
  start : run.head? = some (.start m job now)
  steps : run.IsChain (WatchStep concurrency worlds cfg staged m)

/-- A goroutine reports that its profile is running only while the job shows no completed profile. -/
def ReportsEarly (s s' : Watched ρ) : Prop :=
  s'.announced ≠ s.announced → s.job.completedProfiles = 0

/-! ### What a report changes -/

omit [UnicodeTables] in
theorem ofNat_le {k n : Nat} (h : k ≤ n) (hn : n < 2 ^ 63) :
  Int64.ofNat k ≤ Int64.ofNat n
  := by
  rw [Int64.le_iff_toInt_le, Int64.toInt_ofNat_of_lt (by omega), Int64.toInt_ofNat_of_lt hn]
  exact_mod_cast h

omit [UnicodeTables] in
theorem completedProfiles_touch (update : ProgressUpdate) (h : 0 ≤ update.completedProfiles)
    (job : ValidateJob ρ) (now : Nat) :
  ((applyRunnerProgress update job).touch now).completedProfiles = update.completedProfiles
  := by
  simp only [applyRunnerProgress, ValidateJob.touch, if_pos h]

omit [UnicodeTables] in
theorem totalProfiles_touch (update : ProgressUpdate) (h : 0 < update.totalProfiles)
    (job : ValidateJob ρ) (now : Nat) :
  ((applyRunnerProgress update job).touch now).totalProfiles = update.totalProfiles
  := by
  simp only [applyRunnerProgress, ValidateJob.touch, if_pos h]

omit [UnicodeTables] in
/-- A report changes what is shown of its own profile only. -/
theorem lookup_touch_of_ne {update : ProgressUpdate} {id : Str} (h : trimSpace update.profileID ≠ id)
    (job : ValidateJob ρ) (now : Nat) :
  ((applyRunnerProgress update job).touch now).profileStatusByID.lookup id
    = job.profileStatusByID.lookup id
  := by
  simp only [applyRunnerProgress, ValidateJob.touch]
  split_ifs
  · exact AList.lookup_insert_ne h.symm
  · exact AList.lookup_insert_ne h.symm
  · rfl

omit [UnicodeTables] in
/-- A report that a profile is running sets the number of completed profiles back. -/
theorem completedProfiles_runningUpdate (n : Nat) (p : MatrixProfile) (job : ValidateJob ρ)
    (now : Nat) :
  ((applyRunnerProgress (runningUpdate n p) job).touch now).completedProfiles = 0
  := completedProfiles_touch (runningUpdate n p) (Int64.le_refl 0) job now

omit [UnicodeTables] in
/-- A profile whose goroutine reports is shown as running. -/
theorem lookup_runningUpdate {n : Nat} {p : MatrixProfile} (hp : trimSpace p.id ≠ [])
    (job : ValidateJob ρ) (now : Nat) :
  ((applyRunnerProgress (runningUpdate n p) job).touch now).profileStatusByID.lookup (trimSpace p.id)
    = some (str "running")
  := by
  have hstatus : trimSpace (str "running") = str "running" := by decide
  have hne : str "running" ≠ [] := by decide
  simp only [applyRunnerProgress, ValidateJob.touch, runningUpdate, if_pos hp, hstatus, if_neg hne]
  exact AList.lookup_insert _

/-! ### What holds throughout -/

/-- What every state of a run satisfies. -/
structure WatchInvariant (s : Watched ρ) : Prop where
  pool : PoolInvariant concurrency worlds cfg staged m s.pool
  settled : ∀ i ∈ s.settled, SentAt s.pool.phases i ∧ i ∉ s.pool.results.map (·.index)
  final : ∀ id status, Shows s.job id status → Final status →
    ∃ i ∈ s.settled, ∃ p, m.profiles[i]? = some p ∧ trimSpace p.id = id
  total : s.job.totalProfiles = Int64.ofNat m.profiles.length
  count : s.job.completedProfiles = 0 ∨ s.job.completedProfiles = Int64.ofNat s.pool.completed

variable {concurrency worlds cfg staged m}

/-- How a step of the pool moves the goroutines of the profiles. -/
theorem sentAt_step {s s' : Pool} (h : PoolStep concurrency worlds cfg staged m s s') {i : Nat}
    (hi : SentAt s.phases i) :
  SentAt s'.phases i
  := by
  obtain ⟨ph, hph, hsent⟩ := hi
  have hset : ∀ {j : Nat} {x a : Phase}, s.phases[j]? = some x → (x.sent = true → a.sent = true) →
      SentAt (s.phases.set j a) i := by
    intro j x a hj hxa
    rw [SentAt, List.getElem?_set]
    split_ifs with hij hlt
    · rw [hij, hph] at hj
      cases hj
      exact ⟨a, rfl, hxa hsent⟩
    · rw [hij, hph] at hj
      exact absurd (List.getElem?_eq_some_iff.mp hph).1 (hij ▸ hlt)
    · exact ⟨ph, hph, hsent⟩
  cases h with
  | spawn hmain hidle => exact hset hidle (by simp [Phase.sent])
  | collect hmain hall => exact ⟨ph, hph, hsent⟩
  | acquire hj hsem => exact hset hj (by simp [Phase.sent])
  | execute hj hp => exact hset hj (by simp [Phase.sent])
  | send hj hopen hroom => exact hset hj (by simp [Phase.sent])
  | sendClosed hj hclosed => exact hset hj (by simp [Phase.sent])
  | release hj hsem => exact hset hj (by simp [Phase.sent])
  | done hj hwg => exact hset hj (by simp [Phase.sent])
  | doneNegative hj hwg => exact hset hj (by simp [Phase.sent])
  | close hcloser hwg => exact ⟨ph, hph, hsent⟩
  | receive hmain hresults => exact ⟨ph, hph, hsent⟩
  | stop hmain hresults hclosed => exact ⟨ph, hph, hsent⟩

/-- A step that receives nothing leaves the channel as it is, or a goroutine sends its result. -/
theorem results_step {s s' : Pool} (h : PoolStep concurrency worlds cfg staged m s s')
    (hcount : s'.completed = s.completed) {i : Nat} (hi : i ∈ s'.results.map (·.index)) :
  i ∈ s.results.map (·.index) ∨ ∃ outcome, s.phases[i]? = some (.returned outcome)
  := by
  cases h with
  | @send j outcome hj hopen hroom =>
      rw [List.map_append, List.mem_append] at hi
      obtain hi | hi := hi
      · exact .inl hi
      · obtain rfl := List.mem_singleton.mp hi
        exact .inr ⟨outcome, hj⟩
  | receive hmain hresults =>
      dsimp only at hcount
      omega
  | _ => exact .inl hi

/-- No more results are received than there are profiles. -/
theorem completed_le {s : Pool} (h : PoolInvariant concurrency worlds cfg staged m s) :
  s.completed ≤ m.profiles.length
  := by
  obtain ⟨received, ha⟩ := h.accounted
  have hsub : received ⊆ List.range m.profiles.length := by
    intro i hi
    obtain ⟨ph, hph, -⟩ := (ha.sent i).mp (List.mem_append_left _ hi)
    rw [List.mem_range, ← h.balanced.length]
    exact (List.getElem?_eq_some_iff.mp hph).1
  have hle := (ha.nodup.of_append_left.subperm hsub).length_le
  rw [List.length_range] at hle
  rw [ha.completed]
  exact hle

/-- What the collector receives is the result of a profile it has not reported. -/
theorem WatchInvariant.received {s : Watched ρ} (h : WatchInvariant concurrency worlds cfg staged m s)
    {r : TargetExecutionResult} {rest : List TargetExecutionResult}
    (hresults : s.pool.results = r :: rest) :
  SentAt s.pool.phases r.index ∧ r.index ∉ rest.map (·.index) ∧ r.index ∉ s.settled
    ∧ ∃ p, m.profiles[r.index]? = some p ∧ r.outcome.target.profileID = p.id
  := by
  obtain ⟨received, ha⟩ := h.pool.accounted
  have hmem : r.index ∈ s.pool.results.map (·.index) := by
    rw [hresults]
    exact List.mem_cons_self
  have hnodup := (List.nodup_append.mp ha.nodup).2.1
  rw [hresults, List.map_cons, List.nodup_cons] at hnodup
  obtain ⟨p, hp, houtcome⟩ := ha.own r (by simp [hresults])
  refine ⟨(ha.sent r.index).mp (List.mem_append_right _ hmem), hnodup.1, ?_, p, hp, ?_⟩
  · intro hsettled
    exact (h.settled r.index hsettled).2 hmem
  · rw [houtcome]
    exact (runTarget_records (worlds r.index) cfg staged p).profileID

variable (hm : MatrixValid m) (hlength : m.profiles.length < 2 ^ 63)

include hm hlength

omit [UnicodeTables] in
theorem ofNat_length_pos :
  0 < Int64.ofNat m.profiles.length
  := by
  have hpos : 0 < m.profiles.length := List.length_pos_of_ne_nil hm.nonempty
  rw [Int64.lt_iff_toInt_lt, Int64.toInt_ofNat_of_lt hlength, Int64.toInt_zero]
  exact_mod_cast hpos

theorem WatchInvariant.step {s s' : Watched ρ} (h : WatchInvariant concurrency worlds cfg staged m s)
    (hstep : WatchStep concurrency worlds cfg staged m s s') :
  WatchInvariant concurrency worlds cfg staged m s'
  := by
  cases hstep with
  | silent hstep hcount hannounced =>
      refine ⟨h.pool.step hstep, ?_, h.final, h.total, ?_⟩
      · intro i hi
        obtain ⟨hsent, hnot⟩ := h.settled i hi
        refine ⟨sentAt_step hstep hsent, ?_⟩
        intro hmem
        obtain hmem | ⟨outcome, hphase⟩ := results_step hstep hcount hmem
        · exact hnot hmem
        · obtain ⟨ph, hph, hsent⟩ := hsent
          rw [hphase] at hph
          cases hph
          cases hsent
      · rw [hcount]
        exact h.count
  | @announce i p now hi hp hnew =>
      refine ⟨h.pool, h.settled, ?_, ?_, .inl ?_⟩
      · intro id status hshows hfinal
        by_cases hid : trimSpace p.id = id
        · rw [Shows, ← hid, lookup_runningUpdate (hm.trimSpace_ne_nil (List.mem_of_getElem? hp))]
            at hshows
          cases hshows
          exact absurd rfl hfinal.2
        · rw [Shows, lookup_touch_of_ne hid] at hshows
          exact h.final id status hshows hfinal
      · exact totalProfiles_touch (runningUpdate _ p) (ofNat_length_pos hm hlength) _ _
      · exact completedProfiles_runningUpdate _ _ _ _
  | @collect r rest now hmain hresults =>
      obtain ⟨hsent, hrest, -, p, hp, hprofile⟩ := h.received hresults
      have hpool := h.pool.step (.receive hmain hresults)
      have hle := completed_le hpool
      dsimp only at hle
      refine ⟨hpool, ?_, ?_, ?_, .inr ?_⟩
      · intro i hi
        obtain rfl | hi := List.mem_cons.mp hi
        · exact ⟨hsent, hrest⟩
        · obtain ⟨hsent', hnot⟩ := h.settled i hi
          rw [hresults, List.map_cons, List.mem_cons, not_or] at hnot
          exact ⟨hsent', hnot.2⟩
      · intro id status hshows hfinal
        by_cases hid : trimSpace r.outcome.target.profileID = id
        · exact ⟨r.index, List.mem_cons_self, p, hp, by rw [← hid, hprofile]⟩
        · rw [Shows, lookup_touch_of_ne hid] at hshows
          obtain ⟨i, hi, hprofile'⟩ := h.final id status hshows hfinal
          exact ⟨i, List.mem_cons_of_mem _ hi, hprofile'⟩
      · exact totalProfiles_touch (completedUpdate _ _ _) (ofNat_length_pos hm hlength) _ _
      · exact completedProfiles_touch (completedUpdate _ _ _)
          (ofNat_le (Nat.zero_le _) (lt_of_le_of_lt hle hlength)) _ _

omit [UnicodeTables] hlength in
theorem index_eq_of_trimSpace_eq {i j : Nat} {p q : MatrixProfile} (hp : m.profiles[i]? = some p)
    (hq : m.profiles[j]? = some q) (h : trimSpace p.id = trimSpace q.id) :
  i = j
  := by
  have hlt := (List.getElem?_eq_some_iff.mp hp).1
  apply (List.getElem?_inj (by simpa using hlt) hm.distinct).mp
  rw [List.getElem?_map, List.getElem?_map, hp, hq, Option.map_some, Option.map_some, h]

omit hlength in
/-- What is shown of a profile does not change once its result has been reported. -/
theorem shows_step {s s' : Watched ρ} (h : WatchInvariant concurrency worlds cfg staged m s)
    (hstep : WatchStep concurrency worlds cfg staged m s s') {i : Nat} {p : MatrixProfile}
    (hp : m.profiles[i]? = some p) {status : Str} (hi : i ∈ s.settled)
    (hshows : Shows s.job (trimSpace p.id) status) :
  i ∈ s'.settled ∧ Shows s'.job (trimSpace p.id) status
  := by
  cases hstep with
  | silent hstep hcount hannounced => exact ⟨hi, hshows⟩
  | @announce j q now hj hq hnew =>
      refine ⟨hi, ?_⟩
      have hne : trimSpace q.id ≠ trimSpace p.id := by
        intro heq
        obtain rfl := index_eq_of_trimSpace_eq hm hq hp heq
        obtain ⟨ph, hph, hsent⟩ := (h.settled j hi).1
        rw [hj] at hph
        cases hph
        cases hsent
      rw [Shows, lookup_touch_of_ne hne]
      exact hshows
  | @collect r rest now hmain hresults =>
      obtain ⟨-, -, hnew, q, hq, hprofile⟩ := h.received hresults
      refine ⟨List.mem_cons_of_mem _ hi, ?_⟩
      have hne : trimSpace r.outcome.target.profileID ≠ trimSpace p.id := by
        rw [hprofile]
        intro heq
        obtain rfl := index_eq_of_trimSpace_eq hm hq hp heq
        exact hnew hi
      rw [Shows, lookup_touch_of_ne hne]
      exact hshows

/-- A profile shown with a final status is shown with it from then on. -/
theorem shows_run {s s' : Watched ρ} (h : WatchInvariant concurrency worlds cfg staged m s)
    (hrun : Relation.ReflTransGen (WatchStep concurrency worlds cfg staged m) s s') {id status : Str}
    (hshows : Shows s.job id status) (hfinal : Final status) :
  Shows s'.job id status
  := by
  obtain ⟨i, hi, p, hp, rfl⟩ := h.final id status hshows hfinal
  refine (Transition.invariant (P := fun t => WatchInvariant concurrency worlds cfg staged m t
    ∧ i ∈ t.settled ∧ Shows t.job (trimSpace p.id) status) ?_ hrun ⟨h, hi, hshows⟩).2.2
  rintro t t' ⟨ht, hit, hshowst⟩ hstep
  exact ⟨ht.step hm hlength hstep, shows_step hm ht hstep hp hit hshowst⟩

/-- The first state of a run, if the job shows pending profiles only. -/
theorem watchInvariant_start {job : ValidateJob ρ}
    (hpending : ∀ id status, Shows job id status → status = str "pending") (now : Nat) :
  WatchInvariant concurrency worlds cfg staged m (.start m job now)
  := by
  refine ⟨poolInvariant_start concurrency worlds cfg staged m, ?_, ?_, ?_, .inl ?_⟩
  · intro i hi
    cases hi
  · intro id status hshows hfinal
    exact absurd (hpending id status hshows) hfinal.1
  · exact totalProfiles_touch (startUpdate _) (ofNat_length_pos hm hlength) _ _
  · exact completedProfiles_touch (startUpdate _) (Int64.le_refl 0) _ _

omit hm in
theorem WatchInvariant.completedProfiles_mem {s : Watched ρ}
    (h : WatchInvariant concurrency worlds cfg staged m s) :
  0 ≤ s.job.completedProfiles ∧ s.job.completedProfiles ≤ s.job.totalProfiles
  := by
  have hle := completed_le h.pool
  rw [h.total]
  obtain hzero | hcount := h.count
  · rw [hzero]
    exact ⟨Int64.le_refl 0, ofNat_le (Nat.zero_le _) hlength⟩
  · rw [hcount]
    exact ⟨ofNat_le (Nat.zero_le _) (lt_of_le_of_lt hle hlength), ofNat_le hle hlength⟩

/-! ### Runs -/

omit hm hlength in
/-- A step by which a goroutine reports sets the number of completed profiles back. -/
theorem completedProfiles_of_announced {s s' : Watched ρ}
    (hstep : WatchStep concurrency worlds cfg staged m s s') (h : s'.announced ≠ s.announced) :
  s'.job.completedProfiles = 0
  := by
  cases hstep with
  | silent hstep hcount hannounced => exact absurd rfl h
  | announce now hi hp hnew => exact completedProfiles_runningUpdate _ _ _ _
  | collect now hmain hresults => exact absurd rfl h

omit hm in
/-- Where goroutines report early the job shows the number of results the collector has received, and
it does not decrease. -/
theorem completedProfiles_step {s s' : Watched ρ}
    (h : WatchInvariant concurrency worlds cfg staged m s)
    (hstep : WatchStep concurrency worlds cfg staged m s s') (hearly : ReportsEarly s s')
    (hcount : s.job.completedProfiles = Int64.ofNat s.pool.completed) :
  s'.job.completedProfiles = Int64.ofNat s'.pool.completed ∧ s.pool.completed ≤ s'.pool.completed
  := by
  cases hstep with
  | silent hstep hsame hannounced =>
      dsimp only
      rw [hsame]
      exact ⟨hcount, le_rfl⟩
  | @announce i p now hi hp hnew =>
      refine ⟨?_, le_rfl⟩
      have hzero := hearly (List.cons_ne_self i s.announced)
      dsimp only
      rw [← hcount, hzero, completedProfiles_runningUpdate]
  | @collect r rest now hmain hresults =>
      have hle := completed_le (h.pool.step (.receive hmain hresults))
      refine ⟨?_, Nat.le_succ _⟩
      exact completedProfiles_touch (completedUpdate _ _ _)
        (ofNat_le (Nat.zero_le _) (lt_of_le_of_lt hle hlength)) _ _

/-- Where goroutines report early, what the job shows later does not go back. -/
theorem neverBack_of_early {s s' : Watched ρ} (h : WatchInvariant concurrency worlds cfg staged m s)
    (hcount : s.job.completedProfiles = Int64.ofNat s.pool.completed)
    (hrun : Relation.ReflTransGen
      (fun s s' => WatchStep concurrency worlds cfg staged m s s' ∧ ReportsEarly s s') s s') :
  NeverBack s s'
  := by
  obtain ⟨h', hcount', hle⟩ := Transition.invariant
    (P := fun t => WatchInvariant concurrency worlds cfg staged m t
      ∧ t.job.completedProfiles = Int64.ofNat t.pool.completed
      ∧ s.pool.completed ≤ t.pool.completed)
    (by
      rintro t t' ⟨ht, htcount, htle⟩ ⟨hstep, hearly⟩
      obtain ⟨hnext, hmono⟩ := completedProfiles_step hlength ht hstep hearly htcount
      exact ⟨ht.step hm hlength hstep, hnext, htle.trans hmono⟩)
    hrun ⟨h, hcount, le_rfl⟩
  constructor
  · rw [hcount, hcount']
    exact ofNat_le hle (lt_of_le_of_lt (completed_le h'.pool) hlength)
  · intro id status hshows hfinal hrunning
    have hsteps : Relation.ReflTransGen (WatchStep concurrency worlds cfg staged m) s s' := by
      refine Transition.invariant (fun t t' ht hstep => ?_) hrun .refl
      exact ht.tail hstep.1
    have hkept := shows_run hm hlength h hsteps hshows hfinal
    rw [Shows, hkept] at hrunning
    cases hrunning
    exact hfinal.2 rfl

/-- Along a run the number of completed profiles never decreases or exceeds the total, and no profile
is shown as running after it was shown with a final status, exactly if every goroutine reports that
its profile is running while the job shows no completed profile. -/
theorem progress_never_back_iff {job : ValidateJob ρ} {now : Nat}
    (hpending : ∀ id status, Shows job id status → status = str "pending") {run : List (Watched ρ)}
    (hrun : IsRun concurrency worlds cfg staged m job now run) :
  (run.Pairwise NeverBack ∧ ∀ s ∈ run, s.job.completedProfiles ≤ s.job.totalProfiles)
    ↔ run.IsChain ReportsEarly
  := by
  have hstart : WatchInvariant concurrency worlds cfg staged m (.start m job now) :=
    watchInvariant_start hm hlength hpending now
  have hinvariant : ∀ s ∈ run, WatchInvariant concurrency worlds cfg staged m s :=
    Transition.forall_mem_run (fun _ _ h hstep => h.step hm hlength hstep) hrun.start hstart hrun.steps
  constructor
  · rintro ⟨hback, -⟩
    apply (Transition.isChain_and hrun.steps hback.isChain).imp_of_mem_imp
    rintro s s' hs - ⟨hstep, hnext⟩ hannounced
    have hle := hnext.count
    rw [completedProfiles_of_announced hstep hannounced] at hle
    exact Int64.le_antisymm hle ((hinvariant s hs).completedProfiles_mem hlength).1
  · intro hearly
    refine ⟨?_, fun s hs => ((hinvariant s hs).completedProfiles_mem hlength).2⟩
    have hsteps := Transition.isChain_and hrun.steps hearly
    have hcount : ∀ s ∈ run, WatchInvariant concurrency worlds cfg staged m s
        ∧ s.job.completedProfiles = Int64.ofNat s.pool.completed := by
      refine Transition.forall_mem_run ?_ hrun.start ⟨hstart, ?_⟩ hsteps
      · rintro s s' ⟨h, hcount⟩ ⟨hstep, hreports⟩
        exact ⟨h.step hm hlength hstep, (completedProfiles_step hlength h hstep hreports hcount).1⟩
      · exact completedProfiles_touch (startUpdate _) (Int64.le_refl 0) _ _
    apply (Transition.pairwise_run hsteps).imp_of_mem
    intro s s' hs _ hreach
    exact neverBack_of_early hm hlength (hcount s hs).1 (hcount s hs).2 hreach

omit [UnicodeTables] hm hlength in
/-- A job shows its profiles as pending when it is recorded. -/
theorem pending_newValidateJob (jobID : Str) (profileIDs : List Str) (now : Nat) (id status : Str)
    (h : Shows (newValidateJob jobID profileIDs now : ValidateJob ρ) id status) :
  status = str "pending"
  := by
  have hfold : ∀ (ids : List Str) (statuses : Map Str Str),
      (∀ id status, statuses.lookup id = some status → status = str "pending") →
      ∀ id status, (ids.foldl (fun statuses id => statuses.insert id (str "pending"))
        statuses).lookup id = some status → status = str "pending" := by
    intro ids
    induction ids with
    | nil => exact fun _ h => h
    | cons first ids ih =>
        intro statuses hstatuses
        apply ih
        intro id status hlookup
        by_cases hid : id = first
        · rw [hid, AList.lookup_insert] at hlookup
          exact (Option.some.inj hlookup).symm
        · rw [AList.lookup_insert_ne hid] at hlookup
          exact hstatuses id status hlookup
  refine hfold _ ∅ ?_ id status h
  intro id status hlookup
  cases hlookup

omit hm hlength in
/-- The states on the way to a state make up a run. -/
theorem exists_isRun {job : ValidateJob ρ} {now : Nat} {s s' : Watched ρ}
    (hreach : Relation.ReflTransGen (WatchStep concurrency worlds cfg staged m) (.start m job now) s)
    (hstep : WatchStep concurrency worlds cfg staged m s s') :
  ∃ run, IsRun concurrency worlds cfg staged m job now (run ++ [s, s'])
  := by
  induction hreach generalizing s' with
  | refl => exact ⟨[], rfl, List.isChain_pair.mpr hstep⟩
  | @tail b c _ hlast ih =>
      obtain ⟨run, hstart, hsteps⟩ := ih hlast
      use run ++ [b]
      constructor
      · rw [← hstart]
        cases run with
        | nil => rfl
        | cons first run => rfl
      · rw [List.isChain_append_cons_cons, List.append_assoc]
        exact ⟨hsteps, hstep, List.isChain_singleton _⟩

end

section

attribute [local instance] asciiTables

/-- A matrix of two profiles. -/
def twoTargets : ProfileMatrix :=
  { profiles := [{ id := str "debian-12-6.1" }, { id := str "ubuntu-22.04-5.15" }] }

theorem matrixValid_twoTargets :
  MatrixValid twoTargets
  := by
  constructor <;> decide

/-- A job for these profiles. -/
def twoTargetsJob : ValidateJob Unit :=
  newValidateJob (str "job") [str "debian-12-6.1", str "ubuntu-22.04-5.15"] 0

theorem running_of_set {s : Watched Unit} {j : Nat} {x a : Phase} (hj : s.pool.phases[j]? = some x)
    (hx : x ≠ .running ∨ j ∈ s.announced) (i : Nat) (hi : s.pool.phases[i]? = some .running) :
  (s.pool.phases.set j a)[i]? = some .running ∨ i ∈ s.announced
  := by
  rw [List.getElem?_set]
  split_ifs with hij hlt
  · rw [hij, hi] at hj
    cases hj
    exact .inr (hij ▸ hx.resolve_left (absurd rfl))
  · rw [hij, hi] at hj
    cases hj
    exact .inr (hij ▸ hx.resolve_left (absurd rfl))
  · exact .inl hi

/-- The first goroutine has reported, and its result has been reported. -/
theorem first_reported (concurrency : Int64) (hlimit : 0 < poolLimit concurrency) :
  ∃ s : Watched Unit, Relation.ReflTransGen
      (WatchStep concurrency (fun _ => missingWorld) {} {} twoTargets)
      (.start twoTargets twoTargetsJob 0) s
    ∧ s.pool.phases = [.released, .waiting] ∧ s.pool.sem = 0 ∧ s.announced = [0]
    ∧ s.job.completedProfiles = 1
  := by
  have h₀ : Relation.ReflTransGen (WatchStep concurrency (fun _ => missingWorld) {} {} twoTargets)
      (.start twoTargets twoTargetsJob 0) (.start twoTargets twoTargetsJob 0) := .refl
  have h₁ := h₀.tail (.silent (.spawn rfl rfl) rfl (running_of_set rfl (.inl (by simp))))
  have h₂ := h₁.tail (.silent (.spawn rfl rfl) rfl (running_of_set rfl (.inl (by simp))))
  have h₃ := h₂.tail (.silent (.collect rfl rfl) rfl fun i hi => .inl hi)
  have h₄ := h₃.tail (.silent (.acquire (i := 0) rfl hlimit) rfl (running_of_set rfl (.inl (by simp))))
  have h₅ := h₄.tail (.announce (i := 0) 0 rfl rfl List.not_mem_nil)
  have h₆ := h₅.tail (.silent (.execute (i := 0) rfl rfl) rfl
    (running_of_set rfl (.inr List.mem_cons_self)))
  have h₇ := h₆.tail (.silent (.send (i := 0) rfl rfl Nat.two_pos) rfl
    (running_of_set rfl (.inl (by simp))))
  have h₈ := h₇.tail (.silent (.release (i := 0) rfl Nat.one_pos) rfl
    (running_of_set rfl (.inl (by simp))))
  have h₉ := h₈.tail (.collect 0 rfl rfl)
  exact ⟨_, h₉, rfl, rfl, rfl, rfl⟩

/-- Where one target is executed at a time, the second goroutine reports after the first result and
takes the number of completed profiles from one to zero. -/
theorem progress_back_at_two_targets :
  ∃ run : List (Watched Unit),
    IsRun 1 (fun _ => missingWorld) {} {} twoTargets twoTargetsJob 0 run
      ∧ ¬ (run.Pairwise NeverBack ∧ ∀ s ∈ run, s.job.completedProfiles ≤ s.job.totalProfiles)
  := by
  have hlimit : 0 < poolLimit 1 := by decide
  obtain ⟨s, hreach, hphases, hsem, hannounced, hcount⟩ := first_reported 1 hlimit
  have hwaiting : s.pool.phases[1]? = some .waiting := by rw [hphases]; rfl
  have hacquire := hreach.tail (.silent (.acquire hwaiting (by rw [hsem]; exact hlimit)) rfl
    (running_of_set hwaiting (.inl (by simp))))
  have hrunning : (s.pool.phases.set 1 .running)[1]? = some .running := by rw [hphases]; rfl
  obtain ⟨run, hrun⟩ := exists_isRun hacquire
    (.announce (i := 1) 0 hrunning rfl (by rw [hannounced]; decide))
  refine ⟨_, hrun, ?_⟩
  rintro ⟨hback, -⟩
  have hpair := List.pairwise_pair.mp (List.pairwise_append.mp hback).2.1
  have hle := hpair.count
  rw [completedProfiles_runningUpdate, hcount] at hle
  exact absurd hle (by decide)

/-- A run in which the collector has reported the first result. -/
theorem progress_never_back_first_reported :
  MatrixValid twoTargets ∧ ∃ run : List (Watched Unit),
    IsRun 1 (fun _ => missingWorld) {} {} twoTargets twoTargetsJob 0 run
      ∧ (∃ s ∈ run, s.job.completedProfiles = 1)
      ∧ ((run.Pairwise NeverBack ∧ ∀ s ∈ run, s.job.completedProfiles ≤ s.job.totalProfiles)
        ↔ run.IsChain ReportsEarly)
  := by
  have hlimit : 0 < poolLimit 1 := by decide
  obtain ⟨s, hreach, hphases, hsem, -, hcount⟩ := first_reported 1 hlimit
  have hwaiting : s.pool.phases[1]? = some .waiting := by rw [hphases]; rfl
  obtain ⟨run, hrun⟩ := exists_isRun hreach (.silent (.acquire hwaiting (by rw [hsem]; exact hlimit))
    rfl (running_of_set hwaiting (.inl (by simp))))
  refine ⟨matrixValid_twoTargets, _, hrun, ⟨s, ?_, hcount⟩, ?_⟩
  · exact List.mem_append_right _ List.mem_cons_self
  · exact progress_never_back_iff matrixValid_twoTargets (by decide) (pending_newValidateJob _ _ _)
      hrun

end

end Api
