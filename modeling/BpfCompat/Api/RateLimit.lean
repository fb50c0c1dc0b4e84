import BpfCompat.Go.Strings
import BpfCompat.Transition

/-!
# The rate limit of the registry

A request to the registry is counted in a bucket for its subject, tenant, project and action, and is
refused once the bucket of the window it falls into is full.  The buckets are kept in one map under a
lock.  The time is read before the lock is taken, so requests may reach the lock in another order
than their times, and a request of an earlier window begins the bucket of its key anew.

As long as requests find their bucket in their own window or an earlier one, no more than the
configured number of them is allowed in a window; and keys are shared only by requests with the same
subject, tenant, project and action (`rate_limit_bound`).
-/

namespace Api

open Go

/-! ### The source -/

/-- A bucket: the window it counts, by its beginning, and how many requests it has counted.  Times are
in nanoseconds from the zero time on. -/
structure RateBucket where
  windowStart : Int := 0
  count : Int := 0
deriving DecidableEq

/-- The buckets by their keys; a key without one has the zero value. -/
abbrev Buckets := Str → RateBucket

structure RegistryRequest where
  subject : Str
  tenant : Str
  project : Str
  action : Str

def parseEnvIntOrDefault (getenv : Str → Str) (name : String) (fallback : Int) : Int :=
  (atoi (trimSpace (getenv (str name)))).getD fallback

/-- The number of requests and the window, a signed number of nanoseconds. -/
def registryRateLimitSettings (getenv : Str → Str) : Int × Int :=
  let maxRequests :=
    parseEnvIntOrDefault getenv "BPFCOMPAT_REGISTRY_RATE_LIMIT_MAX_REQUESTS" 120
  let windowSeconds :=
    parseEnvIntOrDefault getenv "BPFCOMPAT_REGISTRY_RATE_LIMIT_WINDOW_SECONDS" 60
  let windowSeconds := if windowSeconds ≤ 0 then 60 else windowSeconds
  (maxRequests, (Int64.ofInt windowSeconds * 1000000000).toInt)

/-- The beginning of the window a time is in. -/
def windowStart (window now : Int) : Int :=
  let window := if window ≤ 0 then 60000000000 else window
  now - now % window

/-- What is done to a bucket under the lock. -/
def RateBucket.take (maxRequests windowStart : Int) (bucket : RateBucket) : Bool × RateBucket :=
  let bucket :=
    if bucket.windowStart = 0 ∨ bucket.windowStart ≠ windowStart then
      { windowStart := windowStart : RateBucket }
    else bucket
  if maxRequests ≤ bucket.count then (false, bucket)
  else (true, { bucket with count := bucket.count + 1 })

def allow (maxRequests window now : Int) (buckets : Buckets) (key : Str) : Bool × Buckets :=
  if maxRequests ≤ 0 then (true, buckets)
  else
    let (allowed, bucket) := (buckets key).take maxRequests (windowStart window now)
    (allowed, Function.update buckets key bucket)

def rateKey (r : RegistryRequest) : Str :=
  let subject := trimSpace r.subject
  join (str "|") [str "registry", if subject = [] then str "anonymous" else subject,
    trimSpace r.tenant, trimSpace r.project, trimSpace r.action]

/-- A request over the limit, with the number of requests and the window. -/
structure RegistryRateLimited where
  max : Int
  window : Int

def enforceRegistryRateLimit (getenv : Str → Str) (now : Int) (buckets : Buckets)
    (r : RegistryRequest) : Except RegistryRateLimited Unit × Buckets :=
  let (maxRequests, window) := registryRateLimitSettings getenv
  if maxRequests ≤ 0 then (.ok (), buckets)
  else
    match allow maxRequests window now buckets (rateKey r) with
    | (true, buckets) => (.ok (), buckets)
    | (false, buckets) => (.error ⟨maxRequests, window⟩, buckets)

/-! ### Runs -/

/-- A request with the time it read. -/
structure Waiting where
  request : RegistryRequest
  time : Int

structure RateDecision extends Waiting where
  allowed : Bool

/-- The clock, the requests that have read it and wait for the lock, the buckets, and what was
decided. -/
structure LimiterState where
  clock : Int
  waiting : List Waiting := []
  buckets : Buckets := fun _ => {}
  decisions : List RateDecision := []

section

variable (getenv : Str → Str)

def maxRequests : Int := (registryRateLimitSettings getenv).1

/-- The window a request that waits is in. -/
def Waiting.window (w : Waiting) : Int := windowStart (registryRateLimitSettings getenv).2 w.time

/-- The section of a request under the lock. -/
def LimiterState.enter (s : LimiterState) (w : Waiting) (others : List Waiting) : LimiterState :=
  let admitted := (s.buckets (rateKey w.request)).take (maxRequests getenv) (w.window getenv)
  { s with
    waiting := others
    buckets := Function.update s.buckets (rateKey w.request) admitted.2
    decisions := s.decisions ++ [⟨w, admitted.1⟩] }

/-- The clock goes on, a request reads it, or one of the requests that wait takes the lock, if the
guard lets it.  Without a limit requests are let through. -/
inductive LimiterStep (guard : LimiterState → Waiting → Prop) : LimiterState → LimiterState → Prop
    where
  | tick {s : LimiterState} {time : Int} (h : s.clock ≤ time) :
      LimiterStep guard s { s with clock := time }
  | arrive {s : LimiterState} (r : RegistryRequest) (limited : 0 < maxRequests getenv) :
      LimiterStep guard s { s with waiting := s.waiting ++ [⟨r, s.clock⟩] }
  | enter {s : LimiterState} {before after : List Waiting} {w : Waiting}
      (h : s.waiting = before ++ w :: after) (hguard : guard s w) :
      LimiterStep guard s (s.enter getenv w (before ++ after))
  | pass {s : LimiterState} (r : RegistryRequest) (unlimited : maxRequests getenv ≤ 0) :
      LimiterStep guard s { s with decisions := s.decisions ++ [⟨⟨r, s.clock⟩, true⟩] }

/-- A request finds the bucket of its key in its own window or an earlier one.  The zero time does
not begin a window. -/
def InOrder (s : LimiterState) (w : Waiting) : Prop :=
  0 < w.window getenv ∧ (s.buckets (rateKey w.request)).windowStart ≤ w.window getenv

/-- The requests of a key that were allowed in a window. -/
def LimiterState.allowedIn (s : LimiterState) (key : Str) (window : Int) : Nat :=
  s.decisions.countP fun d =>
    d.allowed && (rateKey d.request = key && d.toWaiting.window getenv = window)

end

/-! ### A request under the lock -/

theorem take_cases {maxRequests W : Int} {bucket : RateBucket} (hmax : 0 < maxRequests) (hW : 0 < W)
    (hle : bucket.windowStart ≤ W) :
  (bucket.windowStart < W ∧ bucket.take maxRequests W = (true, ⟨W, 1⟩)) ∨
    (bucket.windowStart = W ∧ bucket.count < maxRequests ∧
      bucket.take maxRequests W = (true, ⟨W, bucket.count + 1⟩)) ∨
    (bucket.windowStart = W ∧ bucket.take maxRequests W = (false, bucket))
  := by
  obtain hlt | rfl := lt_or_eq_of_le hle
  · have hreset : bucket.windowStart = 0 ∨ bucket.windowStart ≠ W := .inr (ne_of_lt hlt)
    have hroom : ¬maxRequests ≤ 0 := not_le.mpr hmax
    refine .inl ⟨hlt, ?_⟩
    rw [RateBucket.take]
    rw [if_pos hreset, if_neg hroom]
    rfl
  · right
    have hkeep : ¬(bucket.windowStart = 0 ∨ bucket.windowStart ≠ bucket.windowStart) := by
      simp [ne_of_gt hW]
    rw [RateBucket.take]
    rw [if_neg hkeep]
    by_cases hcount : maxRequests ≤ bucket.count
    · rw [if_pos hcount]
      exact .inr ⟨rfl, rfl⟩
    · rw [if_neg hcount]
      exact .inl ⟨rfl, not_le.mp hcount, rfl⟩

/-- What a bucket knows of the numbers of requests that were allowed in the windows: none is in a
later window than its own, and those of its own are counted. -/
structure RateBucket.Counts (maxRequests : Int) (bucket : RateBucket) (allowed : Int → Nat) :
    Prop where
  bound : ∀ window, (allowed window : Int) ≤ maxRequests
  current : (allowed bucket.windowStart : Int) ≤ bucket.count
  later : ∀ window, bucket.windowStart < window → allowed window = 0

/-- A request of the window of the bucket or a later one is counted. -/
theorem RateBucket.Counts.take {maxRequests W : Int} {bucket : RateBucket} {allowed : Int → Nat}
    (h : bucket.Counts maxRequests allowed) (hmax : 0 < maxRequests) (hW : 0 < W)
    (hle : bucket.windowStart ≤ W) :
  (bucket.take maxRequests W).2.Counts maxRequests fun window =>
    allowed window + if (bucket.take maxRequests W).1 = true ∧ W = window then 1 else 0
  := by
  obtain ⟨hlt, htake⟩ | ⟨heq, hcount, htake⟩ | ⟨heq, htake⟩ := take_cases hmax hW hle
  · -- the bucket begins anew, and nothing was allowed in the window so far
    have hnone := h.later W hlt
    rw [htake]
    refine ⟨fun window => ?_, ?_, fun window hwindow => ?_⟩
    · by_cases hwindow : W = window
      · rw [← hwindow, hnone]
        simp
        omega
      · simp [hwindow, h.bound window]
    · simp [hnone]
    · have hlater := h.later window (lt_trans hlt hwindow)
      simp [hlater, ne_of_lt hwindow]
  · have hcurrent := h.current
    rw [heq] at hcurrent
    rw [htake]
    refine ⟨fun window => ?_, ?_, fun window hwindow => ?_⟩
    · by_cases hwindow : W = window
      · rw [← hwindow]
        simp
        omega
      · simp [hwindow, h.bound window]
    · simp [hcurrent]
    · have hlater := h.later window (heq ▸ hwindow)
      simp [hlater, ne_of_lt hwindow]
  · rw [htake]
    simpa using h

section

variable {getenv : Str → Str} {s s' : LimiterState}

/-- A request that arrives and takes the lock at once is treated as by a single call. -/
theorem enforceRegistryRateLimit_eq (h : 0 < maxRequests getenv) (r : RegistryRequest)
    (others : List Waiting) :
  (enforceRegistryRateLimit getenv s.clock s.buckets r).2 =
      (s.enter getenv ⟨r, s.clock⟩ others).buckets ∧
    ((enforceRegistryRateLimit getenv s.clock s.buckets r).1.isOk ↔
      ((s.enter getenv ⟨r, s.clock⟩ others).decisions.getLast?.map RateDecision.allowed) = some true)
  := by
  have hmax : ¬(registryRateLimitSettings getenv).1 ≤ 0 := not_le.mpr h
  rw [enforceRegistryRateLimit]
  dsimp only
  rw [if_neg hmax, allow, if_neg hmax, LimiterState.enter]
  dsimp only [maxRequests, Waiting.window]
  generalize (s.buckets (rateKey r)).take (registryRateLimitSettings getenv).1
    (windowStart (registryRateLimitSettings getenv).2 s.clock) = admitted
  obtain ⟨allowed, bucket⟩ := admitted
  cases allowed with
  | true => simp [Except.isOk, Except.toBool]
  | false => simp [Except.isOk, Except.toBool]

theorem allowedIn_enter (w : Waiting) (others : List Waiting) (key : Str) (window : Int) :
  (s.enter getenv w others).allowedIn getenv key window =
    s.allowedIn getenv key window +
      if ((s.buckets (rateKey w.request)).take (maxRequests getenv) (w.window getenv)).1 = true ∧
        rateKey w.request = key ∧ w.window getenv = window then 1 else 0
  := by
  rw [LimiterState.allowedIn, LimiterState.allowedIn, LimiterState.enter, List.countP_append]
  simp [List.countP_cons]

/-! ### Requests in order -/

variable (getenv) in
/-- Every bucket counts the requests of its key that were allowed. -/
def Counted (s : LimiterState) : Prop :=
  ∀ key, (s.buckets key).Counts (maxRequests getenv) (s.allowedIn getenv key)

theorem Counted.enter (hmax : 0 < maxRequests getenv) (h : Counted getenv s) {w : Waiting}
    (horder : InOrder getenv s w) (others : List Waiting) :
  Counted getenv (s.enter getenv w others)
  := by
  intro key
  have hallowed : (s.enter getenv w others).allowedIn getenv key = fun window =>
      s.allowedIn getenv key window +
        if ((s.buckets (rateKey w.request)).take (maxRequests getenv) (w.window getenv)).1 = true ∧
          rateKey w.request = key ∧ w.window getenv = window then 1 else 0 := by
    funext window
    apply allowedIn_enter
  rw [hallowed]
  by_cases hkey : rateKey w.request = key
  · subst hkey
    have hbucket : (s.enter getenv w others).buckets (rateKey w.request) =
        ((s.buckets (rateKey w.request)).take (maxRequests getenv) (w.window getenv)).2 :=
      Function.update_self _ _ _
    have hcounts := (h (rateKey w.request)).take hmax horder.1 horder.2
    rw [hbucket]
    simpa using hcounts
  · have hbucket : (s.enter getenv w others).buckets key = s.buckets key :=
      Function.update_of_ne (Ne.symm hkey) _ _
    rw [hbucket]
    simpa [hkey] using h key

/-- Requests in order are counted, whatever step is taken. -/
theorem counted_step (hmax : 0 < maxRequests getenv) (h : Counted getenv s)
    (hstep : LimiterStep getenv (InOrder getenv) s s') :
  Counted getenv s'
  := by
  cases hstep with
  | tick htime => exact h
  | arrive r limited => exact h
  | enter hwaiting horder => exact h.enter hmax horder _
  | pass r unlimited => exact absurd hmax (not_lt.mpr unlimited)

theorem counted_start (hmax : 0 < maxRequests getenv) (clock : Int) :
  Counted getenv { clock := clock }
  := by
  intro key
  refine ⟨fun window => ?_, ?_, fun window hwindow => rfl⟩
  · exact le_of_lt hmax
  · exact le_refl _

end

/-! ### Keys -/

/-- A text is cut at its last separator in one way. -/
theorem append_cons_inj {b : UInt8} {x y u v : Str} (hu : b ∉ u) (hv : b ∉ v)
    (h : x ++ b :: u = y ++ b :: v) :
  x = y ∧ u = v
  := by
  obtain ⟨c, rfl, hc⟩ | ⟨c, rfl, hc⟩ := List.append_eq_append_iff.mp h
  · rcases c with _ | ⟨d, c⟩
    · simpa using hc
    · obtain ⟨rfl, rfl⟩ := List.cons.inj hc
      exact absurd (by simp) hu
  · rcases c with _ | ⟨d, c⟩
    · simpa [eq_comm] using hc
    · obtain ⟨rfl, rfl⟩ := List.cons.inj hc
      exact absurd (by simp) hv

/-- A request of a named subject, without the separator in its other fields. -/
structure RegistryRequest.Named (r : RegistryRequest) : Prop where
  subject : trimSpace r.subject ≠ []
  tenant : '|'.toUInt8 ∉ trimSpace r.tenant
  project : '|'.toUInt8 ∉ trimSpace r.project
  action : '|'.toUInt8 ∉ trimSpace r.action

theorem rateKey_eq {r : RegistryRequest} (h : r.Named) :
  rateKey r = ((str "registry|" ++ trimSpace r.subject ++ '|'.toUInt8 :: trimSpace r.tenant) ++
    '|'.toUInt8 :: trimSpace r.project) ++ '|'.toUInt8 :: trimSpace r.action
  := by
  have hbar : str "|" = ['|'.toUInt8] := rfl
  have hregistry : str "registry|" = str "registry" ++ ['|'.toUInt8] := rfl
  rw [rateKey, if_neg h.subject, hregistry, hbar]
  simp [join]

theorem rateKey_injective {r r' : RegistryRequest} (h : r.Named) (h' : r'.Named)
    (hkey : rateKey r = rateKey r') :
  trimSpace r.subject = trimSpace r'.subject ∧ trimSpace r.tenant = trimSpace r'.tenant ∧
    trimSpace r.project = trimSpace r'.project ∧ trimSpace r.action = trimSpace r'.action
  := by
  rw [rateKey_eq h, rateKey_eq h'] at hkey
  obtain ⟨hkey, haction⟩ := append_cons_inj h.action h'.action hkey
  obtain ⟨hkey, hproject⟩ := append_cons_inj h.project h'.project hkey
  obtain ⟨hkey, htenant⟩ := append_cons_inj h.tenant h'.tenant hkey
  exact ⟨List.append_cancel_left hkey, htenant, hproject, haction⟩

/-- Where requests find their buckets in their own window or an earlier one, at most the configured
number of a key is allowed in a window, in every state of every run; and a key is shared only by
requests with the same subject, tenant, project and action. -/
theorem rate_limit_bound {getenv : Str → Str} {clock : Int} {s : LimiterState}
    (hmax : 0 < maxRequests getenv)
    (hrun : Relation.ReflTransGen (LimiterStep getenv (InOrder getenv)) { clock := clock } s) :
  (∀ key window, (s.allowedIn getenv key window : Int) ≤ maxRequests getenv) ∧
    ∀ r r' : RegistryRequest, r.Named → r'.Named → rateKey r = rateKey r' →
      trimSpace r.subject = trimSpace r'.subject ∧ trimSpace r.tenant = trimSpace r'.tenant ∧
        trimSpace r.project = trimSpace r'.project ∧ trimSpace r.action = trimSpace r'.action
  := by
  have hcounted : Counted getenv s :=
    Transition.invariant (P := Counted getenv) (fun _ _ => counted_step hmax) hrun
      (counted_start hmax clock)
  exact ⟨fun key => (hcounted key).bound, fun _ _ => rateKey_injective⟩

/-- The environment of a server that allows one request a minute. -/
def oneRequest (name : Str) : Str :=
  if name = str "BPFCOMPAT_REGISTRY_RATE_LIMIT_MAX_REQUESTS" then str "1" else []

def readRequest : RegistryRequest where
  subject := str "ci"
  tenant := str "acme"
  project := str "demo"
  action := str "project_read"

/-- Minutes after the zero time. -/
def minute (n : Int) : Int := 60000000000 * n

section

variable (guard : LimiterState → Waiting → Prop)

/-- A run of that server from the first minute on. -/
def MinuteRun (s : LimiterState) : Prop :=
  Relation.ReflTransGen (LimiterStep oneRequest guard) { clock := minute 1 } s

variable {guard} {s : LimiterState}

theorem MinuteRun.arrive (h : MinuteRun guard s) :
  MinuteRun guard { s with waiting := s.waiting ++ [⟨readRequest, s.clock⟩] }
  := h.tail (.arrive readRequest (by decide))

theorem MinuteRun.enter (h : MinuteRun guard s) (before after : List Waiting) {w : Waiting}
    (hwaiting : s.waiting = before ++ w :: after) (hguard : guard s w) :
  MinuteRun guard (s.enter oneRequest w (before ++ after))
  := h.tail (.enter hwaiting hguard)

end

/-- A request that comes alone is allowed. -/
theorem one_request_allowed :
  ∃ s, MinuteRun (InOrder oneRequest) s ∧
    s.allowedIn oneRequest (rateKey readRequest) (minute 1) = 1 ∧
    (s.allowedIn oneRequest (rateKey readRequest) (minute 1) : Int) ≤ maxRequests oneRequest
  := by
  have hstart : MinuteRun (InOrder oneRequest) { clock := minute 1 } := .refl
  have hrun := hstart.arrive.enter [] [] rfl ⟨by decide, by decide⟩
  exact ⟨_, hrun, by decide, (rate_limit_bound (by decide) hrun).1 _ _⟩

/-- The first request reads the clock in the first minute and takes the lock between the two requests
of the second, which begins the bucket anew. -/
theorem late_request_resets :
  ¬∀ s, MinuteRun (fun _ _ => True) s →
    ∀ key window, (s.allowedIn oneRequest key window : Int) ≤ maxRequests oneRequest
  := by
  intro h
  have hstart : MinuteRun (fun _ _ => True) { clock := minute 1 } := .refl
  have hlater : minute 1 ≤ minute 2 := by decide
  have hminute : MinuteRun (fun _ _ => True) _ := hstart.arrive.tail (.tick hlater)
  have hallowed := hminute.arrive.enter [⟨readRequest, minute 1⟩] [] rfl trivial
  have hreset := hallowed.enter [] [] rfl trivial
  have hallowed' := hreset.arrive.enter [] [] rfl trivial
  have hbound := h _ hallowed' (rateKey readRequest) (minute 2)
  revert hbound
  decide

end Api
