import Mathlib.Data.List.Lex
import BpfCompat.Go.Collections
import BpfCompat.Schema.Verdict

/-!
# Kernel freshness

The kernel that was last validated is recorded for every profile, and compared with the
kernels its distribution ships.  A profile is fresh if its own kernel is as new as the
newest one of its series, and covered if that of a sweep profile derived from it is.

Updates from reports record whatever kernel a target ran.  The verdicts are earned in runs
whose targets ran the environments they were asked for (`freshness_earned`), and not in
others (`freshness_unearned`).
-/

namespace Freshness

open Go Schema

/-- The releases that make up the kernel series of a profile. -/
structure CrawlerRef where
  distro : Str
  target : Str := []
  releasePrefix : Str
  releaseContains : Str := []
  arch : Str := []
deriving DecidableEq

/-- The kernel last validated for a profile. -/
structure Baseline where
  profile : Str
  kernel : Str := []
  recorded : Str := []
  note : Str := []
  crawler : Option CrawlerRef := none
deriving DecidableEq

/-- A kernel release a distribution ships, with the addresses of its header packages. -/
structure Entry where
  kernelRelease : Str
  target : Str := []
  headers : List Str := []
deriving DecidableEq

/-- The releases of each distribution for one architecture. -/
abbrev Inventory := Str → List Entry

inductive Status where
  | fresh
  | stale
  | covered
  | uncovered
  | noEntries
  | noKernel
deriving DecidableEq

structure Result where
  profile : Str
  baseline : Str
  newest : Str := []
  status : Status
  reason : Str := []
  coveredBy : Str := []
deriving DecidableEq

/-! ### The order of releases -/

/-- The runs of digits of a text. -/
def digitRuns (s : Str) : List Str :=
  (s.splitBy fun a b => isDecimal a == isDecimal b).filter fun run => run.all isDecimal

/-- The number a run of digits denotes.  One that does not fit is taken for the largest. -/
def component (run : Str) : Nat := min (decimalValue run) (2 ^ 63 - 1)

def components (release : Str) : List Nat := (digitRuns release).map component

def compareComponents : List Nat → List Nat → Int
  | a :: as, b :: bs => if a = b then compareComponents as bs else if b < a then 1 else -1
  | [], [] => 0
  | _ :: _, [] => 1
  | [], _ :: _ => -1

/-- The order of two releases by the numbers in them. -/
def compareKernelReleases (a b : Str) : Int := compareComponents (components a) (components b)

/-- The comparison follows the lexicographic order. -/
theorem compareComponents_spec (as bs : List Nat) :
  (as < bs ∧ compareComponents as bs = -1) ∨ (as = bs ∧ compareComponents as bs = 0) ∨
    (bs < as ∧ compareComponents as bs = 1)
  := by
  induction as generalizing bs with
  | nil =>
      cases bs with
      | nil => simp [compareComponents]
      | cons b bs => simp [compareComponents]
  | cons a as ih =>
      cases bs with
      | nil => simp [compareComponents]
      | cons b bs =>
          rw [compareComponents, List.cons_lt_cons_iff, List.cons_lt_cons_iff]
          split_ifs with heq hlt
          · subst heq
            simpa using ih bs
          · simp [hlt]
          · have hab : a < b := by omega
            simp [hab]

theorem compareKernelReleases_le_zero_iff {a b : Str} :
  compareKernelReleases a b ≤ 0 ↔ components a ≤ components b
  := by
  rw [compareKernelReleases]
  obtain ⟨h, hsign⟩ | ⟨h, hsign⟩ | ⟨h, hsign⟩ := compareComponents_spec (components a) (components b)
  · simp [hsign, h.le]
  · rw [hsign, h]
    simp
  · simp [hsign, not_le.mpr h]

theorem compareKernelReleases_neg_iff {a b : Str} :
  compareKernelReleases a b < 0 ↔ components a < components b
  := by
  rw [compareKernelReleases]
  obtain ⟨h, hsign⟩ | ⟨h, hsign⟩ | ⟨h, hsign⟩ := compareComponents_spec (components a) (components b)
  · simp [hsign, h]
  · rw [hsign, h]
    simp
  · simp [hsign, h.not_gt]

example : compareKernelReleases (str "5.15.0-184-generic") (str "5.15.0-92-generic") = 1 := by decide

/-! ### The newest release -/

/-- A release is of the series. -/
def CrawlerRef.inSeries (ref : CrawlerRef) (release : Str) : Bool :=
  ref.releasePrefix.isPrefixOf release
    && (ref.releaseContains = [] || decide (ref.releaseContains <:+: release))

/-- A release a distribution ships is one of those a mapping selects. -/
def CrawlerRef.selects (ref : CrawlerRef) (e : Entry) : Bool :=
  (ref.target = [] || e.target = ref.target) && ref.inSeries e.kernelRelease

/-- The better of a release and one a distribution ships. -/
def CrawlerRef.better (ref : CrawlerRef) (best : Str) (e : Entry) : Str :=
  if !ref.selects e then best
  else if best = [] ∨ compareKernelReleases e.kernelRelease best > 0 then e.kernelRelease
  else best

/-- The newest release a mapping selects, empty if there is none. -/
def Inventory.newest (inv : Inventory) (ref : CrawlerRef) : Str :=
  (inv ref.distro).foldl ref.better []

def derivedSeparator : Str := str "-k"

/-- A profile is a sweep profile derived from another. -/
def derivedFrom (base profile : Str) : Bool :=
  (base ++ derivedSeparator).isPrefixOf profile
    && match profile.drop (base ++ derivedSeparator).length with
      | [] => false
      | b :: _ => isDecimal b

/-- A baseline is that of a sweep profile that validated a kernel as new as the newest one. -/
def covers (base newest : Str) (candidate : Baseline) : Bool :=
  candidate.kernel ≠ [] && derivedFrom base candidate.profile
    && !decide (compareKernelReleases candidate.kernel newest < 0)

/-- The first such profile, empty if there is none. -/
def familyCovers (baselines : List Baseline) (base newest : Str) : Str :=
  baselines.foldl
    (fun best candidate =>
      if !covers base newest candidate then best
      else if best = [] ∨ candidate.profile < best then candidate.profile
      else best)
    []

def defaultArch : Str := str "x86_64"

def CrawlerRef.archOrDefault (ref : CrawlerRef) : Str :=
  if ref.arch = [] then defaultArch else ref.arch

/-- The verdict on one profile.  An inventory depends on its architecture only, so that it does not
matter that it is fetched once. -/
def evaluateEntry (fetch : Str → Except Str Inventory) (baselines : List Baseline)
    (entry : Baseline) : Except Str Result :=
  match entry.crawler with
  | none =>
    .ok { profile := entry.profile
          baseline := entry.kernel
          status := .uncovered
          reason := if entry.note = [] then str "no kernel-crawler mapping" else entry.note }
  | some ref =>
    if entry.kernel = [] then
      .ok { profile := entry.profile
            baseline := entry.kernel
            status := .noKernel
            reason := str "no validated kernel recorded yet" }
    else
      match fetch ref.archOrDefault with
      | .error e =>
        .error (str "fetch crawler inventory for " ++ ref.archOrDefault ++ str ": " ++ e)
      | .ok inv =>
        let newest := inv.newest ref
        if newest = [] then
          .ok { profile := entry.profile
                baseline := entry.kernel
                status := .noEntries
                reason := str "no crawler entries match the series (EOL or unpublished)" }
        else if compareKernelReleases newest entry.kernel ≤ 0 then
          .ok { profile := entry.profile
                baseline := entry.kernel
                newest
                status := .fresh }
        else
          let sweep := familyCovers baselines entry.profile newest
          if sweep ≠ [] then
            .ok { profile := entry.profile
                  baseline := entry.kernel
                  newest
                  status := .covered
                  reason := str "image lags, but " ++ sweep ++ str " validated the newest kernel"
                  coveredBy := sweep }
          else
            .ok { profile := entry.profile
                  baseline := entry.kernel
                  newest
                  status := .stale
                  reason := str "distro ships a newer kernel than the last validated image" }

def evaluate (fetch : Str → Except Str Inventory) (baselines : List Baseline) :
    Except Str (List Result) :=
  baselines.mapM (evaluateEntry fetch baselines)

/-! ### Updates -/

/-- The state of an update: the baselines, the position of each profile, and the profiles that were
changed and added. -/
structure Update where
  baselines : List Baseline
  index : Str → Option Nat
  updated : List Str := []
  added : List Str := []

/-- The positions of the profiles, the last one where a profile occurs twice. -/
def indexOf (baselines : List Baseline) : Str → Option Nat :=
  baselines.zipIdx.foldl (fun index x p => if p = x.1.profile then some x.2 else index p)
    fun _ => none

/-- The kernel a target ran, empty if it does not say. -/
def hostKernel (t : Target) : Str :=
  match t.host with
  | none => []
  | some host => host.kernel

def updateTarget (recorded : Str) (u : Update) (t : Target) : Update :=
  if hostKernel t = [] then u
  else
    match u.index t.profileID with
    | some i =>
      if (u.baselines[i]?.any fun e => e.kernel = hostKernel t ∧ e.recorded ≠ []) then u
      else
        { u with
          baselines := u.baselines.modify i fun e =>
            { e with kernel := hostKernel t, recorded := recorded }
          updated := u.updated ++ [t.profileID] }
    | none =>
      { u with
        baselines := u.baselines ++
          [{ profile := t.profileID, kernel := hostKernel t, recorded := recorded }]
        index := fun p => if p = t.profileID then some u.baselines.length else u.index p
        added := u.added ++ [t.profileID] }

def updateFromReport (baselines : List Baseline) (rep : ReportV01) : Update :=
  rep.targets.foldl (updateTarget (rep.run.startedAt.take 10))
    { baselines, index := indexOf baselines }

/-- The baselines after the updates from some reports. -/
def runUpdates (baselines : List Baseline) (reports : List ReportV01) : List Baseline :=
  reports.foldl (fun b rep => (updateFromReport b rep).baselines) baselines

/-! ### Where the recorded kernels come from -/

/-- Every position is that of its profile. -/
def IndexValid (baselines : List Baseline) (index : Str → Option Nat) : Prop :=
  ∀ p i, index p = some i → ∃ e, baselines[i]? = some e ∧ e.profile = p

theorem indexValid_foldl {baselines : List Baseline} {l : List (Baseline × Nat)}
    (hl : ∀ x ∈ l, baselines[x.2]? = some x.1) {index : Str → Option Nat}
    (h : IndexValid baselines index) :
  IndexValid baselines
    (l.foldl (fun index x p => if p = x.1.profile then some x.2 else index p) index)
  := by
  induction l generalizing index with
  | nil => exact h
  | cons x l ih =>
      rw [List.forall_mem_cons] at hl
      apply ih hl.2
      intro p i hi
      dsimp only at hi
      split_ifs at hi with hp
      · obtain rfl := Option.some.inj hi
        exact ⟨x.1, hl.1, hp.symm⟩
      · exact h p i hi

theorem indexValid_indexOf (baselines : List Baseline) :
  IndexValid baselines (indexOf baselines)
  := by
  apply indexValid_foldl
  · rintro ⟨e, i⟩ hx
    exact List.mem_zipIdx_iff_getElem?.mp hx
  · nofun

theorem mem_modify {α : Type*} {l : List α} {i : Nat} {f : α → α} {a₀ a : α} (h₀ : l[i]? = some a₀)
    (h : a ∈ l.modify i f) :
  a ∈ l ∨ a = f a₀
  := by
  obtain ⟨j, hj⟩ := List.mem_iff_getElem?.mp h
  rw [List.getElem?_modify] at hj
  split_ifs at hj with hij
  · rw [← hij, h₀] at hj
    exact .inr (Option.some.inj hj).symm
  · rw [Option.map_eq_map, Option.map_id_fun'] at hj
    exact .inl (List.mem_of_getElem? hj)

/-- What is known of the baselines after some updates: a recorded kernel was reported for its
profile, and the mappings are those of the beginning. -/
structure Tracked (start : List Baseline) (Reported : Str → Str → Prop) (baselines : List Baseline) :
    Prop where
  reported : ∀ e ∈ baselines, e.kernel ≠ [] → Reported e.profile e.kernel
  mapped : ∀ e ∈ baselines, ∀ ref, e.crawler = some ref →
    ∃ e' ∈ start, e'.profile = e.profile ∧ e'.crawler = some ref

section

variable {start : List Baseline} {Reported : Str → Str → Prop}

theorem tracked_updateTarget {recorded : Str} {u : Update} {t : Target}
    (ht : hostKernel t ≠ [] → Reported t.profileID (hostKernel t))
    (hindex : IndexValid u.baselines u.index) (h : Tracked start Reported u.baselines) :
  IndexValid (updateTarget recorded u t).baselines (updateTarget recorded u t).index
    ∧ Tracked start Reported (updateTarget recorded u t).baselines
  := by
  rw [updateTarget]
  by_cases hkernel : hostKernel t = []
  · rw [if_pos hkernel]
    exact ⟨hindex, h⟩
  · rw [if_neg hkernel]
    rcases hi : u.index t.profileID with - | i
    · -- a profile that was not known is added without a mapping
      refine ⟨?_, ?_, ?_⟩
      · intro p j hj
        dsimp only at hj
        split_ifs at hj with hp
        · obtain rfl := Option.some.inj hj
          exact ⟨_, List.getElem?_concat_length, hp.symm⟩
        · obtain ⟨e, he, hprofile⟩ := hindex p j hj
          exact ⟨e, by rw [List.getElem?_append_left (List.getElem?_eq_some_iff.mp he).1, he], hprofile⟩
      · intro e he hne
        rw [List.mem_append, List.mem_singleton] at he
        rcases he with he | rfl
        · exact h.reported e he hne
        · exact ht hkernel
      · intro e he ref href
        rw [List.mem_append, List.mem_singleton] at he
        rcases he with he | rfl
        · exact h.mapped e he ref href
        · cases href
    · obtain ⟨e₀, he₀, hprofile⟩ := hindex t.profileID i hi
      dsimp only
      split_ifs
      · exact ⟨hindex, h⟩
      · -- the entry keeps its profile and its mapping
        refine ⟨?_, ?_, ?_⟩
        · intro p j hj
          obtain ⟨e, he, hp⟩ := hindex p j hj
          simp only [List.getElem?_modify, he]
          split_ifs
          · exact ⟨_, rfl, hp⟩
          · exact ⟨_, rfl, hp⟩
        · intro e he hne
          rcases mem_modify he₀ he with he | rfl
          · exact h.reported e he hne
          · rw [← hprofile] at ht
            exact ht hkernel
        · intro e he ref href
          rcases mem_modify he₀ he with he | rfl
          · exact h.mapped e he ref href
          · exact h.mapped e₀ (List.mem_of_getElem? he₀) ref href

theorem tracked_updateFromReport {baselines : List Baseline} {rep : ReportV01}
    (hrep : ∀ t ∈ rep.targets, hostKernel t ≠ [] → Reported t.profileID (hostKernel t))
    (h : Tracked start Reported baselines) :
  Tracked start Reported (updateFromReport baselines rep).baselines
  := by
  suffices hboth : ∀ (targets : List Target) (u : Update),
      (∀ t ∈ targets, hostKernel t ≠ [] → Reported t.profileID (hostKernel t)) →
      IndexValid u.baselines u.index → Tracked start Reported u.baselines →
      Tracked start Reported
        (targets.foldl (updateTarget (rep.run.startedAt.take 10)) u).baselines from
    hboth rep.targets _ hrep (indexValid_indexOf baselines) h
  intro targets
  induction targets with
  | nil => exact fun u _ _ hu => hu
  | cons t targets ih =>
      intro u ht hindex hu
      rw [List.forall_mem_cons] at ht
      obtain ⟨hindex', hu'⟩ := tracked_updateTarget ht.1 hindex hu
      exact ih _ ht.2 hindex' hu'

theorem tracked_runUpdates {baselines : List Baseline} {reports : List ReportV01}
    (hreports : ∀ rep ∈ reports, ∀ t ∈ rep.targets,
      hostKernel t ≠ [] → Reported t.profileID (hostKernel t))
    (h : Tracked start Reported baselines) :
  Tracked start Reported (runUpdates baselines reports)
  := by
  induction reports generalizing baselines with
  | nil => exact h
  | cons rep reports ih =>
      rw [List.forall_mem_cons] at hreports
      exact ih hreports.2 (tracked_updateFromReport hreports.1 h)

end

/-! ### What the verdicts rest on -/

theorem le_better (ref : CrawlerRef) (best : Str) (e : Entry) :
  components best ≤ components (ref.better best e)
  := by
  rw [CrawlerRef.better]
  split_ifs with hselects hbetter
  · exact le_rfl
  · rcases hbetter with rfl | hnewer
    · exact not_lt.mp (List.not_lt_nil _)
    · exact le_of_not_ge fun hle => absurd (compareKernelReleases_le_zero_iff.mpr hle) (by omega)
  · exact le_rfl

theorem release_le_better {ref : CrawlerRef} (best : Str) {e : Entry} (h : ref.selects e = true) :
  components e.kernelRelease ≤ components (ref.better best e)
  := by
  rw [CrawlerRef.better, h]
  simp only [Bool.not_true, Bool.false_eq_true, if_false]
  split_ifs with hbetter
  · exact le_rfl
  · rw [not_or, not_lt] at hbetter
    exact compareKernelReleases_le_zero_iff.mp hbetter.2

theorem le_foldl_better (ref : CrawlerRef) (l : List Entry) (best : Str) :
  components best ≤ components (l.foldl ref.better best)
  := by
  induction l generalizing best with
  | nil => exact le_rfl
  | cons e l ih => exact (le_better ref best e).trans (ih _)

/-- No release a mapping selects is newer than the newest. -/
theorem release_le_newest {inv : Inventory} {ref : CrawlerRef} {e : Entry}
    (he : e ∈ inv ref.distro) (h : ref.selects e = true) :
  components e.kernelRelease ≤ components (inv.newest ref)
  := by
  rw [Inventory.newest]
  generalize ([] : Str) = best
  generalize inv ref.distro = l at he
  induction l generalizing best with
  | nil => cases he
  | cons x l ih =>
      rw [List.foldl_cons]
      rcases List.mem_cons.mp he with rfl | he
      · exact (release_le_better best h).trans (le_foldl_better ref l _)
      · exact ih _ he

theorem covers_of_familyCovers {baselines : List Baseline} {base newest : Str}
    (h : familyCovers baselines base newest ≠ []) :
  ∃ candidate ∈ baselines, covers base newest candidate = true
  := by
  by_contra hnone
  push Not at hnone
  apply h
  clear h
  rw [familyCovers]
  induction baselines with
  | nil => rfl
  | cons c l ih =>
      rw [List.forall_mem_cons] at hnone
      rw [List.foldl_cons, if_pos (by simpa using hnone.1)]
      exact ih hnone.2

/-- A verdict that is fresh or covered rests on a baseline of the profile, or of a sweep profile
derived from it, whose kernel is as new as the newest. -/
theorem evaluateEntry_eq_ok {fetch : Str → Except Str Inventory} {baselines : List Baseline}
    {entry : Baseline} {r : Result} (hentry : entry ∈ baselines)
    (h : evaluateEntry fetch baselines entry = .ok r)
    (hstatus : r.status = .fresh ∨ r.status = .covered) :
  r.profile = entry.profile
    ∧ ∃ ref inv, entry.crawler = some ref ∧ fetch ref.archOrDefault = .ok inv
      ∧ inv.newest ref ≠ []
      ∧ ∃ e ∈ baselines, (e.profile = entry.profile ∨ derivedFrom entry.profile e.profile = true)
        ∧ e.kernel ≠ [] ∧ compareKernelReleases (inv.newest ref) e.kernel ≤ 0
  := by
  rw [evaluateEntry] at h
  rcases hcrawler : entry.crawler with - | ref
  · rw [hcrawler] at h
    obtain rfl := Except.ok.inj h
    simp at hstatus
  · rw [hcrawler] at h
    dsimp only at h
    by_cases hkernel : entry.kernel = []
    · rw [if_pos hkernel] at h
      obtain rfl := Except.ok.inj h
      simp at hstatus
    · rw [if_neg hkernel] at h
      rcases hfetch : fetch ref.archOrDefault with err | inv
      · rw [hfetch] at h
        cases h
      · rw [hfetch] at h
        dsimp only at h
        by_cases hnewest : inv.newest ref = []
        · rw [if_pos hnewest] at h
          obtain rfl := Except.ok.inj h
          simp at hstatus
        · rw [if_neg hnewest] at h
          by_cases hfresh : compareKernelReleases (inv.newest ref) entry.kernel ≤ 0
          · rw [if_pos hfresh] at h
            obtain rfl := Except.ok.inj h
            exact ⟨rfl, ref, inv, rfl, hfetch, hnewest, entry, hentry, .inl rfl, hkernel, hfresh⟩
          · rw [if_neg hfresh] at h
            by_cases hcovers : familyCovers baselines entry.profile (inv.newest ref) ≠ []
            · rw [if_pos hcovers] at h
              obtain rfl := Except.ok.inj h
              obtain ⟨c, hc, hcover⟩ := covers_of_familyCovers hcovers
              simp only [covers, Bool.and_eq_true, decide_eq_true_eq, Bool.not_eq_true',
                decide_eq_false_iff_not, compareKernelReleases_neg_iff, not_lt] at hcover
              obtain ⟨⟨hne, hderived⟩, hnew⟩ := hcover
              exact ⟨rfl, ref, inv, rfl, hfetch, hnewest, c, hc, .inr hderived, hne,
                compareKernelReleases_le_zero_iff.mpr hnew⟩
            · rw [if_neg hcovers] at h
              obtain rfl := Except.ok.inj h
              simp at hstatus

/-! ### Earned freshness -/

/-- A target can speak for a profile: it is of the profile itself or of a sweep profile derived
from it. -/
def SpeaksFor (t : Target) (profile : Str) : Prop :=
  t.profileID = profile ∨ derivedFrom profile t.profileID = true

/-- A reported target of the profile ran the environment it was asked for, on a kernel of the series
of the profile's mapping that no known release of the series is newer than. -/
def Earned (start : List Baseline) (fetch : Str → Except Str Inventory) (reports : List ReportV01)
    (profile : Str) : Prop :=
  ∃ entry ∈ start, entry.profile = profile ∧ ∃ ref inv, entry.crawler = some ref
    ∧ fetch ref.archOrDefault = .ok inv
    ∧ ∃ rep ∈ reports, ∃ t ∈ rep.targets, SpeaksFor t profile
      ∧ establishedRequestedEnvironment t = true ∧ hostKernel t ≠ []
      ∧ ref.inSeries (hostKernel t) = true
      ∧ ∀ e ∈ inv ref.distro, ref.selects e = true →
        compareKernelReleases e.kernelRelease (hostKernel t) ≤ 0

/-- A target that names its kernel ran the environment it was asked for, and the kernel is of the
series of every mapping that the target can speak for. -/
def Sound (start : List Baseline) (t : Target) : Prop :=
  hostKernel t ≠ [] → establishedRequestedEnvironment t = true
    ∧ ∀ entry ∈ start, ∀ ref, entry.crawler = some ref → SpeaksFor t entry.profile →
      ref.inSeries (hostKernel t) = true

theorem mem_of_mapM_ok {α β ε : Type} {f : α → Except ε β} {l : List α} {rs : List β}
    (h : l.mapM f = .ok rs) {r : β} (hr : r ∈ rs) :
  ∃ a ∈ l, f a = .ok r
  := by
  induction l generalizing rs with
  | nil =>
      obtain rfl := Except.ok.inj h
      cases hr
  | cons a l ih =>
      rw [List.mapM_cons, bind_eq_ok_iff] at h
      obtain ⟨b, hb, h⟩ := h
      rw [bind_eq_ok_iff] at h
      obtain ⟨bs, hbs, h⟩ := h
      obtain rfl := Except.ok.inj h
      rcases List.mem_cons.mp hr with rfl | hr
      · exact ⟨a, List.mem_cons_self, hb⟩
      · obtain ⟨x, hx, hfx⟩ := ih hbs hr
        exact ⟨x, List.mem_cons_of_mem _ hx, hfx⟩

/-- In every run of updates whose targets ran what they were asked to, a profile is fresh or covered
only if that was earned. -/
theorem freshness_earned (start : List Baseline) (hstart : ∀ e ∈ start, e.kernel = [])
    (reports : List ReportV01) (hsound : ∀ rep ∈ reports, ∀ t ∈ rep.targets, Sound start t)
    (fetch : Str → Except Str Inventory) (results : List Result)
    (h : evaluate fetch (runUpdates start reports) = .ok results) (r : Result) (hr : r ∈ results)
    (hstatus : r.status = .fresh ∨ r.status = .covered) :
  Earned start fetch reports r.profile
  := by
  have htracked : Tracked start (fun profile kernel => ∃ rep ∈ reports, ∃ t ∈ rep.targets,
      t.profileID = profile ∧ hostKernel t = kernel) (runUpdates start reports) := by
    apply tracked_runUpdates
    · intro rep hrep t ht _
      exact ⟨rep, hrep, t, ht, rfl, rfl⟩
    · constructor
      · intro e he hne
        exact absurd (hstart e he) hne
      · intro e he ref href
        exact ⟨e, he, rfl, href⟩
  obtain ⟨entry, hentry, heval⟩ := mem_of_mapM_ok h hr
  obtain ⟨hprofile, ref, inv, href, hfetch, hnewest, e, he, hspeaks, hkernel, hnew⟩ :=
    evaluateEntry_eq_ok hentry heval hstatus
  obtain ⟨entry', hentry', hprofile', href'⟩ := htracked.mapped entry hentry ref href
  obtain ⟨rep, hrep, t, ht, hid, hhost⟩ := htracked.reported e he hkernel
  have hspeaks' : SpeaksFor t entry'.profile := by
    rw [SpeaksFor, hid, hprofile']
    exact hspeaks
  rw [← hhost] at hkernel hnew
  obtain ⟨hestablished, hseries⟩ := hsound rep hrep t ht hkernel
  refine ⟨entry', hentry', hprofile'.trans hprofile.symm, ref, inv, href', hfetch, rep, hrep, t, ht,
    ?_, hestablished, hkernel, hseries entry' hentry' ref href' hspeaks', ?_⟩
  · rwa [hprofile, ← hprofile']
  · intro x hx hselects
    rw [compareKernelReleases_le_zero_iff] at hnew ⊢
    exact (release_le_newest hx hselects).trans hnew

/-- A profile with the series of its distribution, and no kernel yet. -/
def jammy : Baseline where
  profile := str "ubuntu-22.04-5.15"
  crawler := some
    { distro := str "ubuntu"
      releasePrefix := str "5.15.0-" }

/-- A distribution that ships one kernel of that series. -/
def shipping (arch : Str) : Except Str Inventory :=
  if arch = defaultArch then .ok fun _ => [⟨str "5.15.0-184-generic", [], []⟩] else .error []

/-- A report of a target of that profile. -/
def reporting (kernel : Str) (familyMatch : Bool) : ReportV01 where
  run := { startedAt := str "2026-06-12T10:00:00Z" }
  targets :=
    [{ profileID := str "ubuntu-22.04-5.15"
       environment := some { kernelFamilyMatch := some familyMatch }
       host := some { kernel } }]

/-- The verdict on the profile after a report. -/
def verdictAfter (rep : ReportV01) : Except Str (List Result) :=
  evaluate shipping (runUpdates [jammy] [rep])

theorem freshness_earned_jammy :
  Earned [jammy] shipping [reporting (str "5.15.0-186-generic") true] (str "ubuntu-22.04-5.15")
  := by
  have heval : verdictAfter (reporting (str "5.15.0-186-generic") true) = .ok
      [{ profile := str "ubuntu-22.04-5.15"
         baseline := str "5.15.0-186-generic"
         newest := str "5.15.0-184-generic"
         status := .fresh }] := by decide
  apply freshness_earned [jammy] (by decide) _ _ shipping _ heval _ (List.mem_singleton_self _)
    (.inl rfl)
  simp only [List.mem_singleton, forall_eq, reporting]
  intro _
  refine ⟨by decide, ?_⟩
  intro entry hentry ref href _
  obtain rfl := List.mem_singleton.mp hentry
  obtain rfl := Option.some.inj href
  decide

/-- A guest that booted a kernel of another series makes its profile fresh. -/
theorem freshness_unearned :
  ¬ ∀ (start : List Baseline), (∀ e ∈ start, e.kernel = []) → ∀ (reports : List ReportV01)
    (fetch : Str → Except Str Inventory) (results : List Result),
    evaluate fetch (runUpdates start reports) = .ok results → ∀ r ∈ results,
    r.status = .fresh ∨ r.status = .covered → Earned start fetch reports r.profile
  := by
  intro h
  have heval : verdictAfter (reporting (str "6.8.0-130-generic") false) = .ok
      [{ profile := str "ubuntu-22.04-5.15"
         baseline := str "6.8.0-130-generic"
         newest := str "5.15.0-184-generic"
         status := .fresh }] := by decide
  obtain ⟨entry, -, -, ref, inv, -, -, rep, hrep, t, ht, -, hestablished, -⟩ :=
    h [jammy] (by decide) _ shipping _ heval _ (List.mem_singleton_self _) (.inl rfl)
  obtain rfl := List.mem_singleton.mp hrep
  obtain rfl := List.mem_singleton.mp ht
  exact absurd hestablished (by decide)

end Freshness
