import Mathlib.Data.List.SplitBy
import BpfCompat.Freshness.Sweep

/-!
# Releases of the RHEL family

A release of the RHEL family has a version, a release, the number of the distribution with its
minor number, and an architecture, as in `5.14.0-687.12.1.el9_8.x86_64`.  RPM compares versions
and then releases segment by segment, and a number is newer than a word or nothing in its place.
The comparison of kernel releases knows numbers only, so where a version, a release or a minor
number ends in one release and goes on in the other it compares with the numbers that come next.

The two agree exactly if the numbers from the first difference on are in order too
(`rpm_order_iff`).
-/

namespace Freshness

open Go

/-! ### Numbers in a text -/

/-- A run of digits. -/
def IsNumber (d : Str) : Prop := d ≠ [] ∧ ∀ b ∈ d, isDecimal b = true

instance (d : Str) : Decidable (IsNumber d) := inferInstanceAs (Decidable (_ ∧ _))

theorem digitRuns_append {s t : Str}
    (h : ∀ x ∈ s.getLast?, ∀ y ∈ t.head?, (isDecimal x == isDecimal y) = false) :
  digitRuns (s ++ t) = digitRuns s ++ digitRuns t
  := by
  rw [digitRuns, List.splitBy_append h, List.filter_append]
  rfl

theorem isChain_of_forall_eq {p : Bool} {s : Str} (h : ∀ b ∈ s, isDecimal b = p) :
  s.IsChain fun a b => (isDecimal a == isDecimal b) = true
  := by
  apply List.Pairwise.isChain
  rw [List.pairwise_iff_forall_sublist]
  intro a b hab
  rw [h a (hab.subset List.mem_cons_self), h b (hab.subset (by simp)), beq_self_eq_true]

theorem digitRuns_number {d : Str} (h : IsNumber d) :
  digitRuns d = [d]
  := by
  rw [digitRuns, List.splitBy_of_isChain h.1 (isChain_of_forall_eq h.2)]
  simpa using h.2

/-- What has no digit has no number. -/
theorem digitRuns_of_not {s : Str} (h : ∀ b ∈ s, isDecimal b = false) :
  digitRuns s = []
  := by
  cases s with
  | nil => rfl
  | cons b s =>
      rw [digitRuns, List.splitBy_of_isChain (List.cons_ne_nil _ _) (isChain_of_forall_eq h)]
      simp [h b List.mem_cons_self]

/-- Text without digits before another text does not matter. -/
theorem digitRuns_not_append {s : Str} (h : ∀ b ∈ s, isDecimal b = false) (t : Str) :
  digitRuns (s ++ t) = digitRuns t
  := by
  have hdigit : ∀ u : Str, (∀ b ∈ u, isDecimal b = false) →
      digitRuns (u ++ t.dropWhile (!isDecimal ·)) = digitRuns (t.dropWhile (!isDecimal ·)) := by
    intro u hu
    rw [digitRuns_append, digitRuns_of_not hu, List.nil_append]
    intro x hx y hy
    have hhead := List.head?_dropWhile_not (!isDecimal ·) t
    rw [Option.mem_def] at hy
    rw [hy] at hhead
    rw [hu x (List.mem_of_getLast? hx)]
    simpa using hhead
  have htake : ∀ b ∈ t.takeWhile (!isDecimal ·), isDecimal b = false := by
    intro b hb
    simpa using List.mem_takeWhile_imp hb
  conv_lhs => rw [← List.takeWhile_append_dropWhile (p := (!isDecimal ·)) (l := t), ← List.append_assoc]
  conv_rhs => rw [← List.takeWhile_append_dropWhile (p := (!isDecimal ·)) (l := t)]
  rw [hdigit _ htake, hdigit]
  intro b hb
  obtain hb | hb := List.mem_append.mp hb
  · exact h b hb
  · exact htake b hb

theorem components_not_append {s : Str} (h : ∀ b ∈ s, isDecimal b = false) (t : Str) :
  components (s ++ t) = components t
  := by
  rw [components, digitRuns_not_append h, components]

/-- The number a text begins with is the first one. -/
theorem components_number_append {d t : Str} (h : IsNumber d)
    (ht : ∀ b ∈ t.head?, isDecimal b = false) :
  components (d ++ t) = component d :: components t
  := by
  rw [components, digitRuns_append, digitRuns_number h, List.singleton_append, List.map_cons]
  · rfl
  · intro x hx y hy
    rw [h.2 x (List.mem_of_getLast? hx), ht y hy]
    rfl

/-- The numbers of a dotted list are its parts. -/
theorem components_join_append {parts : List Str} (h : ∀ d ∈ parts, IsNumber d) {t : Str}
    (ht : ∀ b ∈ t.head?, isDecimal b = false) :
  components (join (str ".") parts ++ t) = parts.map component ++ components t
  := by
  induction parts with
  | nil => rfl
  | cons d parts ih =>
      rw [List.forall_mem_cons] at h
      cases parts with
      | nil =>
          rw [join, List.intersperse_singleton, List.flatten_singleton, components_number_append h.1 ht]
          rfl
      | cons e parts =>
          have hjoin : join (str ".") (d :: e :: parts)
              = d ++ (str "." ++ join (str ".") (e :: parts)) := by
            simp [join]
          rw [hjoin, List.append_assoc, List.append_assoc, components_number_append h.1,
            components_not_append, ih h.2]
          · rfl
          · decide
          · intro b hb
            cases hb
            decide

/-! ### Releases -/

/-- A release of the RHEL family. -/
structure RhelRelease where
  version : List Str
  release : List Str
  dist : Str
  minor : Option Str := none
  arch : Option Str := none
  versionNumbers : ∀ d ∈ version, IsNumber d
  releaseNumbers : ∀ d ∈ release, IsNumber d
  distNumber : IsNumber dist
  minorNumber : ∀ d ∈ minor, IsNumber d

namespace RhelRelease

/-- The minor number and the architecture, as they are written. -/
def suffix (r : RhelRelease) : Str :=
  (match r.minor with
    | none => []
    | some minor => str "_" ++ minor)
  ++ match r.arch with
    | none => []
    | some arch => str "." ++ arch

def text (r : RhelRelease) : Str :=
  join (str ".") r.version ++ (str "-" ++ (join (str ".") r.release ++
    (str ".el" ++ (r.dist ++ r.suffix))))

/-- The numbers in the name of the architecture. -/
def archNumbers (r : RhelRelease) : List Nat :=
  match r.arch with
  | none => []
  | some arch => components arch

theorem components_arch (r : RhelRelease) :
  components (match r.arch with
    | none => []
    | some arch => str "." ++ arch) = r.archNumbers
  := by
  unfold archNumbers
  cases r.arch with
  | none => rfl
  | some arch => exact components_not_append (by decide) arch

theorem head?_arch (r : RhelRelease) {b : UInt8}
    (hb : b ∈ (match r.arch with
      | none => ([] : Str)
      | some arch => str "." ++ arch).head?) :
  isDecimal b = false
  := by
  cases harch : r.arch with
  | none =>
      rw [harch] at hb
      cases hb
  | some arch =>
      rw [harch] at hb
      cases hb
      decide

theorem components_suffix (r : RhelRelease) :
  components r.suffix = r.minor.toList.map component ++ r.archNumbers
  := by
  have hnumber := r.minorNumber
  rw [suffix]
  cases hminor : r.minor with
  | none => exact r.components_arch
  | some minor =>
      rw [List.append_assoc, components_not_append (by decide),
        components_number_append (hnumber minor hminor), components_arch]
      · rfl
      · exact fun b hb => r.head?_arch hb

theorem head?_suffix (r : RhelRelease) {b : UInt8} (hb : b ∈ r.suffix.head?) :
  isDecimal b = false
  := by
  rw [suffix] at hb
  cases hminor : r.minor with
  | none =>
      rw [hminor] at hb
      exact r.head?_arch hb
  | some minor =>
      rw [hminor] at hb
      cases hb
      decide

/-- The numbers of a release are those of its parts. -/
theorem components_text (r : RhelRelease) :
  components r.text = r.version.map component ++ (r.release.map component ++
    (component r.dist :: (r.minor.toList.map component ++ r.archNumbers)))
  := by
  rw [text, components_join_append r.versionNumbers, components_not_append (by decide),
    components_join_append r.releaseNumbers, components_not_append (by decide),
    components_number_append r.distNumber, components_suffix]
  · exact fun b hb => r.head?_suffix hb
  · intro b hb
    cases hb
    decide
  · intro b hb
    cases hb
    decide

end RhelRelease

/-! ### The order of RPM -/

/-- A segment of a version or release. -/
inductive Segment where
  | number (n : Nat)
  | word (w : Str)

/-- The order of two versions or releases by their segments: numbers are newer than words, and what
goes on is newer than what ends. -/
def compareSegments : List Segment → List Segment → Int
  | [], [] => 0
  | [], _ :: _ => -1
  | _ :: _, [] => 1
  | .number m :: as, .number n :: bs =>
    if m = n then compareSegments as bs else if n < m then 1 else -1
  | .word v :: as, .word w :: bs =>
    if v = w then compareSegments as bs else if w < v then 1 else -1
  | .number _ :: _, .word _ :: _ => 1
  | .word _ :: _, .number _ :: _ => -1

namespace RhelRelease

def versionSegments (r : RhelRelease) : List Segment :=
  r.version.map fun d => .number (decimalValue d)

def releaseSegments (r : RhelRelease) : List Segment :=
  (r.release.map fun d => .number (decimalValue d)) ++ .word (str "el") ::
    .number (decimalValue r.dist) :: r.minor.toList.map fun d => .number (decimalValue d)

/-- The order of two releases for RPM, by version and then by release. -/
def rpmCompare (a b : RhelRelease) : Int :=
  let order := compareSegments a.versionSegments b.versionSegments
  if order ≠ 0 then order else compareSegments a.releaseSegments b.releaseSegments

end RhelRelease

/-! ### Numbers and ends -/

/-- The order of two sequences of numbers and ends, where an end is older than a number. -/
def compareMarks : List (Option Nat) → List (Option Nat) → Int
  | [], [] => 0
  | [], _ :: _ => -1
  | _ :: _, [] => 1
  | some m :: s, some n :: t => if m = n then compareMarks s t else if n < m then 1 else -1
  | none :: s, none :: t => compareMarks s t
  | some _ :: _, none :: _ => 1
  | none :: _, some _ :: _ => -1

/-- The order of two lists of numbers. -/
def compareNumbers (ms ns : List Nat) : Int := compareSegments (ms.map .number) (ns.map .number)

theorem compareMarks_append (ms ns : List Nat) (s t : List (Option Nat)) :
  compareMarks (ms.map some ++ none :: s) (ns.map some ++ none :: t)
    = if compareNumbers ms ns ≠ 0 then compareNumbers ms ns else compareMarks s t
  := by
  induction ms generalizing ns with
  | nil =>
      cases ns with
      | nil => simp [compareMarks, compareNumbers, compareSegments]
      | cons n ns => simp [compareMarks, compareNumbers, compareSegments]
  | cons m ms ih =>
      cases ns with
      | nil => simp [compareMarks, compareNumbers, compareSegments]
      | cons n ns =>
          simp only [List.map_cons, List.cons_append, compareMarks, ih, compareNumbers,
            compareSegments]
          split_ifs <;> simp_all

theorem compareSegments_append (ms ns : List Nat) (w : Str) (s t : List Segment) :
  compareSegments (ms.map .number ++ .word w :: s) (ns.map .number ++ .word w :: t)
    = if compareNumbers ms ns ≠ 0 then compareNumbers ms ns else compareSegments s t
  := by
  induction ms generalizing ns with
  | nil =>
      cases ns with
      | nil => simp [compareNumbers, compareSegments]
      | cons n ns => simp [compareNumbers, compareSegments]
  | cons m ms ih =>
      cases ns with
      | nil => simp [compareNumbers, compareSegments]
      | cons n ns =>
          simp only [compareNumbers] at ih
          simp only [List.map_cons, List.cons_append, ih, compareNumbers, compareSegments]
          split_ifs <;> simp_all

namespace RhelRelease

/-- A release as the numbers in it, with the ends of its version, release and minor number. -/
def marks (r : RhelRelease) : List (Option Nat) :=
  (r.version.map decimalValue).map some ++ none :: ((r.release.map decimalValue).map some ++ none ::
    some (decimalValue r.dist) :: ((r.minor.toList.map decimalValue).map some ++ none :: []))

/-- RPM compares numbers and ends. -/
theorem rpmCompare_eq {a b : RhelRelease} (h : a.dist = b.dist) :
  rpmCompare a b = compareMarks a.marks b.marks
  := by
  have hnumbers : ∀ ds : List Str, (ds.map fun d => Segment.number (decimalValue d))
      = (ds.map decimalValue).map .number := by
    intro ds
    rw [List.map_map]
    rfl
  simp only [rpmCompare, marks, versionSegments, releaseSegments, hnumbers]
  rw [compareMarks_append, compareSegments_append, compareMarks_append, h]
  simp only [compareMarks, compareSegments, if_true]
  rw [compareMarks_append]
  simp only [compareNumbers, compareMarks]
  split_ifs <;> simp_all

end RhelRelease

/-! ### Agreement -/

/-- The largest number the comparison knows. -/
def maxNumber : Nat := 2 ^ 63 - 1

/-- The numbers of a sequence as they are compared, with those that come after it. -/
def numbers (rest : List Nat) (s : List (Option Nat)) : List Nat :=
  (s.filterMap id).map (min · maxNumber) ++ rest

/-- From the first difference on the numbers are in the order of the numbers and ends.  Two numbers
that differ decide unless both are too large; where one sequence has an end, the numbers after it
must be below those of the other sequence. -/
def InStep (rest : List Nat) : List (Option Nat) → List (Option Nat) → Prop
  | some m :: s, some n :: t =>
    if m = n then InStep rest s t
    else if m < n then m < maxNumber ∨ numbers rest s < numbers rest t
    else n < maxNumber ∨ numbers rest t < numbers rest s
  | none :: s, none :: t => InStep rest s t
  | none :: s, some n :: t => numbers rest s < numbers rest (some n :: t)
  | some m :: s, none :: t => numbers rest t < numbers rest (some m :: s)
  | [], [] => True
  | [], x :: t => rest < numbers rest (x :: t)
  | x :: s, [] => rest < numbers rest (x :: s)

theorem compareComponents_eq_neg_one_iff {as bs : List Nat} :
  compareComponents as bs = -1 ↔ as < bs
  := by
  obtain ⟨h, hsign⟩ | ⟨h, hsign⟩ | ⟨h, hsign⟩ := compareComponents_spec as bs
  · simp [hsign, h]
  · rw [hsign, h]
    simp
  · simp [hsign, h.asymm]

theorem compareComponents_eq_one_iff {as bs : List Nat} :
  compareComponents as bs = 1 ↔ bs < as
  := by
  obtain ⟨h, hsign⟩ | ⟨h, hsign⟩ | ⟨h, hsign⟩ := compareComponents_spec as bs
  · simp [hsign, h.asymm]
  · rw [hsign, h]
    simp
  · simp [hsign, h]

theorem numbers_some (rest : List Nat) (m : Nat) (s : List (Option Nat)) :
  numbers rest (some m :: s) = min m maxNumber :: numbers rest s
  := rfl

theorem numbers_none (rest : List Nat) (s : List (Option Nat)) :
  numbers rest (none :: s) = numbers rest s
  := rfl

theorem numbers_append (rest : List Nat) (ms : List Nat) (s : List (Option Nat)) :
  numbers rest (ms.map some ++ s) = ms.map (min · maxNumber) ++ numbers rest s
  := by
  induction ms with
  | nil => rfl
  | cons m ms ih =>
      rw [List.map_cons, List.cons_append, numbers_some, ih]
      rfl

/-- Numbers that differ decide unless both are too large. -/
theorem numbers_lt_iff {rest : List Nat} {m n : Nat} (h : m < n) (s t : List (Option Nat)) :
  numbers rest (some m :: s) < numbers rest (some n :: t)
    ↔ m < maxNumber ∨ numbers rest s < numbers rest t
  := by
  rw [numbers_some, numbers_some, List.cons_lt_cons_iff]
  constructor
  · rintro (hlt | ⟨-, htail⟩)
    · left
      omega
    · exact .inr htail
  · rintro (hlt | htail)
    · left
      omega
    · obtain hlt | heq := lt_or_eq_of_le (min_le_min_right maxNumber h.le)
      · exact .inl hlt
      · exact .inr ⟨heq, htail⟩

/-- The comparison by numbers is that by numbers and ends exactly if the numbers are in step. -/
theorem compare_eq_iff_inStep (rest : List Nat) (s t : List (Option Nat)) :
  compareComponents (numbers rest s) (numbers rest t) = compareMarks s t ↔ InStep rest s t
  := by
  induction s, t using compareMarks.induct with
  | case1 =>
      simp only [compareMarks, InStep, iff_true]
      exact compareComponents_self _
  | case2 x t =>
      rw [compareMarks, InStep, compareComponents_eq_neg_one_iff]
      rfl
  | case3 x s =>
      rw [compareMarks, InStep, compareComponents_eq_one_iff]
      rfl
  | case4 s m t ih =>
      rw [compareMarks, if_pos rfl, InStep, if_pos rfl, numbers_some, numbers_some,
        compareComponents, if_pos rfl, ih]
  | case5 m s n t hne hlt =>
      rw [compareMarks, if_neg hne, if_pos hlt, InStep, if_neg hne, if_neg hlt.not_gt,
        compareComponents_eq_one_iff, numbers_lt_iff hlt]
  | case6 m s n t hne hlt =>
      have hmn : m < n := by omega
      rw [compareMarks, if_neg hne, if_neg hlt, InStep, if_neg hne, if_pos hmn,
        compareComponents_eq_neg_one_iff, numbers_lt_iff hmn]
  | case7 s t ih =>
      rw [compareMarks, InStep, numbers_none, numbers_none, ih]
  | case8 m s t =>
      rw [compareMarks, InStep, compareComponents_eq_one_iff, numbers_none]
  | case9 s n t =>
      rw [compareMarks, InStep, compareComponents_eq_neg_one_iff, numbers_none]

namespace RhelRelease

theorem components_eq_numbers (r : RhelRelease) :
  components r.text = numbers r.archNumbers r.marks
  := by
  have hcap : ∀ ds : List Str, (ds.map decimalValue).map (min · maxNumber) = ds.map component := by
    intro ds
    rw [List.map_map]
    rfl
  rw [components_text, marks, numbers_append, numbers_none, numbers_append, numbers_none,
    numbers_some, numbers_append, numbers_none, hcap, hcap, hcap]
  rfl

/-- The comparison agrees with RPM on two releases of one distribution and architecture exactly if
their numbers are in step. -/
theorem compare_eq_rpmCompare_iff {a b : RhelRelease} (hdist : a.dist = b.dist)
    (harch : a.arch = b.arch) :
  compareKernelReleases a.text b.text = rpmCompare a b ↔ InStep a.archNumbers a.marks b.marks
  := by
  have hrest : b.archNumbers = a.archNumbers := by
    rw [archNumbers, archNumbers, harch]
  rw [compareKernelReleases, components_eq_numbers, components_eq_numbers, hrest,
    rpmCompare_eq hdist, compare_eq_iff_inStep]

end RhelRelease

/-! ### Decisions -/

/-- The releases a mapping selects from an inventory are the given ones. -/
structure Ships (inv : Inventory) (ref : CrawlerRef) (shipped : List RhelRelease) : Prop where
  nonempty : shipped ≠ []
  releases : ∀ release, inv.Matches ref release ↔ ∃ r ∈ shipped, r.text = release

/-- Two releases of one distribution and architecture whose numbers are in step. -/
structure Comparable (a b : RhelRelease) : Prop where
  dist : a.dist = b.dist
  arch : a.arch = b.arch
  inStep : InStep a.archNumbers a.marks b.marks

/-- The verdict names the newest release, and is fresh exactly if no release is newer than the
recorded one. -/
structure Decides (shipped : List RhelRelease) (kernel : RhelRelease) (result : Result) : Prop where
  newest : ∃ r ∈ shipped, r.text = result.newest ∧ ∀ r' ∈ shipped, r'.rpmCompare r ≤ 0
  fresh : result.status = .fresh ↔ ∀ r ∈ shipped, r.rpmCompare kernel ≤ 0

theorem Comparable.compare_eq {a b : RhelRelease} (h : Comparable a b) :
  compareKernelReleases a.text b.text = a.rpmCompare b
  := (RhelRelease.compare_eq_rpmCompare_iff h.dist h.arch).mpr h.inStep

theorem RhelRelease.text_ne_nil (r : RhelRelease) :
  r.text ≠ []
  := by
  have hel : 101 ∈ r.text := by
    rw [text]
    simp [show (101 : UInt8) ∈ str ".el" by decide]
  exact List.ne_nil_of_mem hel

theorem newest_ne_nil {inv : Inventory} {ref : CrawlerRef} {shipped : List RhelRelease}
    (h : Ships inv ref shipped) :
  inv.newest ref ≠ []
  := by
  obtain ⟨r, hr⟩ := List.exists_mem_of_ne_nil shipped h.nonempty
  obtain ⟨e, he, hselects, -⟩ := (h.releases r.text).mpr ⟨r, hr, rfl⟩
  apply foldl_better_ne_nil _ (.inr ⟨e, he, hselects⟩)
  intro e he hselects
  obtain ⟨r, -, htext⟩ := (h.releases e.kernelRelease).mp ⟨e, he, hselects, rfl⟩
  rw [← htext]
  exact r.text_ne_nil

/-- The verdict on a profile whose mapping selects something, by the newest release. -/
theorem evaluateEntry_of_newest {fetch : Str → Except Str Inventory} {baselines : List Baseline}
    {entry : Baseline} {ref : CrawlerRef} {inv : Inventory} {result : Result}
    (href : entry.crawler = some ref) (hkernel : entry.kernel ≠ [])
    (hfetch : fetch ref.archOrDefault = .ok inv) (hnewest : inv.newest ref ≠ [])
    (h : evaluateEntry fetch baselines entry = .ok result) :
  result.newest = inv.newest ref
    ∧ (result.status = .fresh ↔ compareKernelReleases (inv.newest ref) entry.kernel ≤ 0)
  := by
  rw [evaluateEntry, href] at h
  dsimp only at h
  rw [if_neg hkernel, hfetch] at h
  dsimp only at h
  rw [if_neg hnewest] at h
  split_ifs at h with hfresh hcovers
  · cases h
    exact ⟨rfl, iff_of_true rfl hfresh⟩
  · cases h
    exact ⟨rfl, iff_of_false (by rintro ⟨⟩) hfresh⟩
  · cases h
    exact ⟨rfl, iff_of_false (by rintro ⟨⟩) hfresh⟩

theorem decides_of_comparable {fetch : Str → Except Str Inventory} {baselines : List Baseline}
    {entry : Baseline} {ref : CrawlerRef} {inv : Inventory} {result : Result}
    {shipped : List RhelRelease} {kernel : RhelRelease} (href : entry.crawler = some ref)
    (hkernel : entry.kernel = kernel.text) (hfetch : fetch ref.archOrDefault = .ok inv)
    (hships : Ships inv ref shipped)
    (hcomparable : ∀ a ∈ kernel :: shipped, ∀ b ∈ kernel :: shipped, Comparable a b)
    (h : evaluateEntry fetch baselines entry = .ok result) :
  Decides shipped kernel result
  := by
  have hnonempty := newest_ne_nil hships
  have hne : entry.kernel ≠ [] := by
    rw [hkernel]
    exact kernel.text_ne_nil
  obtain ⟨hnewest, hfresh⟩ := evaluateEntry_of_newest href hne hfetch hnonempty h
  obtain ⟨r, hr, htext⟩ := (hships.releases _).mp (newest_mem hnonempty)
  have hmax : ∀ r' ∈ shipped, compareKernelReleases r'.text r.text ≤ 0 := by
    intro r' hr'
    obtain ⟨e, he, hselects, hrelease⟩ := (hships.releases r'.text).mpr ⟨r', hr', rfl⟩
    rw [← hrelease, htext]
    exact compareKernelReleases_le_zero_iff.mpr (release_le_newest he hselects)
  have hrpm : ∀ a ∈ kernel :: shipped, ∀ b ∈ kernel :: shipped,
      compareKernelReleases a.text b.text = a.rpmCompare b :=
    fun a ha b hb => (hcomparable a ha b hb).compare_eq
  constructor
  · refine ⟨r, hr, by rw [hnewest, htext], ?_⟩
    intro r' hr'
    rw [← hrpm r' (List.mem_cons_of_mem _ hr') r (List.mem_cons_of_mem _ hr)]
    exact hmax r' hr'
  · rw [hfresh, hkernel, ← htext]
    constructor
    · intro hle r' hr'
      rw [← hrpm r' (List.mem_cons_of_mem _ hr') kernel List.mem_cons_self]
      exact compareKernelReleases_trans (hmax r' hr') hle
    · intro hall
      rw [hrpm r (List.mem_cons_of_mem _ hr) kernel List.mem_cons_self]
      exact hall r hr

/-- The comparison is that of RPM on two releases of one distribution and architecture exactly if
their numbers are in step, and where all releases are in step with each other and with the recorded
one the verdict names the newest and is fresh when it should be. -/
theorem rpm_order_iff (a b : RhelRelease) (hdist : a.dist = b.dist) (harch : a.arch = b.arch) :
  (compareKernelReleases a.text b.text = a.rpmCompare b ↔ InStep a.archNumbers a.marks b.marks)
  ∧ ∀ (fetch : Str → Except Str Inventory) (baselines : List Baseline) (entry : Baseline)
      (ref : CrawlerRef) (inv : Inventory) (result : Result) (shipped : List RhelRelease)
      (kernel : RhelRelease),
    entry.crawler = some ref → entry.kernel = kernel.text → fetch ref.archOrDefault = .ok inv →
    Ships inv ref shipped →
    (∀ a ∈ kernel :: shipped, ∀ b ∈ kernel :: shipped, Comparable a b) →
    evaluateEntry fetch baselines entry = .ok result → Decides shipped kernel result
  := by
  constructor
  · exact RhelRelease.compare_eq_rpmCompare_iff hdist harch
  · intro fetch baselines entry ref inv result shipped kernel href hkernel hfetch hships hall h
    exact decides_of_comparable href hkernel hfetch hships hall h

theorem isNumber_version :
  ∀ d ∈ [str "5", str "14", str "0"], IsNumber d
  := by
  decide

theorem isNumber_nine :
  IsNumber (str "9")
  := by
  decide

/-- A release of a distribution with this kernel. -/
def elNine (release : List Str) (minor : Option Str) (hrelease : ∀ d ∈ release, IsNumber d)
    (hminor : ∀ d ∈ minor, IsNumber d) : RhelRelease where
  version := [str "5", str "14", str "0"]
  release
  dist := str "9"
  minor
  arch := some (str "x86_64")
  versionNumbers := isNumber_version
  releaseNumbers := hrelease
  distNumber := isNumber_nine
  minorNumber := hminor

theorem rpm_order_minor_releases :
  ∃ a b : RhelRelease, a.text = str "5.14.0-687.12.1.el9_8.x86_64"
    ∧ b.text = str "5.14.0-611.5.1.el9_7.x86_64"
    ∧ compareKernelReleases a.text b.text = a.rpmCompare b
  := by
  let a := elNine [str "687", str "12", str "1"] (some (str "8")) (by decide) (by decide)
  let b := elNine [str "611", str "5", str "1"] (some (str "7")) (by decide) (by decide)
  have ha : a.marks = [some 5, some 14, some 0, none, some 687, some 12, some 1, none, some 9,
      some 8, none] := by
    decide
  have hb : b.marks = [some 5, some 14, some 0, none, some 611, some 5, some 1, none, some 9,
      some 7, none] := by
    decide
  refine ⟨a, b, by decide, by decide, (rpm_order_iff a b rfl rfl).1.mpr ?_⟩
  rw [ha, hb]
  simp [InStep, maxNumber]

/-- An update of a release is older than the release for the comparison, and the release is the
newest of the two. -/
theorem update_older_than_release :
  ∃ base update : RhelRelease, base.text = str "5.14.0-362.el9.x86_64"
    ∧ update.text = str "5.14.0-362.8.1.el9_3.x86_64" ∧ base.dist = update.dist
    ∧ base.arch = update.arch ∧ update.rpmCompare base = 1
    ∧ compareKernelReleases update.text base.text = -1
    ∧ Inventory.newest (fun _ => [⟨base.text, [], []⟩, ⟨update.text, [], []⟩])
      { distro := str "rocky", releasePrefix := str "5.14.0-", releaseContains := str "el9" }
      = base.text
  := by
  refine ⟨elNine [str "362"] none (by decide) (by decide),
    elNine [str "362", str "8", str "1"] (some (str "3")) (by decide) (by decide), by decide,
    by decide, rfl, rfl, by decide, by decide, by decide⟩

end Freshness
