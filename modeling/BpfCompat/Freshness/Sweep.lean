import BpfCompat.Freshness
import BpfCompat.Go.Sort

/-!
# Queries of the kernel inventory

The comparison of releases is a total preorder, since it compares the numbers in them one after
the other.  `Newest` goes over an inventory for one that is not exceeded, and `SweepEntries` sorts
the distinct releases of a mapping and takes the first ones (`inventory_queries`).
-/

namespace Freshness

open Go

/-! ### The order -/

theorem compareComponents_self (as : List Nat) :
  compareComponents as as = 0
  := by
  obtain ⟨h, -⟩ | ⟨-, hsign⟩ | ⟨h, -⟩ := compareComponents_spec as as
  · exact absurd h (lt_irrefl _)
  · exact hsign
  · exact absurd h (lt_irrefl _)

theorem compareKernelReleases_self (a : Str) :
  compareKernelReleases a a = 0
  := compareComponents_self _

theorem compareKernelReleases_swap (a b : Str) :
  compareKernelReleases b a = - compareKernelReleases a b
  := by
  rw [compareKernelReleases, compareKernelReleases]
  obtain ⟨h, hsign⟩ | ⟨h, hsign⟩ | ⟨h, hsign⟩ := compareComponents_spec (components a) (components b)
  · obtain ⟨h', -⟩ | ⟨h', -⟩ | ⟨-, hsign'⟩ := compareComponents_spec (components b) (components a)
    · exact absurd h' h.asymm
    · exact absurd h'.symm h.ne
    · rw [hsign, hsign']
      rfl
  · rw [h] at hsign ⊢
    rw [hsign]
    rfl
  · obtain ⟨-, hsign'⟩ | ⟨h', -⟩ | ⟨h', -⟩ := compareComponents_spec (components b) (components a)
    · rw [hsign, hsign']
    · exact absurd h' h.ne
    · exact absurd h' h.asymm

theorem compareKernelReleases_trans {a b c : Str} (hab : compareKernelReleases a b ≤ 0)
    (hbc : compareKernelReleases b c ≤ 0) :
  compareKernelReleases a c ≤ 0
  := by
  rw [compareKernelReleases_le_zero_iff] at hab hbc ⊢
  exact hab.trans hbc

theorem compareKernelReleases_total (a b : Str) :
  compareKernelReleases a b ≤ 0 ∨ compareKernelReleases b a ≤ 0
  := by
  rw [compareKernelReleases_swap]
  omega

/-! ### The newest release -/

theorem foldl_better_mem (ref : CrawlerRef) (l : List Entry) (best : Str) :
  l.foldl ref.better best = best
    ∨ ∃ e ∈ l, ref.selects e = true ∧ l.foldl ref.better best = e.kernelRelease
  := by
  induction l generalizing best with
  | nil => exact .inl rfl
  | cons x l ih =>
      rw [List.foldl_cons]
      obtain h | ⟨e, he, hselects, h⟩ := ih (ref.better best x)
      · rw [h]
        unfold CrawlerRef.better
        split_ifs with hselects hbetter
        · exact .inl rfl
        · exact .inr ⟨x, List.mem_cons_self, by simpa using hselects, rfl⟩
        · exact .inl rfl
      · exact .inr ⟨e, List.mem_cons_of_mem _ he, hselects, h⟩

/-- The newest release is one of those the mapping selects. -/
theorem newest_mem {inv : Inventory} {ref : CrawlerRef} (h : inv.newest ref ≠ []) :
  ∃ e ∈ inv ref.distro, ref.selects e = true ∧ e.kernelRelease = inv.newest ref
  := by
  obtain hnil | ⟨e, he, hselects, heq⟩ := foldl_better_mem ref (inv ref.distro) []
  · exact absurd hnil h
  · exact ⟨e, he, hselects, heq.symm⟩

theorem foldl_better_ne_nil {ref : CrawlerRef} {l : List Entry}
    (hl : ∀ e ∈ l, ref.selects e = true → e.kernelRelease ≠ []) {best : Str}
    (h : best ≠ [] ∨ ∃ e ∈ l, ref.selects e = true) :
  l.foldl ref.better best ≠ []
  := by
  induction l generalizing best with
  | nil =>
      obtain h | ⟨e, he, -⟩ := h
      · exact h
      · cases he
  | cons x l ih =>
      rw [List.forall_mem_cons] at hl
      rw [List.foldl_cons]
      apply ih hl.2
      unfold CrawlerRef.better
      split_ifs with hselects hbetter
      · obtain h | ⟨e, he, h⟩ := h
        · exact .inl h
        · obtain rfl | he := List.mem_cons.mp he
          · simp [h] at hselects
          · exact .inr ⟨e, he, h⟩
      · exact .inl (hl.1 (by simpa using hselects))
      · exact .inl fun hnil => hbetter (.inl hnil)

/-! ### Sweeps -/

/-- The first entry of every release a mapping selects that was not seen. -/
def distinctEntries (ref : CrawlerRef) : List Str → List Entry → List Entry
  | _, [] => []
  | seen, e :: entries =>
    if !ref.selects e then distinctEntries ref seen entries
    else if e.kernelRelease ∈ seen then distinctEntries ref seen entries
    else e :: distinctEntries ref (e.kernelRelease :: seen) entries

def newerFirst (a b : Entry) : Bool := 0 < compareKernelReleases a.kernelRelease b.kernelRelease

def Inventory.sweepEntries (sorting : SliceSort Entry) (inv : Inventory) (ref : CrawlerRef)
    (count : Int) : List Entry :=
  let matching := sorting.sort newerFirst (distinctEntries ref [] (inv ref.distro))
  if 0 < count ∧ count < matching.length then matching.take count.toNat else matching

theorem mem_distinctEntries {ref : CrawlerRef} {seen : List Str} {entries : List Entry} {e : Entry}
    (h : e ∈ distinctEntries ref seen entries) :
  e ∈ entries ∧ ref.selects e = true ∧ e.kernelRelease ∉ seen
  := by
  induction entries generalizing seen with
  | nil => cases h
  | cons x entries ih =>
      rw [distinctEntries] at h
      split_ifs at h with hselects hseen
      · exact ⟨List.mem_cons_of_mem _ (ih h).1, (ih h).2⟩
      · exact ⟨List.mem_cons_of_mem _ (ih h).1, (ih h).2⟩
      · obtain rfl | h := List.mem_cons.mp h
        · exact ⟨List.mem_cons_self, by simpa using hselects, hseen⟩
        · obtain ⟨hmem, hsel, hnot⟩ := ih h
          exact ⟨List.mem_cons_of_mem _ hmem, hsel, fun hs => hnot (List.mem_cons_of_mem _ hs)⟩

theorem nodup_distinctEntries (ref : CrawlerRef) (seen : List Str) (entries : List Entry) :
  ((distinctEntries ref seen entries).map (·.kernelRelease)).Nodup
  := by
  induction entries generalizing seen with
  | nil => exact List.nodup_nil
  | cons x entries ih =>
      rw [distinctEntries]
      split_ifs
      · exact ih seen
      · exact ih seen
      · rw [List.map_cons, List.nodup_cons]
        refine ⟨?_, ih _⟩
        intro hmem
        obtain ⟨e, he, heq⟩ := List.mem_map.mp hmem
        exact (mem_distinctEntries he).2.2 (heq ▸ List.mem_cons_self)

/-- No release the mapping selects is left out. -/
theorem exists_mem_distinctEntries {ref : CrawlerRef} {seen : List Str} {entries : List Entry}
    {e : Entry} (he : e ∈ entries) (hselects : ref.selects e = true) (hseen : e.kernelRelease ∉ seen) :
  ∃ e' ∈ distinctEntries ref seen entries, e'.kernelRelease = e.kernelRelease
  := by
  induction entries generalizing seen with
  | nil => cases he
  | cons x entries ih =>
      rw [distinctEntries]
      obtain rfl | he := List.mem_cons.mp he
      · rw [if_neg (by simp [hselects]), if_neg hseen]
        exact ⟨e, List.mem_cons_self, rfl⟩
      · split_ifs with hx hxseen
        · exact ih he hseen
        · exact ih he hseen
        · by_cases heq : x.kernelRelease = e.kernelRelease
          · exact ⟨x, List.mem_cons_self, heq⟩
          · have hnot : e.kernelRelease ∉ x.kernelRelease :: seen := by
              rw [List.mem_cons, not_or]
              exact ⟨fun h => heq h.symm, hseen⟩
            obtain ⟨e', he', hrelease⟩ := ih he hnot
            exact ⟨e', List.mem_cons_of_mem _ he', hrelease⟩

theorem newerFirst_eq_false_iff {a b : Entry} :
  newerFirst a b = false ↔ compareKernelReleases a.kernelRelease b.kernelRelease ≤ 0
  := by
  rw [newerFirst, decide_eq_false_iff_not, not_lt]

theorem strictWeak_newerFirst :
  StrictWeak newerFirst
  := by
  constructor
  · intro a b h
    rw [newerFirst, decide_eq_true_iff] at h
    rw [newerFirst_eq_false_iff, compareKernelReleases_swap]
    omega
  · intro a b c hba hcb
    rw [newerFirst_eq_false_iff] at hba hcb ⊢
    exact compareKernelReleases_trans hcb hba

/-- A sweep takes the first entries of all that are sorted. -/
theorem sweepEntries_append (sorting : SliceSort Entry) (inv : Inventory) (ref : CrawlerRef)
    {count : Int} (h : 0 < count) :
  ∃ rest, sorting.sort newerFirst (distinctEntries ref [] (inv ref.distro))
      = inv.sweepEntries sorting ref count ++ rest
    ∧ ((inv.sweepEntries sorting ref count).length = count
      ∨ (inv.sweepEntries sorting ref count).length < count ∧ rest = [])
  := by
  unfold Inventory.sweepEntries
  generalize sorting.sort newerFirst (distinctEntries ref [] (inv ref.distro)) = sorted
  dsimp only
  split_ifs with hcut
  · refine ⟨sorted.drop count.toNat, (List.take_append_drop _ _).symm, .inl ?_⟩
    rw [List.length_take]
    omega
  · refine ⟨[], (List.append_nil _).symm, ?_⟩
    obtain hlt | heq := lt_or_eq_of_le (show (sorted.length : Int) ≤ count by omega)
    · exact .inr ⟨hlt, rfl⟩
    · exact .inl heq

/-- The mapping selects the release from the inventory. -/
def Inventory.Matches (inv : Inventory) (ref : CrawlerRef) (release : Str) : Prop :=
  ∃ e ∈ inv ref.distro, ref.selects e = true ∧ e.kernelRelease = release

/-- What a sweep is: distinct releases of the mapping, newest first, as many as are asked for or all
of them, and no other release is newer than one of them. -/
structure IsSweep (inv : Inventory) (ref : CrawlerRef) (count : Int) (result : List Entry) : Prop where
  mem : ∀ e ∈ result, e ∈ inv ref.distro ∧ ref.selects e = true
  distinct : (result.map (·.kernelRelease)).Nodup
  ordered : result.Pairwise fun a b => 0 ≤ compareKernelReleases a.kernelRelease b.kernelRelease
  many : result.length = count ∨ result.length < count
    ∧ ∀ release, inv.Matches ref release → release ∈ result.map (·.kernelRelease)
  newest : ∀ release, inv.Matches ref release → release ∉ result.map (·.kernelRelease) →
    ∀ e ∈ result, compareKernelReleases release e.kernelRelease ≤ 0

theorem isSweep_sweepEntries (sorting : SliceSort Entry) (inv : Inventory) (ref : CrawlerRef)
    {count : Int} (h : 0 < count) :
  IsSweep inv ref count (inv.sweepEntries sorting ref count)
  := by
  obtain ⟨rest, hsort, hmany⟩ := sweepEntries_append sorting inv ref h
  generalize inv.sweepEntries sorting ref count = result at hsort hmany
  have hperm := sorting.perm newerFirst (distinctEntries ref [] (inv ref.distro))
  have hsorted := sorting.sorted newerFirst (distinctEntries ref [] (inv ref.distro))
    strictWeak_newerFirst
  rw [hsort] at hperm hsorted
  rw [List.pairwise_append] at hsorted
  have hmatches : ∀ release, inv.Matches ref release →
      ∃ e ∈ result ++ rest, e.kernelRelease = release := by
    rintro release ⟨e, he, hselects, rfl⟩
    obtain ⟨e', he', heq⟩ := exists_mem_distinctEntries he hselects List.not_mem_nil
    exact ⟨e', hperm.mem_iff.mpr he', heq⟩
  constructor
  · intro e he
    have hdistinct := mem_distinctEntries (hperm.mem_iff.mp (List.mem_append_left _ he))
    exact ⟨hdistinct.1, hdistinct.2.1⟩
  · have hnodup := ((hperm.map (·.kernelRelease)).nodup_iff).mpr (nodup_distinctEntries _ _ _)
    rw [List.map_append] at hnodup
    exact hnodup.of_append_left
  · apply hsorted.1.imp
    intro a b hab
    rw [newerFirst_eq_false_iff, compareKernelReleases_swap] at hab
    omega
  · obtain heq | ⟨hlt, rfl⟩ := hmany
    · exact .inl heq
    · refine .inr ⟨hlt, ?_⟩
      intro release hrelease
      obtain ⟨e, he, rfl⟩ := hmatches release hrelease
      rw [List.append_nil] at he
      exact List.mem_map_of_mem he
  · intro release hrelease hleft e he
    obtain ⟨e', he', rfl⟩ := hmatches release hrelease
    obtain he' | he' := List.mem_append.mp he'
    · exact absurd (List.mem_map_of_mem he') hleft
    · exact newerFirst_eq_false_iff.mp (hsorted.2.2 e he e' he')

/-- What the newest release is: one of the mapping that no other exceeds, empty if there is none. -/
structure IsNewest (inv : Inventory) (ref : CrawlerRef) (result : Str) : Prop where
  empty : result = [] ↔ ¬ ∃ release, inv.Matches ref release
  mem : result ≠ [] → inv.Matches ref result
  newest : ∀ release, inv.Matches ref release → compareKernelReleases release result ≤ 0

theorem isNewest_newest {inv : Inventory} (hinv : ∀ distro, ∀ e ∈ inv distro, e.kernelRelease ≠ [])
    (ref : CrawlerRef) :
  IsNewest inv ref (inv.newest ref)
  := by
  constructor
  · constructor
    · rintro hnil ⟨release, e, he, hselects, -⟩
      exact foldl_better_ne_nil (fun e he _ => hinv ref.distro e he) (.inr ⟨e, he, hselects⟩) hnil
    · intro hnone
      by_contra hne
      obtain ⟨e, he, hselects, heq⟩ := newest_mem hne
      exact hnone ⟨_, e, he, hselects, heq⟩
  · exact newest_mem
  · rintro release ⟨e, he, hselects, rfl⟩
    exact compareKernelReleases_le_zero_iff.mpr (release_le_newest he hselects)

/-- The comparison is a total preorder, the newest release of an inventory of releases is the
newest, and sweeps are sweeps. -/
theorem inventory_queries (sorting : SliceSort Entry) :
  ((∀ a, compareKernelReleases a a = 0)
    ∧ (∀ a b c, compareKernelReleases a b ≤ 0 → compareKernelReleases b c ≤ 0 →
      compareKernelReleases a c ≤ 0)
    ∧ (∀ a b, compareKernelReleases a b ≤ 0 ∨ compareKernelReleases b a ≤ 0)
    ∧ ∀ a b, compareKernelReleases b a = - compareKernelReleases a b)
  ∧ (∀ inv : Inventory, (∀ distro, ∀ e ∈ inv distro, e.kernelRelease ≠ []) →
    ∀ ref, IsNewest inv ref (inv.newest ref))
  ∧ (∀ (inv : Inventory) (ref : CrawlerRef) (count : Int), 0 < count →
    IsSweep inv ref count (inv.sweepEntries sorting ref count))
  := by
  refine ⟨⟨compareKernelReleases_self, ?_, compareKernelReleases_total, compareKernelReleases_swap⟩,
    ?_, ?_⟩
  · intro a b c hab hbc
    exact compareKernelReleases_trans hab hbc
  · intro inv hinv ref
    exact isNewest_newest hinv ref
  · intro inv ref count h
    exact isSweep_sweepEntries sorting inv ref h

/-- A distribution with three releases, one of them twice. -/
def threeReleases : Inventory := fun _ =>
  [⟨str "5.15.0-92-generic", [], []⟩, ⟨str "5.15.0-184-generic", [], []⟩,
    ⟨str "5.15.0-92-generic", str "lowlatency", []⟩, ⟨str "5.15.0-101-generic", [], []⟩]

/-- The series of these releases. -/
def jammySeries : CrawlerRef where
  distro := str "ubuntu"
  releasePrefix := str "5.15.0-"

theorem inventory_queries_three_releases :
  (∀ distro, ∀ e ∈ threeReleases distro, e.kernelRelease ≠ [])
    ∧ IsNewest threeReleases jammySeries (str "5.15.0-184-generic")
    ∧ IsSweep threeReleases jammySeries 2
      [⟨str "5.15.0-184-generic", [], []⟩, ⟨str "5.15.0-101-generic", [], []⟩]
  := by
  have hnonempty : ∀ distro, ∀ e ∈ threeReleases distro, e.kernelRelease ≠ [] := by
    intro distro
    show ∀ e ∈ threeReleases [], e.kernelRelease ≠ []
    decide
  have hnewest : threeReleases.newest jammySeries = str "5.15.0-184-generic" := by decide
  have hsweep : threeReleases.sweepEntries (insertionSlice Entry) jammySeries 2
      = [⟨str "5.15.0-184-generic", [], []⟩, ⟨str "5.15.0-101-generic", [], []⟩] := by
    decide
  obtain ⟨-, hisNewest, hisSweep⟩ := inventory_queries (insertionSlice Entry)
  refine ⟨hnonempty, ?_, ?_⟩
  · rw [← hnewest]
    exact hisNewest threeReleases hnonempty jammySeries
  · rw [← hsweep]
    exact hisSweep threeReleases jammySeries 2 (by decide)

end Freshness
