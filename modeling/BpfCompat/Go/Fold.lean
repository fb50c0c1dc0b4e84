import BpfCompat.Go.Strings

/-!
# Simple case folding

The orbit of a code point under simple case folding, walked the way the library hands it
out: from a code point to the next larger one of its orbit, and from the largest to the
smallest.  A loop that walks the orbit and keeps the smallest code point it meets ends with
the smallest of the orbit (`foldRune_eq`), so its result names the orbit.
-/

namespace Go

variable [UnicodeTables]

/-- The smallest code point of an orbit. -/
def orbitMin (c : Char) : Char := (UnicodeTables.orbit c).min?.getD c

/-- The next code point of the orbit: the smallest larger one, or the smallest. -/
def simpleFold (c : Char) : Char :=
  ((UnicodeTables.orbit c).filter (c < ·)).min?.getD (orbitMin c)

/-- The loop over the orbit of `r` from `f` on. -/
def foldLoop (r : Char) : Nat → Char → Char → Char
  | 0, _, canonical => canonical
  | fuel + 1, f, canonical =>
    if f = r then canonical
    else foldLoop r fuel (simpleFold f) (if f < canonical then f else canonical)

/-- The smallest code point the loop over an orbit meets. -/
def foldRune (r : Char) : Char :=
  foldLoop r (UnicodeTables.orbit r).length (simpleFold r) r

/-! ### The smallest of an orbit -/

theorem orbitMin_spec (c : Char) :
  orbitMin c ∈ UnicodeTables.orbit c ∧ ∀ d ∈ UnicodeTables.orbit c, orbitMin c ≤ d
  := by
  cases h : (UnicodeTables.orbit c).min? with
  | none =>
      rw [List.min?_eq_none_iff] at h
      have hc := UnicodeTables.mem_orbit c
      rw [h] at hc
      cases hc
  | some m =>
      rw [orbitMin, h, Option.getD_some]
      exact List.min?_eq_some_iff.mp h

theorem orbitMin_mem (c : Char) :
  orbitMin c ∈ UnicodeTables.orbit c
  := (orbitMin_spec c).1

theorem orbitMin_le {c d : Char} (h : d ∈ UnicodeTables.orbit c) :
  orbitMin c ≤ d
  := (orbitMin_spec c).2 d h

/-- The smallest code point names the orbit. -/
theorem orbitMin_eq_iff {c d : Char} :
  orbitMin c = orbitMin d ↔ UnicodeTables.orbit c = UnicodeTables.orbit d
  := by
  constructor
  · intro h
    rw [← UnicodeTables.orbit_eq c _ (orbitMin_mem c), h,
      UnicodeTables.orbit_eq d _ (orbitMin_mem d)]
  · intro h
    apply le_antisymm
    · apply orbitMin_le
      rw [h]
      exact orbitMin_mem d
    · apply orbitMin_le
      rw [← h]
      exact orbitMin_mem c

/-! ### Walking an orbit -/

/-- How many code points of the orbit of `r` are larger than `f`. -/
def larger (r f : Char) : Nat := (UnicodeTables.orbit r).countP (f < ·)

theorem simpleFold_of_largest {r f : Char} (hf : f ∈ UnicodeTables.orbit r)
    (h : larger r f = 0) :
  simpleFold f = orbitMin r
  := by
  have hnil : (UnicodeTables.orbit f).filter (f < ·) = [] := by
    rw [UnicodeTables.orbit_eq r f hf, List.filter_eq_nil_iff]
    intro c hc
    have := List.countP_eq_zero.mp h c hc
    simpa using this
  rw [simpleFold, hnil, List.min?_nil, Option.getD_none, orbitMin_eq_iff]
  exact UnicodeTables.orbit_eq r f hf

/-- Below the largest code point a step goes up within the orbit. -/
theorem simpleFold_step {r f : Char} (hf : f ∈ UnicodeTables.orbit r) (h : 0 < larger r f) :
  simpleFold f ∈ UnicodeTables.orbit r ∧ f < simpleFold f ∧ larger r (simpleFold f) < larger r f
  := by
  have horbit := UnicodeTables.orbit_eq r f hf
  obtain ⟨c, hc, hlt⟩ := List.countP_pos_iff.mp h
  cases hm : ((UnicodeTables.orbit f).filter (f < ·)).min? with
  | none =>
      rw [List.min?_eq_none_iff, List.filter_eq_nil_iff, horbit] at hm
      exact absurd hlt (hm c hc)
  | some m =>
      have hmem := List.min?_mem hm
      rw [List.mem_filter, horbit, decide_eq_true_eq] at hmem
      have heq : simpleFold f = m := by rw [simpleFold, hm, Option.getD_some]
      rw [heq]
      use hmem.1, hmem.2
      -- everything above `m` is above `f`, and `m` is above `f` but not above itself
      have hsub : ((UnicodeTables.orbit r).filter (m < ·)).countP (f < ·)
          = (UnicodeTables.orbit r).countP (m < ·) := by
        rw [List.countP_filter]
        apply List.countP_congr
        intro c _
        simp only [Bool.and_eq_true, decide_eq_true_eq, and_iff_right_iff_imp]
        intro hmc
        exact lt_trans hmem.2 hmc
      have hpos : 0 < ((UnicodeTables.orbit r).filter fun c => !decide (m < c)).countP (f < ·) := by
        apply List.countP_pos_iff.mpr
        use m
        simp [hmem]
      have hsplit := List.countP_eq_countP_filter_add (UnicodeTables.orbit r) (f < ·) (m < ·)
      rw [larger, larger, hsplit, hsub]
      omega

/-- Once the smallest code point was met it is kept. -/
theorem foldLoop_orbitMin {r : Char} (fuel : Nat) {f : Char}
    (hf : f ∈ UnicodeTables.orbit r) :
  foldLoop r fuel f (orbitMin r) = orbitMin r
  := by
  induction fuel generalizing f with
  | zero => rfl
  | succ fuel ih =>
      have hnext : simpleFold f ∈ UnicodeTables.orbit r := by
        obtain h | h := Nat.eq_zero_or_pos (larger r f)
        · rw [simpleFold_of_largest hf h]
          exact orbitMin_mem r
        · exact (simpleFold_step hf h).1
      rw [foldLoop, if_neg (not_lt.mpr (orbitMin_le hf)), ih hnext]
      exact ite_self _

/-- The loop finds the smallest code point after the largest. -/
theorem foldLoop_from_orbitMin (r : Char) (fuel : Nat) :
  foldLoop r (fuel + 1) (orbitMin r) r = orbitMin r
  := by
  rw [foldLoop]
  split_ifs with h hlt
  · exact h.symm
  · rw [foldLoop_orbitMin fuel]
    obtain h' | h' := Nat.eq_zero_or_pos (larger r (orbitMin r))
    · rw [simpleFold_of_largest (orbitMin_mem r) h']
      exact orbitMin_mem r
    · exact (simpleFold_step (orbitMin_mem r) h').1
  · exact absurd (lt_of_le_of_ne (orbitMin_le (UnicodeTables.mem_orbit r)) h) hlt

/-- From a code point above `r` the loop climbs to the largest, keeping `r`. -/
theorem foldLoop_of_lt {r : Char} (fuel : Nat) {f : Char} (hf : f ∈ UnicodeTables.orbit r)
    (hlt : r < f) (hfuel : larger r f + 2 ≤ fuel) :
  foldLoop r fuel f r = orbitMin r
  := by
  induction fuel generalizing f with
  | zero => omega
  | succ fuel ih =>
      rw [foldLoop, if_neg (ne_of_gt hlt), if_neg (not_lt.mpr (le_of_lt hlt))]
      obtain h | h := Nat.eq_zero_or_pos (larger r f)
      · obtain ⟨n, rfl⟩ : ∃ n, fuel = n + 1 := ⟨fuel - 1, by omega⟩
        rw [simpleFold_of_largest hf h, foldLoop_from_orbitMin]
      · obtain ⟨hmem, hup, hless⟩ := simpleFold_step hf h
        apply ih hmem (lt_trans hlt hup)
        omega

/-- The loop over an orbit ends with its smallest code point. -/
theorem foldRune_eq (r : Char) :
  foldRune r = orbitMin r
  := by
  have hr := UnicodeTables.mem_orbit r
  -- `r` is not above itself, so fewer than all of its orbit are
  have hlength : larger r r < (UnicodeTables.orbit r).length := by
    rw [larger]
    apply lt_of_le_of_ne List.countP_le_length
    intro h
    have := List.countP_eq_length.mp h r hr
    simp at this
  rw [foldRune]
  obtain h | h := Nat.eq_zero_or_pos (larger r r)
  · obtain ⟨n, hn⟩ : ∃ n, (UnicodeTables.orbit r).length = n + 1 :=
      ⟨(UnicodeTables.orbit r).length - 1, by omega⟩
    rw [simpleFold_of_largest hr h, hn, foldLoop_from_orbitMin]
  · obtain ⟨hmem, hup, hless⟩ := simpleFold_step hr h
    apply foldLoop_of_lt _ hmem hup
    omega

theorem foldRune_eq_iff {c d : Char} :
  foldRune c = foldRune d ↔ UnicodeTables.orbit c = UnicodeTables.orbit d
  := by
  rw [foldRune_eq, foldRune_eq, orbitMin_eq_iff]

end Go
