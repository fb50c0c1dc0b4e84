import Mathlib

/-!
# Numbered slots

A row of slots in which things age: what is newer stands in a lower slot, and there may be gaps.
What matters is the list of the things present, oldest first.  Moving a thing to the next slot does
not change it when that slot is free.
-/

namespace Slots

variable {β : Type*} {s t : ℕ → Option β} {n i : ℕ}

/-- What stands in the slots up to the given one, the highest first. -/
def present (s : ℕ → Option β) : ℕ → List β
  | 0 => (s 0).toList
  | n + 1 => (s (n + 1)).toList ++ present s n

/-- The slots after one thing was moved to the next slot. -/
def shift (s : ℕ → Option β) (i : ℕ) : ℕ → Option β :=
  Function.update (Function.update s (i + 1) (s i)) i none

@[simp] theorem shift_self :
  shift s i i = none
  := Function.update_self _ _ _

@[simp] theorem shift_succ :
  shift s i (i + 1) = s i
  := by
  rw [shift, Function.update_of_ne (Nat.succ_ne_self i), Function.update_self]

theorem shift_of_ne {j : ℕ} (h : j ≠ i) (h' : j ≠ i + 1) :
  shift s i j = s j
  := by
  rw [shift, Function.update_of_ne h, Function.update_of_ne h']

theorem present_congr (h : ∀ j ≤ n, s j = t j) :
  present s n = present t n
  := by
  induction n with
  | zero => rw [present, present, h 0 le_rfl]
  | succ n ih =>
      rw [present, present, h (n + 1) le_rfl, ih]
      intro j hj
      apply h j (Nat.le_succ_of_le hj)

/-- Below the slot a thing is moved to, it is gone. -/
theorem toList_append_present_shift :
  (s i).toList ++ present (shift s i) i = present s i
  := by
  cases i with
  | zero => simp [present]
  | succ i =>
      have hbelow : present (shift s (i + 1)) i = present s i := by
        apply present_congr
        intro j hj
        apply shift_of_ne
        · exact (Nat.lt_succ_of_le hj).ne
        · exact (Nat.lt_succ_of_le (Nat.le_succ_of_le hj)).ne
      rw [present, present, shift_self, hbelow]
      rfl

/-- Moving into a free slot changes nothing of what is present. -/
theorem present_shift (hi : i < n) (hfree : s (i + 1) = none) :
  present (shift s i) n = present s n
  := by
  induction n with
  | zero => exact absurd hi (Nat.not_lt_zero i)
  | succ n ih =>
      rcases Nat.lt_succ_iff_lt_or_eq.mp hi with hlt | rfl
      · have hlast : shift s i (n + 1) = s (n + 1) := by
          apply shift_of_ne
          · exact (Nat.lt_succ_of_lt hlt).ne'
          · exact (Nat.succ_lt_succ hlt).ne'
        rw [present, present, hlast, ih hlt]
      · rw [present, present, shift_succ, hfree, toList_append_present_shift]
        rfl

/-- What is present, but for what stands in the highest slot. -/
theorem present_succ_of_none (h : s (n + 1) = none) :
  present s (n + 1) = present s n
  := by
  rw [present, h]
  rfl

theorem present_succ_cases (s : ℕ → Option β) (n : ℕ) :
  present s n = present s (n + 1) ∨ present s n = (present s (n + 1)).tail
  := by
  rw [present]
  cases s (n + 1) with
  | none => exact .inl rfl
  | some b => exact .inr rfl

/-- Clearing the highest slot. -/
theorem present_clear :
  present (Function.update s (n + 1) none) (n + 1) = present s n
  := by
  rw [present_succ_of_none (Function.update_self _ _ _)]
  apply present_congr
  intro j hj
  apply Function.update_of_ne (Nat.lt_succ_of_le hj).ne

end Slots
