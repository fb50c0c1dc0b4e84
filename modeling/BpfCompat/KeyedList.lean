import Mathlib.Data.List.Nodup

/-!
# Lists whose members carry keys

A member of a list is changed by its key.  Changes that keep the keys are described by what they do
to the members (`mem_adjust`) and to how many members satisfy a predicate (`countP_adjust`).
-/

namespace KeyedList

variable {α κ : Type*} [DecidableEq κ] {key : α → κ} {k : κ} {f : α → α} {l : List α}

/-- The list with the members that carry a key changed. -/
def adjust (key : α → κ) (k : κ) (f : α → α) (l : List α) : List α :=
  l.map fun a => if key a = k then f a else a

theorem map_key_adjust (hf : ∀ a, key (f a) = key a) :
  (adjust key k f l).map key = l.map key
  := by
  rw [adjust, List.map_map]
  apply List.map_congr_left
  intro a _
  rw [Function.comp_apply]
  split_ifs
  · exact hf a
  · rfl

theorem mem_adjust {b : α} :
  b ∈ adjust key k f l ↔ (∃ a ∈ l, key a = k ∧ b = f a) ∨ b ∈ l ∧ key b ≠ k
  := by
  rw [adjust, List.mem_map]
  constructor
  · rintro ⟨a, ha, rfl⟩
    by_cases hk : key a = k
    · rw [if_pos hk]
      exact .inl ⟨a, ha, hk, rfl⟩
    · rw [if_neg hk]
      exact .inr ⟨ha, hk⟩
  · rintro (⟨a, ha, hk, rfl⟩ | ⟨hb, hk⟩)
    · exact ⟨a, ha, if_pos hk⟩
    · exact ⟨b, hb, if_neg hk⟩

/-- A member that carries another key is still there. -/
theorem mem_adjust_of_ne {b : α} (hb : b ∈ l) (hk : key b ≠ k) :
  b ∈ adjust key k f l
  := mem_adjust.mpr (.inr ⟨hb, hk⟩)

/-- The changed member is there. -/
theorem mem_adjust_of_eq {a : α} (ha : a ∈ l) (hk : key a = k) :
  f a ∈ adjust key k f l
  := mem_adjust.mpr (.inl ⟨a, ha, hk, rfl⟩)

/-- A change that no member satisfies a predicate after which did not before. -/
theorem countP_adjust_le {p : α → Bool}
    (h : ∀ a ∈ l, key a = k → p (f a) = true → p a = true) :
  (adjust key k f l).countP p ≤ l.countP p
  := by
  induction l with
  | nil => exact Nat.le_refl _
  | cons a l ih =>
      have htail := ih fun b hb => h b (List.mem_cons_of_mem _ hb)
      have hhead : p (if key a = k then f a else a) = true → p a = true := by
        intro hp
        split_ifs at hp with hk
        · exact h a List.mem_cons_self hk hp
        · exact hp
      rw [adjust] at htail
      rw [adjust, List.map_cons, List.countP_cons, List.countP_cons]
      generalize (if key a = k then f a else a) = b at hhead ⊢
      cases hb : p b with
      | false => simp only [Bool.false_eq_true, if_false]; omega
      | true => simp only [hhead hb, if_true]; omega

/-- A key that no member carries changes nothing. -/
theorem adjust_of_notMem (h : k ∉ l.map key) :
  adjust key k f l = l
  := by
  rw [adjust]
  conv => rhs; rw [← List.map_id l]
  apply List.map_congr_left
  intro b hb
  rw [if_neg, id]
  rintro rfl
  exact h (List.mem_map_of_mem hb)

/-- How many members satisfy a predicate after the change of the one member with a key. -/
theorem countP_adjust {p : α → Bool} (hl : (l.map key).Nodup) {a : α} (ha : a ∈ l)
    (hk : key a = k) :
  (adjust key k f l).countP p + (if p a = true then 1 else 0)
    = l.countP p + (if p (f a) = true then 1 else 0)
  := by
  induction l with
  | nil => cases ha
  | cons b l ih =>
      rw [List.map_cons, List.nodup_cons] at hl
      rcases List.mem_cons.mp ha with rfl | hmem
      · -- the key stands at the head, and nowhere behind it
        have hrest := adjust_of_notMem (f := f) (hk ▸ hl.1)
        rw [adjust] at hrest
        rw [adjust, List.map_cons, hrest, List.countP_cons, List.countP_cons, if_pos hk]
        omega
      · have htail := ih hl.2 hmem
        have hb : key b ≠ k := by
          intro hb
          apply hl.1
          rw [hb, ← hk]
          exact List.mem_map_of_mem hmem
        rw [adjust] at htail
        rw [adjust, List.map_cons, if_neg hb, List.countP_cons, List.countP_cons]
        omega

/-- The change of the one member with a key adds one at most. -/
theorem countP_adjust_le_succ {p : α → Bool} (hl : (l.map key).Nodup) :
  (adjust key k f l).countP p ≤ l.countP p + 1
  := by
  by_cases hk : k ∈ l.map key
  · obtain ⟨a, ha, hkey⟩ := List.mem_map.mp hk
    have hcount := countP_adjust (f := f) (p := p) hl ha hkey
    split_ifs at hcount <;> omega
  · rw [adjust_of_notMem hk]
    exact Nat.le_succ _

end KeyedList
