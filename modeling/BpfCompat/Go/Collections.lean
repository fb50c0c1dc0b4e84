import Mathlib

/-!
# Maps, slices and errors

A map is an association list in which no key occurs twice; the order in which it is
ranged over is left open by the language, so it is a parameter wherever a loop depends on
it.  Indexing a slice by a key that no two elements share gives a map whose lookups say
which element carries the key, a sorted slice of distinct keys is determined by which
keys it holds, and a slice whose elements are stored at their places may receive them in
any order.  These facts make a computation independent of the order of its input.

A fallible computation that succeeds is one whose steps all succeed.
-/

namespace Go

/-! ### Errors -/

section Errors

variable {ε α β : Type}

/-- A sequence of two steps succeeds when both do. -/
theorem bind_eq_ok_iff {x : Except ε α} {f : α → Except ε β} {r : β} :
  (x >>= f) = .ok r ↔ ∃ a, x = .ok a ∧ f a = .ok r
  := by
  cases x with
  | error e =>
      constructor
      · intro h
        cases h
      · rintro ⟨a, h, -⟩
        cases h
  | ok a =>
      constructor
      · intro h
        use a, rfl, h
      · rintro ⟨a', h, hf⟩
        cases h
        exact hf

/-- A check before a computation succeeds when the check does and the computation does. -/
theorem check_bind_eq_ok_iff {x : Except ε Unit} {y : Except ε β} {r : β} :
  (x >>= fun _ => y) = .ok r ↔ x = .ok () ∧ y = .ok r
  := by
  rw [bind_eq_ok_iff]
  constructor
  · rintro ⟨⟨⟩, hx, hy⟩
    use hx, hy
  · rintro ⟨hx, hy⟩
    use (), hx, hy

/-- A guarded refusal succeeds when the guard fails. -/
theorem refuse_if_eq_ok_iff {p : Prop} [Decidable p] {e : ε} {y : Except ε β} {r : β} :
  (if p then .error e else y) = .ok r ↔ ¬ p ∧ y = .ok r
  := by
  by_cases hp : p
  · simp [hp]
  · simp [hp]

end Errors

/-! ### Maps -/

/-- A map from keys to values. -/
abbrev Map (κ ν : Type*) := AList fun _ : κ => ν

/-- An order in which the keys of a map may be ranged over. -/
structure RangeOrder (κ : Type*) where
  order : List κ → List κ
  perm : ∀ ks, (order ks).Perm ks

/-- The order in which the keys happen to be stored. -/
def RangeOrder.stored {κ : Type*} : RangeOrder κ where
  order ks := ks
  perm ks := List.Perm.refl ks

section Index

variable {κ α : Type*} [DecidableEq κ] (key : α → κ)

/-- The elements of a slice by key, a later element replacing an earlier one. -/
def indexBy (l : List α) : Map κ α :=
  l.foldl (fun m a => m.insert (key a) a) ∅

/-- The first element of a slice that carries a key. -/
def find (l : List α) (k : κ) : Option α := l.find? fun a => key a = k

variable {key}

theorem find_eq_some {l : List α} {k : κ} {a : α} (h : find key l k = some a) :
  a ∈ l ∧ key a = k
  := by
  constructor
  · apply List.mem_of_find?_eq_some h
  · simpa using List.find?_some h

/-- Where no two elements share a key, the element found is the one that carries it. -/
theorem find_eq_some_iff {l : List α} (hl : (l.map key).Nodup) {k : κ} {a : α} :
  find key l k = some a ↔ a ∈ l ∧ key a = k
  := by
  constructor
  · apply find_eq_some
  · rintro ⟨ha, rfl⟩
    cases hf : find key l (key a) with
    | none => simpa using List.find?_eq_none.mp hf a ha
    | some b =>
        obtain ⟨hb, hk⟩ := find_eq_some hf
        rw [List.inj_on_of_nodup_map hl hb ha hk]

theorem find_eq_none_iff {l : List α} {k : κ} :
  find key l k = none ↔ k ∉ l.map key
  := by
  simp [find, List.find?_eq_none]

/-- Which element carries a key does not depend on the order of the slice. -/
theorem find_perm {l l' : List α} (h : l.Perm l') (hl : (l.map key).Nodup) (k : κ) :
  find key l k = find key l' k
  := by
  have hl' : (l'.map key).Nodup := (h.map key).nodup_iff.mp hl
  apply Option.ext
  intro a
  rw [find_eq_some_iff hl, find_eq_some_iff hl', h.mem_iff]

theorem lookup_foldl_insert (l : List α) (m : Map κ α) (k : κ) :
  (l.foldl (fun m a => m.insert (key a) a) m).lookup k
    = (find key l.reverse k).or (m.lookup k)
  := by
  induction l generalizing m with
  | nil => rfl
  | cons a l ih =>
      rw [List.foldl_cons, ih, List.reverse_cons]
      simp only [find]
      rw [List.find?_append, Option.or_assoc]
      congr 1
      by_cases hk : key a = k
      · subst hk
        simp
      · simp [hk, AList.lookup_insert_ne (Ne.symm hk)]

/-- Where no two elements share a key, a lookup in the index finds the element that
carries the key. -/
theorem lookup_indexBy {l : List α} (hl : (l.map key).Nodup) (k : κ) :
  (indexBy key l).lookup k = find key l k
  := by
  have hr : (l.reverse.map key).Nodup := by
    rw [List.map_reverse, List.nodup_reverse]
    exact hl
  rw [indexBy, lookup_foldl_insert, find_perm l.reverse_perm hr]
  simp

theorem mem_keys_indexBy {l : List α} {k : κ} :
  k ∈ (indexBy key l).keys ↔ k ∈ l.map key
  := by
  rw [← AList.mem_keys, ← AList.lookup_isSome, indexBy, lookup_foldl_insert]
  simp [find]

end Index

/-! ### Collecting and sorting keys -/

section Keys

variable {κ : Type*} [DecidableEq κ]

/-- The loop that appends every key not collected yet. -/
def collect (ids : List κ) : List κ → List κ
  | [] => ids
  | k :: ks => if k ∈ ids then collect ids ks else collect (ids ++ [k]) ks

theorem mem_collect {ids ks : List κ} {k : κ} :
  k ∈ collect ids ks ↔ k ∈ ids ∨ k ∈ ks
  := by
  induction ks generalizing ids with
  | nil => simp [collect]
  | cons k' ks ih =>
      rw [collect]
      split_ifs with hk
      · rw [ih, List.mem_cons]
        constructor
        · tauto
        · rintro (h | rfl | h)
          · exact .inl h
          · exact .inl hk
          · exact .inr h
      · rw [ih, List.mem_append, List.mem_singleton, List.mem_cons, or_assoc]

theorem nodup_collect {ids ks : List κ} (h : ids.Nodup) :
  (collect ids ks).Nodup
  := by
  induction ks generalizing ids with
  | nil => exact h
  | cons k ks ih =>
      rw [collect]
      split_ifs with hk
      · apply ih h
      · apply ih
        rw [List.nodup_append_comm]
        simp [h, hk]

variable [LinearOrder κ]

/-- The keys in increasing order. -/
def sortKeys (ks : List κ) : List κ := ks.insertionSort (· ≤ ·)

omit [DecidableEq κ] in
@[simp] theorem mem_sortKeys {ks : List κ} {k : κ} :
  k ∈ sortKeys ks ↔ k ∈ ks
  := by
  rw [sortKeys, List.mem_insertionSort]

omit [DecidableEq κ] in
/-- Distinct keys are sorted strictly. -/
theorem pairwise_lt_sortKeys {ks : List κ} (h : ks.Nodup) :
  (sortKeys ks).Pairwise (· < ·)
  := by
  have hle : (sortKeys ks).Pairwise (· ≤ ·) := List.pairwise_insertionSort _ ks
  have hne : (sortKeys ks).Pairwise (· ≠ ·) :=
    (List.perm_insertionSort _ ks).nodup_iff.mpr h
  apply (hle.and hne).imp
  rintro a b ⟨hab, hn⟩
  exact lt_of_le_of_ne hab hn

omit [DecidableEq κ] in
/-- Sorted distinct keys are determined by which keys there are. -/
theorem sortKeys_eq_of_mem_iff {ks ks' : List κ} (h : ks.Nodup) (h' : ks'.Nodup)
    (hmem : ∀ k, k ∈ ks ↔ k ∈ ks') :
  sortKeys ks = sortKeys ks'
  := by
  apply (pairwise_lt_sortKeys h).eq_of_mem_iff (pairwise_lt_sortKeys h')
  intro k
  simp [hmem]

end Keys

/-! ### Slices filled as results arrive -/

section Fill

variable {α β : Type*} (f : α → β)

/-- Every element of a slice is computed on its own and stored at its place. -/
def fill (results : List (α × Nat)) (out : List β) : List β :=
  results.foldl (fun out r => out.set r.2 (f r.1)) out

theorem fill_zipIdx (xs : List α) (pre out : List β) (hout : out.length = xs.length) :
  fill f (xs.zipIdx pre.length) (pre ++ out) = pre ++ xs.map f
  := by
  induction xs generalizing pre out with
  | nil =>
      rw [List.length_nil, List.length_eq_zero_iff] at hout
      rw [hout]
      rfl
  | cons x xs ih =>
      cases out with
      | nil => cases hout
      | cons y out =>
          have hset : (pre ++ y :: out).set pre.length (f x) = (pre ++ [f x]) ++ out := by simp
          have h := ih (pre ++ [f x]) out (Nat.succ.inj hout)
          rw [List.length_append, List.length_singleton] at h
          rw [List.zipIdx_cons, fill, List.foldl_cons, hset]
          rw [fill] at h
          rw [h, List.map_cons, List.append_assoc]
          rfl

/-- The order in which the elements arrive does not matter. -/
theorem fill_perm {results : List (α × Nat)} {xs : List α} (h : results.Perm xs.zipIdx)
    {out : List β} (hout : out.length = xs.length) :
  fill f results out = xs.map f
  := by
  have hcomm : ∀ r ∈ results, ∀ s ∈ results, ∀ out : List β,
      (out.set r.2 (f r.1)).set s.2 (f s.1) = (out.set s.2 (f s.1)).set r.2 (f r.1) := by
    intro r hr s hs out
    by_cases hrs : r.2 = s.2
    · have hr' := List.mem_zipIdx_iff_getElem?.mp (h.mem_iff.mp hr)
      have hs' := List.mem_zipIdx_iff_getElem?.mp (h.mem_iff.mp hs)
      rw [hrs, hs'] at hr'
      rw [hrs, Option.some.inj hr']
    · exact List.set_comm _ _ hrs
  have hsorted := fill_zipIdx f xs [] out hout
  rw [← List.nil_append (xs.map f), ← hsorted]
  exact h.foldl_eq' hcomm out

end Fill

end Go
