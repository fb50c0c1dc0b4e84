import Mathlib.Data.List.Sort

/-!
# Sorting slices

`sort.Slice` sorts by a function that tells which of two elements is less, and leaves open in which
order it puts elements neither of which is less.
-/

namespace Go

/-- An order in which a slice can be sorted: what is less is not less the other way round, and what
is not less is transitive. -/
structure StrictWeak {α : Type} (less : α → α → Bool) : Prop where
  asymm : ∀ a b, less a b = true → less b a = false
  trans : ∀ a b c, less b a = false → less c b = false → less c a = false

/-- What is known of `sort.Slice`. -/
structure SliceSort (α : Type) where
  sort : (α → α → Bool) → List α → List α
  perm : ∀ less l, (sort less l).Perm l
  sorted : ∀ less l, StrictWeak less → (sort less l).Pairwise fun a b => less b a = false

theorem StrictWeak.pairwise_insertionSort {α : Type} {less : α → α → Bool} (h : StrictWeak less)
    (l : List α) :
  (l.insertionSort fun a b => less b a = false).Pairwise fun a b => less b a = false
  := by
  have htotal : Std.Total fun a b => less b a = false := by
    constructor
    intro a b
    cases hba : less b a with
    | false => exact .inl rfl
    | true => exact .inr (h.asymm b a hba)
  have htrans : IsTrans α fun a b => less b a = false := ⟨h.trans⟩
  exact List.pairwise_insertionSort _ l

/-- Short slices are sorted by insertion. -/
def insertionSlice (α : Type) : SliceSort α where
  sort := fun less l => l.insertionSort fun a b => less b a = false
  perm := fun _ l => List.perm_insertionSort _ l
  sorted := fun _ l h => h.pairwise_insertionSort l

end Go
