import Mathlib.Data.List.Pairwise

/-!
# Places that are written one after the other

A sequence of writes to places, each of which replaces what its place held.  Afterwards every write
is still there exactly if no later one puts something else in its place (`forall_held_iff`).
-/

namespace Overwrite

variable {κ ν : Type*} [DecidableEq κ]

/-- What the places hold after a sequence of writes. -/
def writeAll (held : κ → Option ν) (writes : List (κ × ν)) : κ → Option ν :=
  writes.foldl (fun held w => Function.update held w.1 (some w.2)) held

variable {held : κ → Option ν} {writes : List (κ × ν)}

@[simp] theorem writeAll_nil :
  writeAll held [] = held
  := rfl

@[simp] theorem writeAll_cons (w : κ × ν) :
  writeAll held (w :: writes) = writeAll (Function.update held w.1 (some w.2)) writes
  := rfl

theorem writeAll_append (writes' : List (κ × ν)) :
  writeAll held (writes ++ writes') = writeAll (writeAll held writes) writes'
  := List.foldl_append

/-- A place that is not written holds what it held. -/
theorem writeAll_of_notMem {k : κ} (h : k ∉ writes.map Prod.fst) :
  writeAll held writes k = held k
  := by
  induction writes generalizing held with
  | nil => rfl
  | cons w writes ih =>
      rw [List.map_cons, List.mem_cons, not_or] at h
      rw [writeAll_cons, ih h.2, Function.update_of_ne h.1]

/-- A place keeps what it holds if nothing else is written there. -/
theorem writeAll_of_forall {k : κ} {v : ν} (hk : held k = some v)
    (h : ∀ w ∈ writes, w.1 = k → w.2 = v) :
  writeAll held writes k = some v
  := by
  induction writes generalizing held with
  | nil => exact hk
  | cons w writes ih =>
      rw [List.forall_mem_cons] at h
      rw [writeAll_cons]
      apply ih _ h.2
      by_cases hw : w.1 = k
      · rw [hw, Function.update_self, h.1 hw]
      · rw [Function.update_of_ne (Ne.symm hw), hk]

/-- Every write is still there exactly if no later one puts something else in its place. -/
theorem forall_held_iff (held : κ → Option ν) (writes : List (κ × ν)) :
  (∀ w ∈ writes, writeAll held writes w.1 = some w.2)
    ↔ writes.Pairwise fun w w' => w.1 = w'.1 → w.2 = w'.2
  := by
  constructor
  · intro h
    apply List.pairwise_of_forall_mem_list
    intro w hw w' hw' heq
    have hheld := h w hw
    rw [heq, h w' hw'] at hheld
    exact (Option.some.inj hheld).symm
  · intro h
    induction writes generalizing held with
    | nil => exact fun w hw => absurd hw List.not_mem_nil
    | cons w writes ih =>
        obtain ⟨hw, hwrites⟩ := List.pairwise_cons.mp h
        rw [List.forall_mem_cons, writeAll_cons]
        refine ⟨?_, ih _ hwrites⟩
        apply writeAll_of_forall (Function.update_self _ _ _)
        intro w' hw' heq
        exact (hw w' hw' heq.symm).symm

end Overwrite
