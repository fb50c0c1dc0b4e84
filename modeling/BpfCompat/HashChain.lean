import Mathlib

/-!
# Hash chains

Entries listed newest first, each of which refers to the hash of the one before it; the oldest
refers to nothing.  As long as no two different entries have the same hash, a chain is
determined by the hash of its newest entry.
-/

namespace HashChain

variable {α η : Type*} {hash : α → η} {prev : α → Option η}

/-- Every entry refers to the one after it in the list, the last to none. -/
inductive Linked (hash : α → η) (prev : α → Option η) : List α → Prop where
  | oldest {a : α} (h : prev a = none) : Linked hash prev [a]
  | newer {a b : α} {l : List α} (tail : Linked hash prev (b :: l)) (h : prev a = some (hash b)) :
      Linked hash prev (a :: b :: l)

end HashChain
