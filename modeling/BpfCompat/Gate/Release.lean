import Mathlib

/-!
# Release gates

A release is tested against obligations.  For each obligation it tested it records whether
the obligation is a promise, under which contract it was tested, and the answer, when
there is one.  A candidate passes the gate against a baseline when every obligation either
of them promises is answered by the candidate and, where the baseline has it, answered by
both under one contract without getting worse.

Passing is not transitive: a promise may be added after an optional obligation of the same
name was dropped.  What composes is `Keeps`, the part about what the baseline promises, and
it follows along every chain of passes (`keeps_of_chain`).
-/

namespace Gate

variable {ι κ : Type*}

/-- The answer about an obligation. -/
inductive Answer where
  | works
  | broken
deriving DecidableEq

/-- What a release records about an obligation it tested. -/
structure Entry (κ : Type*) where
  required : Bool
  contract : κ
  answer : Option Answer

/-- What a release records about each obligation. -/
abbrev Release (ι κ : Type*) := ι → Option (Entry κ)

/-- The two entries answer the same question. -/
structure Entry.Comparable (x y : Entry κ) : Prop where
  required : x.required = y.required
  contract : x.contract = y.contract
  left : x.answer.isSome
  right : y.answer.isSome

/-- The obligation worked and no longer does. -/
def Entry.Breaks (x y : Entry κ) : Prop :=
  x.answer = some .works ∧ y.answer = some .broken

theorem Entry.Comparable.trans {x y z : Entry κ} (h : x.Comparable y)
    (h' : y.Comparable z) :
  x.Comparable z
  := by
  constructor
  · exact h.required.trans h'.required
  · exact h.contract.trans h'.contract
  · exact h.left
  · exact h'.right

namespace Release

variable {a b c : Release ι κ} {i : ι}

/-- The release promises the obligation. -/
def Requires (a : Release ι κ) (i : ι) : Prop := ∃ x, a i = some x ∧ x.required = true

/-- The candidate answers the obligation, comparably to the baseline where that has it. -/
def Settles (a b : Release ι κ) (i : ι) : Prop :=
  ∃ y, b i = some y ∧ y.answer.isSome ∧ ∀ x, a i = some x → x.Comparable y

/-- The obligation got worse, and the two releases show it. -/
def RegressesAt (a b : Release ι κ) (i : ι) : Prop :=
  ∃ x y, a i = some x ∧ b i = some y ∧ x.Comparable y ∧ x.Breaks y

/-- The candidate passes the gate. -/
def Passes (a b : Release ι κ) : Prop :=
  ∀ i, a.Requires i ∨ b.Requires i → Settles a b i ∧ ¬ RegressesAt a b i

/-- Some promise got worse. -/
def Regresses (a b : Release ι κ) : Prop :=
  ∃ i, (a.Requires i ∨ b.Requires i) ∧ RegressesAt a b i

/-- Whatever the baseline promises, the candidate answers comparably and not worse. -/
def Keeps (a b : Release ι κ) : Prop :=
  ∀ i x, a i = some x → x.required = true → ∃ y, b i = some y ∧ x.Comparable y ∧ ¬ x.Breaks y

theorem Passes.keeps (h : Passes a b) :
  Keeps a b
  := by
  intro i x hx hreq
  obtain ⟨⟨y, hy, -, hcomp⟩, hreg⟩ := h i (.inl ⟨x, hx, hreq⟩)
  use y, hy, hcomp x hx
  intro hbreaks
  exact hreg ⟨x, y, hx, hy, hcomp x hx, hbreaks⟩

/-- What is kept over two steps is kept. -/
theorem Keeps.trans (h : Keeps a b) (h' : Keeps b c) :
  Keeps a c
  := by
  intro i x hx hreq
  obtain ⟨y, hy, hxy, hxyb⟩ := h i x hx hreq
  obtain ⟨z, hz, hyz, hyzb⟩ := h' i y hy (hxy.required ▸ hreq)
  use z, hz, hxy.trans hyz
  -- an answer that broke on the way broke at one of the two steps
  rintro ⟨hxw, hzb⟩
  obtain ⟨answer, hyv⟩ := Option.isSome_iff_exists.mp hxy.right
  cases answer with
  | works => exact hyzb ⟨hyv, hzb⟩
  | broken => exact hxyb ⟨hxw, hyv⟩

theorem keeps_of_chain (h : Relation.TransGen Passes a b) :
  Keeps a b
  := by
  induction h with
  | single h => exact h.keeps
  | tail _ h ih => exact ih.trans h.keeps

theorem Keeps.not_regresses (h : Keeps a b) :
  ¬ Regresses a b
  := by
  rintro ⟨i, hreq, x, y, hx, hy, hcomp, hbreaks⟩
  -- comparable entries are both promised or both optional
  have hxreq : x.required = true := by
    obtain ⟨x', hx', hr⟩ | ⟨y', hy', hr⟩ := hreq
    · rw [hx] at hx'
      cases hx'
      exact hr
    · rw [hy] at hy'
      cases hy'
      rw [hcomp.required]
      exact hr
  obtain ⟨y', hy', -, hnot⟩ := h i x hx hxreq
  rw [hy] at hy'
  cases hy'
  exact hnot hbreaks

theorem Keeps.settles (h : Keeps a b) (hreq : a.Requires i) :
  Settles a b i
  := by
  obtain ⟨x, hx, hr⟩ := hreq
  obtain ⟨y, hy, hcomp, -⟩ := h i x hx hr
  use y, hy, hcomp.right
  intro x' hx'
  rw [hx] at hx'
  cases hx'
  exact hcomp

end Release

end Gate
