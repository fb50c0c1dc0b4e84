import BpfCompat.Go.Json.Codec

/-!
# Reading less

Two structure types may name the same members of a document, one of them fewer than the
other.  What the wider one accepts the narrower one accepts too, with the fields they share
alike.  The converse fails: a member of the wrong shape is an error only where it is named.
-/

namespace Go.Json

section

variable {α β : Type}

/-- What the first reader accepts the second accepts, and they agree up to a projection. -/
def Narrows (read : Reader α) (read' : Reader β) (π : α → β) : Prop :=
  ∀ v x y, read v x = some y → read' v (π x) = some (π y)

theorem Narrows.refl (read : Reader α) :
  Narrows read read id
  := fun _ _ _ h => h

theorem Narrows.readElements {read : Reader α} {read' : Reader β} {π : α → β} {zero : α} {zero' : β}
    (h : Narrows read read' π) (hzero : π zero = zero') {vs : List Value} {old xs : List α}
    (hxs : Json.readElements zero read vs old = some xs) :
  Json.readElements zero' read' vs (old.map π) = some (xs.map π)
  := by
  induction vs generalizing old xs with
  | nil =>
      rw [Json.readElements, Option.some.injEq] at hxs
      rw [← hxs]
      rfl
  | cons v vs ih =>
      simp only [Json.readElements, Option.bind_eq_bind, Option.bind_eq_some_iff, Option.pure_def,
        Option.some.injEq] at hxs
      obtain ⟨x, hx, rest, hrest, rfl⟩ := hxs
      have hhead : (old.map π).headD zero' = π (old.headD zero) := by
        rw [← hzero]
        cases old with
        | nil => rfl
        | cons => rfl
      rw [Json.readElements, hhead, h v _ x hx, ← List.map_tail]
      simp only [Option.bind_eq_bind, Option.bind_some, ih hrest]
      rfl

theorem Narrows.readSlice {read : Reader α} {read' : Reader β} {π : α → β} {zero : α} {zero' : β}
    (h : Narrows read read' π) (hzero : π zero = zero') :
  Narrows (Json.readSlice zero read) (Json.readSlice zero' read') (List.map π)
  := by
  intro v x y hy
  cases v with
  | null =>
      rw [Json.readSlice, Option.some.injEq] at hy
      rw [← hy]
      rfl
  | array vs => exact h.readElements hzero hy
  | _ => cases hy

theorem Narrows.readObject {fields : List (Str × Value) → α → Option α}
    {fields' : List (Str × Value) → β → Option β} {π : α → β}
    (h : ∀ ms x y, fields ms x = some y → fields' ms (π x) = some (π y)) :
  Narrows (Json.readObject fields) (Json.readObject fields') π
  := by
  intro v x y hy
  cases v with
  | null =>
      rw [Json.readObject, Option.some.injEq] at hy
      rw [← hy]
      rfl
  | object ms => exact h ms x y hy
  | _ => cases hy

end

section

variable [UnicodeTables] {α β : Type}

/-- No other field of the structure has a name that differs in case only. -/
def StandsAlone (names : List Str) (name : Str) : Prop :=
  name ∈ names ∧ ∀ n ∈ names, equalFold n name = true → n = name

theorem StandsAlone.bindsTo_iff {names : List Str} {name : Str} (h : StandsAlone names name)
    (key : Str) :
  bindsTo names key = some name ↔ equalFold key name = true
  := by
  constructor
  · exact equalFold_of_bindsTo
  · intro hkey
    rw [bindsTo]
    by_cases hmem : key ∈ names
    · rw [if_pos hmem, h.2 key hmem hkey]
    · rw [if_neg hmem]
      cases hfind : names.find? (equalFold key) with
      | none =>
          rw [List.find?_eq_none] at hfind
          exact absurd hkey (hfind name h.1)
      | some n =>
          have hn : equalFold key n = true := List.find?_some hfind
          have hfold : equalFold n name = true := by
            rw [equalFold, beq_iff_eq] at *
            rw [← hn, hkey]
          rw [h.2 n (List.mem_of_find?_eq_some hfind) hfold]

theorem StandsAlone.subset {names names' : List Str} {name : Str} (h : StandsAlone names name)
    (hsub : names' ⊆ names) (hname : name ∈ names') :
  StandsAlone names' name
  := by
  use hname
  intro n hn
  exact h.2 n (hsub hn)

/-- Among ASCII names, whether two differ in case only does not depend on the Unicode tables. -/
theorem standsAlone_of_ascii {names : List Str} (hascii : ∀ n ∈ names, ∀ b ∈ n, b < 128)
    (h : ∀ n ∈ names, ∀ m ∈ names, @equalFold asciiTables n m = true → n = m) {name : Str}
    (hname : name ∈ names) :
  StandsAlone names name
  := by
  use hname
  intro n hn hfold
  rw [equalFold_ascii (hascii n hn) (hascii name hname)] at hfold
  exact h n hn name hname hfold

/-- A field both structures have is read alike from the same members. -/
theorem Narrows.readField {read : Reader α} {read' : Reader β} {π : α → β}
    (h : Narrows read read' π) {names names' : List Str} {name : Str}
    (hname : StandsAlone names name) (hname' : StandsAlone names' name)
    {ms : List (Str × Value)} {x y : α} (hy : Json.readField names ms name read x = some y) :
  Json.readField names' ms name read' (π x) = some (π y)
  := by
  induction ms generalizing x with
  | nil =>
      rw [Json.readField, List.foldlM_nil, Option.pure_def, Option.some.injEq] at hy
      rw [hy]
      rfl
  | cons m ms ih =>
      rw [readField_cons] at hy ⊢
      simp only [hname.bindsTo_iff, hname'.bindsTo_iff] at hy ⊢
      by_cases hkey : equalFold m.1 name = true
      · rw [if_pos hkey, Option.bind_eq_some_iff] at hy
        obtain ⟨z, hz, hy⟩ := hy
        rw [if_pos hkey, h m.2 x z hz, Option.bind_some]
        exact ih hy
      · rw [if_neg hkey, Option.bind_some] at hy ⊢
        exact ih hy

namespace Fields

theorem pair_read_eq_some_iff {f : Fields α} {g : Fields β} {all : List Str}
    {ms : List (Str × Value)} {x y : α × β} :
  (f.pair g).read all ms x = some y ↔ f.read all ms x.1 = some y.1 ∧ g.read all ms x.2 = some y.2
  := by
  simp only [pair, Option.bind_eq_bind, Option.bind_eq_some_iff, Option.pure_def,
    Option.some.injEq]
  constructor
  · rintro ⟨a, ha, b, hb, rfl⟩
    exact ⟨ha, hb⟩
  · rintro ⟨ha, hb⟩
    exact ⟨y.1, ha, y.2, hb, rfl⟩

theorem field_read (name : String) (c : Codec α) (all : List Str) (ms : List (Str × Value))
    (x : α) :
  (field name c).read all ms x = readField all ms (str name) c.read x
  := rfl

theorem omitempty_read (name : String) (c : Codec α) (all : List Str) (ms : List (Str × Value))
    (x : α) :
  (omitempty name c).read all ms x = readField all ms (str name) c.read x
  := rfl

end Fields

/-- A structure is narrower if its fields are. -/
theorem narrows_struct {γ δ : Type} {f : Fields γ} {e : α ≃ γ} {hf : f.names.Nodup}
    {g : Fields δ} {e' : β ≃ δ} {hg : g.names.Nodup} {π : α → β}
    (h : ∀ ms x y, f.read f.names ms (e x) = some (e y) →
      g.read g.names ms (e' (π x)) = some (e' (π y))) :
  Narrows (struct f e hf).read (struct g e' hg).read π
  := by
  apply Narrows.readObject
  intro ms x y hy
  rw [Option.map_eq_some_iff] at hy ⊢
  obtain ⟨z, hz, rfl⟩ := hy
  rw [← Equiv.apply_symm_apply e z] at hz
  exact ⟨_, h ms x (e.symm z) hz, Equiv.symm_apply_apply _ _⟩

end

end Go.Json
