import BpfCompat.Go.Json.Syntax

/-!
# Decoding values

A value is decoded into a variable of the type that is asked for.  A member of an object
binds to the field of that name or, if there is none, to the first field whose name differs
from its key in case only; other members are ignored.  A value of the wrong shape is an
error, and `null` leaves a variable that is no pointer and no slice as it was.

Where no object has two keys that differ in case only, each field is bound by at most one
member.  Then the members of an object may be permuted, at any depth, without
changing what is decoded: the readers are `Stable`.
-/

namespace Go.Json

/-- Decoding into a variable: from a value and what the variable holds, what it holds
afterwards. -/
abbrev Reader (α : Type) := Value → α → Option α

/-! ### Scalars, pointers and slices -/

/-- A string. -/
def readString : Reader Str
  | .null, old => some old
  | .string s, _ => some s
  | _, _ => none

/-- A truth value. -/
def readBool : Reader Bool
  | .null, old => some old
  | .bool b, _ => some b
  | _, _ => none

/-- A 64-bit integer. -/
def readInt64 : Reader Int64
  | .null, old => some old
  | .number text, _ => (atoi text).map Int64.ofInt
  | _, _ => none

/-- A 32-bit natural number. -/
def readUInt32 : Reader UInt32
  | .null, old => some old
  | .number text, _ =>
    if text.all isDecimal && decimalValue text < 2 ^ 32 then
      some (UInt32.ofNat (decimalValue text))
    else none
  | _, _ => none

section

variable {α : Type} (zero : α) (read : Reader α)

/-- A pointer to a variable; `zero` is what a new variable holds. -/
def readPointer : Reader (Option α)
  | .null, _ => some none
  | v, old => (read v (old.getD zero)).map some

/-- The elements of a slice.  Those that are there already are decoded into. -/
def readElements : List Value → List α → Option (List α)
  | [], _ => some []
  | v :: vs, old => do
    let x ← read v (old.headD zero)
    let xs ← readElements vs old.tail
    return x :: xs

/-- A slice. -/
def readSlice : Reader (List α)
  | .null, _ => some []
  | .array vs, old => readElements zero read vs old
  | _, _ => none

end

/-! ### Objects -/

section

variable [UnicodeTables]

/-- The field a key binds to. -/
def bindsTo (names : List Str) (key : Str) : Option Str :=
  if key ∈ names then some key else names.find? (equalFold key)

/-- A field of an object, decoded from the members that bind to it.  Members that bind to
different fields do not interfere, so every field is read on its own. -/
def readField {α : Type} (names : List Str) (ms : List (Str × Value)) (name : Str)
    (read : Reader α) (old : α) : Option α :=
  ms.foldlM (fun x m => if bindsTo names m.1 = some name then read m.2 x else some x) old

omit [UnicodeTables] in
/-- A structure, given how its fields are read from the members of an object. -/
def readObject {α : Type} (fields : List (Str × Value) → α → Option α) : Reader α
  | .null, old => some old
  | .object ms, old => fields ms old
  | _, _ => none

/-! ### Ambiguity and order -/

/-- No two keys differ in case only. -/
def DistinctKeys (ms : List (Str × Value)) : Prop :=
  ms.Pairwise fun m m' => equalFold m.1 m'.1 = false

/-- No object of the value has two keys that differ in case only. -/
inductive Unambiguous : Value → Prop where
  | null : Unambiguous .null
  | bool (b : Bool) : Unambiguous (.bool b)
  | number (text : Str) : Unambiguous (.number text)
  | string (s : Str) : Unambiguous (.string s)
  | array (vs : List Value) (elements : ∀ v ∈ vs, Unambiguous v) : Unambiguous (.array vs)
  | object (ms : List (Str × Value)) (distinct : DistinctKeys ms)
      (members : ∀ m ∈ ms, Unambiguous m.2) : Unambiguous (.object ms)

omit [UnicodeTables] in
/-- A value inside a value. -/
inductive Within : Value → Value → Prop where
  | self (v : Value) : Within v v
  | element {w v : Value} {vs : List Value} (hv : v ∈ vs) (h : Within w v) : Within w (.array vs)
  | member {w : Value} {m : Str × Value} {ms : List (Str × Value)} (hm : m ∈ ms)
      (h : Within w m.2) : Within w (.object ms)

/-- No object inside an unambiguous value, however deep, has two keys that differ in case
only. -/
theorem Unambiguous.distinctKeys {v : Value} {ms : List (Str × Value)} (hv : Unambiguous v)
    (h : Within (.object ms) v) :
  DistinctKeys ms
  := by
  induction h with
  | self =>
      cases hv with
      | object _ hdistinct _ => exact hdistinct
  | element hmem _ ih =>
      cases hv with
      | array _ helements => exact ih (helements _ hmem)
  | member hmem _ ih =>
      cases hv with
      | object _ _ hmembers => exact ih (hmembers _ hmem)

omit [UnicodeTables] in
/-- The second value is the first with the members of its objects permuted, at any depth. -/
inductive Shuffled : Value → Value → Prop where
  | refl (v : Value) : Shuffled v v
  | array {vs vs' : List Value} (elements : List.Forall₂ Shuffled vs vs') :
      Shuffled (.array vs) (.array vs')
  | object {ms ms' ms'' : List (Str × Value)} (keys : ms.map Prod.fst = ms'.map Prod.fst)
      (values : List.Forall₂ Shuffled (ms.map Prod.snd) (ms'.map Prod.snd))
      (perm : ms'.Perm ms'') : Shuffled (.object ms) (.object ms'')

/-- What is decoded from an unambiguous value does not depend on the order of members. -/
def Stable {α : Type} (read : Reader α) : Prop :=
  ∀ v v', Unambiguous v → Shuffled v v' → ∀ x, read v x = read v' x

/-- Members whose order does not matter: their keys are distinct, and they are those of the
other list up to order, with shuffled values. -/
structure Rearranged (ms ms' : List (Str × Value)) : Prop where
  distinct : DistinctKeys ms
  unambiguous : ∀ m ∈ ms, Unambiguous m.2
  related : ∃ l, List.Forall₂ (fun m m' => m.1 = m'.1 ∧ Shuffled m.2 m'.2) ms l ∧ l.Perm ms'

omit [UnicodeTables] in
theorem forall₂_members {ms ms' : List (Str × Value)} (keys : ms.map Prod.fst = ms'.map Prod.fst)
    (values : List.Forall₂ Shuffled (ms.map Prod.snd) (ms'.map Prod.snd)) :
  List.Forall₂ (fun m m' => m.1 = m'.1 ∧ Shuffled m.2 m'.2) ms ms'
  := by
  induction ms generalizing ms' with
  | nil =>
      cases ms' with
      | nil => exact .nil
      | cons m' ms' => cases keys
  | cons m ms ih =>
      cases ms' with
      | nil => cases keys
      | cons m' ms' =>
          obtain ⟨hkey, hkeys⟩ := List.cons.inj keys
          rw [List.map_cons, List.map_cons, List.forall₂_cons] at values
          exact .cons ⟨hkey, values.1⟩ (ih hkeys values.2)

theorem rearranged_of_shuffled {ms : List (Str × Value)} {v' : Value}
    (hv : Unambiguous (.object ms)) (h : Shuffled (.object ms) v') :
  ∃ ms', v' = .object ms' ∧ Rearranged ms ms'
  := by
  cases hv with
  | object _ hdistinct hmembers =>
      cases h with
      | refl =>
          refine ⟨ms, rfl, hdistinct, hmembers, ms, ?_, .refl ms⟩
          rw [List.forall₂_same]
          intro m _
          use rfl
          exact .refl m.2
      | object keys values perm =>
          exact ⟨_, rfl, hdistinct, hmembers, _, forall₂_members keys values, perm⟩

theorem DistinctKeys.perm {ms ms' : List (Str × Value)} (h : DistinctKeys ms)
    (hperm : ms.Perm ms') :
  DistinctKeys ms'
  := by
  apply (hperm.pairwise_iff _).mp h
  intro m m' hne
  rw [← Bool.not_eq_true] at hne ⊢
  intro heq
  exact hne (equalFold_of_equalFold (equalFold_self m.1) heq)

theorem equalFold_of_bindsTo {names : List Str} {key name : Str}
    (h : bindsTo names key = some name) :
  equalFold key name = true
  := by
  rw [bindsTo] at h
  split_ifs at h with hkey
  · cases h
    exact equalFold_self key
  · exact List.find?_some h

/-- No structure has a field to which two of the keys bind. -/
def BindOnce (ms : List (Str × Value)) : Prop :=
  ms.Pairwise fun m m' =>
    ∀ names name, ¬ (bindsTo names m.1 = some name ∧ bindsTo names m'.1 = some name)

theorem DistinctKeys.bindOnce {ms : List (Str × Value)} (h : DistinctKeys ms) :
  BindOnce ms
  := by
  apply h.imp
  rintro m m' hne names name ⟨hm, hm'⟩
  rw [equalFold_of_equalFold (equalFold_of_bindsTo hm) (equalFold_of_bindsTo hm')] at hne
  cases hne

section

variable {α : Type} {read : Reader α} {names : List Str} {name : Str}

theorem readField_cons {m : Str × Value} {ms : List (Str × Value)} {x : α} :
  readField names (m :: ms) name read x
    = (if bindsTo names m.1 = some name then read m.2 x else some x).bind
        (readField names ms name read)
  := by
  rw [readField, List.foldlM_cons]
  rfl

/-- A member that does not bind to a field is ignored. -/
theorem readField_skip {m : Str × Value} {ms : List (Str × Value)}
    (h : bindsTo names m.1 ≠ some name) :
  readField names (m :: ms) name read = readField names ms name read
  := by
  funext x
  rw [readField_cons, if_neg h]
  rfl

/-- A field is bound by one member at most, so the order of members does not matter. -/
theorem readField_perm {ms ms' : List (Str × Value)} (h : ms.Perm ms') (hd : DistinctKeys ms)
    (x : α) :
  readField names ms name read x = readField names ms' name read x
  := by
  induction h generalizing x with
  | nil => rfl
  | cons m _ ih =>
      rw [readField_cons, readField_cons]
      congr 1
      funext y
      exact ih hd.of_cons y
  | swap m m' ms =>
      by_cases hm : bindsTo names m.1 = some name
      · by_cases hm' : bindsTo names m'.1 = some name
        · -- both keys fold to the name of the field
          have hfold := equalFold_of_equalFold (equalFold_of_bindsTo hm')
            (equalFold_of_bindsTo hm)
          rw [DistinctKeys, List.pairwise_cons] at hd
          rw [hd.1 m (List.mem_cons_self)] at hfold
          cases hfold
        · rw [readField_skip hm', readField_cons, readField_cons, readField_skip hm']
      · rw [readField_cons, readField_skip hm, readField_skip hm, readField_cons]
  | trans h₁ _ ih₁ ih₂ => rw [ih₁ hd, ih₂ (hd.perm h₁)]

theorem readField_forall₂ {ms ms' : List (Str × Value)} (hread : Stable read)
    (hms : ∀ m ∈ ms, Unambiguous m.2)
    (h : List.Forall₂ (fun m m' => m.1 = m'.1 ∧ Shuffled m.2 m'.2) ms ms') (x : α) :
  readField names ms name read x = readField names ms' name read x
  := by
  induction h generalizing x with
  | nil => rfl
  | cons hm _ ih =>
      rw [List.forall_mem_cons] at hms
      rw [readField_cons, readField_cons, hm.1, hread _ _ hms.1 hm.2]
      congr 1
      funext y
      exact ih hms.2 y

theorem Rearranged.readField {ms ms' : List (Str × Value)} (h : Rearranged ms ms')
    (hread : Stable read) (x : α) :
  readField names ms name read x = readField names ms' name read x
  := by
  obtain ⟨hd, hms, l, hl, hperm⟩ := h
  have hkeys : DistinctKeys l := by
    have hmap : ms.map Prod.fst = l.map Prod.fst := by
      rw [← List.forall₂_eq_eq_eq, List.forall₂_map_left_iff, List.forall₂_map_right_iff]
      exact hl.imp fun _ _ h => h.1
    rw [DistinctKeys, ← List.pairwise_map (f := Prod.fst)
      (R := fun a b => equalFold a b = false), ← hmap, List.pairwise_map]
    exact hd
  rw [readField_forall₂ hread hms hl, readField_perm hperm hkeys]

/-! ### The readers are stable -/

/-- A reader that refuses arrays and objects is stable. -/
theorem stable_of_scalar {read : Reader α} (harray : ∀ vs x, read (.array vs) x = none)
    (hobject : ∀ ms x, read (.object ms) x = none) :
  Stable read
  := by
  intro v v' _ h x
  cases h with
  | refl => rfl
  | array => rw [harray, harray]
  | object => rw [hobject, hobject]

theorem stable_readString :
  Stable readString
  := stable_of_scalar (fun _ _ => rfl) fun _ _ => rfl

theorem stable_readBool :
  Stable readBool
  := stable_of_scalar (fun _ _ => rfl) fun _ _ => rfl

theorem stable_readInt64 :
  Stable readInt64
  := stable_of_scalar (fun _ _ => rfl) fun _ _ => rfl

theorem stable_readUInt32 :
  Stable readUInt32
  := stable_of_scalar (fun _ _ => rfl) fun _ _ => rfl

theorem stable_readPointer (zero : α) (hread : Stable read) :
  Stable (readPointer zero read)
  := by
  intro v v' hv h x
  cases h with
  | refl => rfl
  | array elements =>
      simp only [readPointer]
      rw [hread _ _ hv (.array elements)]
  | object keys values perm =>
      simp only [readPointer]
      rw [hread _ _ hv (.object keys values perm)]

theorem readElements_forall₂ {zero : α} {vs vs' : List Value} (hread : Stable read)
    (hvs : ∀ v ∈ vs, Unambiguous v) (h : List.Forall₂ Shuffled vs vs') (x : List α) :
  readElements zero read vs x = readElements zero read vs' x
  := by
  induction h generalizing x with
  | nil => rfl
  | cons hv _ ih =>
      rw [List.forall_mem_cons] at hvs
      rw [readElements, readElements, hread _ _ hvs.1 hv, ih hvs.2]

theorem stable_readSlice (zero : α) (hread : Stable read) :
  Stable (readSlice zero read)
  := by
  intro v v' hv h x
  cases h with
  | refl => rfl
  | array elements =>
      cases hv with
      | array _ hvs => exact readElements_forall₂ hread hvs elements x
  | object => rfl

/-- A structure whose fields do not depend on the order of members is stable. -/
theorem stable_readObject {fields : List (Str × Value) → α → Option α}
    (h : ∀ ms ms', Rearranged ms ms' → ∀ x, fields ms x = fields ms' x) :
  Stable (readObject fields)
  := by
  intro v v' hv hshuffled x
  cases v with
  | object ms =>
      obtain ⟨ms', rfl, hms⟩ := rearranged_of_shuffled hv hshuffled
      exact h ms ms' hms x
  | array vs =>
      cases hshuffled with
      | refl => rfl
      | array => rfl
  | _ =>
      cases hshuffled
      rfl

end

end

end Go.Json
