import BpfCompat.Go.Json.Decode
import BpfCompat.Go.Json.Encode

/-!
# Types that go through JSON

How the values of a type are decoded and encoded, and what a value is after it went through
a document and back.  The laws that make the two directions fit together, and those that
say that the order of members does not matter, are part of a codec; a structure type gets
them from its fields.

A structure is described by its fields, one after the other, each with its name and the
codec of its type.  The description is read three ways: as decoder, as encoder, and as the
function that says what survives.
-/

namespace Go.Json

variable [UnicodeTables]

/-- How a type goes through JSON. -/
structure Codec (α : Type) where
  /-- What a new variable holds. -/
  zero : α
  read : Reader α
  write : α → Value
  /-- The values a field tagged `omitempty` leaves out. -/
  isEmpty : α → Bool
  /-- What a value is after it was written and read back. -/
  canon : α → α
  depth : Nat
  stable : Stable read
  read_write (x : α) : read (write x) zero = some (canon x)
  canon_of_isEmpty (x : α) : isEmpty x = true → canon x = zero
  printable (x : α) : Printable depth (write x)

/-- The value a document denotes at the type of the codec. -/
def Codec.decode {α : Type} (c : Codec α) (v : Value) : Option α := c.read v c.zero

/-! ### Basic types -/

omit [UnicodeTables] in
theorem validText_toValidUTF8 (s : Str) :
  ValidText (toValidUTF8 s)
  := by
  use (runes s).map Rune.value
  rw [toValidUTF8, List.map_map]
  rfl

omit [UnicodeTables] in
theorem validText_str (s : String) :
  ValidText (str s)
  := by
  use s.toList
  have hbytes : ofRunes (s.toList.map .char) = s.toList.flatMap String.utf8EncodeChar := by
    rw [ofRunes, List.flatMap_map]
    rfl
  rw [hbytes, str, ← String.utf8Encode_toList, List.utf8Encode, List.data_toByteArray]

/-- Strings; stray bytes do not survive. -/
def string : Codec Str where
  zero := []
  read := readString
  write s := .string (toValidUTF8 s)
  isEmpty := List.isEmpty
  canon := toValidUTF8
  depth := 0
  stable := stable_readString
  read_write _ := rfl
  canon_of_isEmpty s hs := by
    rw [List.isEmpty_iff] at hs
    rw [hs]
    rfl
  printable s := .string (validText_toValidUTF8 s)

/-- Truth values. -/
def bool : Codec Bool where
  zero := false
  read := readBool
  write := .bool
  isEmpty b := !b
  canon b := b
  depth := 0
  stable := stable_readBool
  read_write _ := rfl
  canon_of_isEmpty b hb := by simpa using hb
  printable := .bool

theorem bool_ne_null (b : Bool) :
  bool.write b ≠ .null
  := nofun

/-- 64-bit integers. -/
def int64 : Codec Int64 where
  zero := 0
  read := readInt64
  write n := .number (itoa n.toInt)
  isEmpty n := n == 0
  canon n := n
  depth := 0
  stable := stable_readInt64
  read_write n := by
    rw [readInt64, atoi_itoa _ n.le_toInt n.toInt_lt, Option.map_some, Int64.ofInt_toInt]
  canon_of_isEmpty n hn := eq_of_beq hn
  printable n := .number n.toInt

theorem int64_ne_null (n : Int64) :
  int64.write n ≠ .null
  := nofun

omit [UnicodeTables] in
theorem readUInt32_itoa (n x : UInt32) :
  readUInt32 (.number (itoa n.toNat)) x = some n
  := by
  have hitoa : itoa n.toNat = decimal n.toNat := by
    rw [itoa, if_neg (by omega)]
    rfl
  have hall : (decimal n.toNat).all isDecimal = true := by
    rw [List.all_eq_true]
    intro b hb
    exact isDecimal_of_mem_decimal hb
  simp only [readUInt32, hitoa, hall, decimalValue_decimal]
  rw [if_pos (by simpa using n.toNat_lt), UInt32.ofNat_toNat]

/-- 32-bit natural numbers. -/
def uint32 : Codec UInt32 where
  zero := 0
  read := readUInt32
  write n := .number (itoa n.toNat)
  isEmpty n := n == 0
  canon n := n
  depth := 0
  stable := stable_readUInt32
  read_write n := readUInt32_itoa n 0
  canon_of_isEmpty _ hn := eq_of_beq hn
  printable n := .number n.toNat

/-! ### Pointers and slices -/

section

variable {α : Type} (c : Codec α)

/-- Pointers to values that are never written as `null`. -/
def pointer (hc : ∀ x, c.write x ≠ .null) : Codec (Option α) where
  zero := none
  read := readPointer c.zero c.read
  write
    | none => .null
    | some x => c.write x
  isEmpty := Option.isNone
  canon := Option.map c.canon
  depth := c.depth
  stable := stable_readPointer c.zero c.stable
  read_write x := by
    cases x with
    | none => rfl
    | some x =>
        rw [readPointer, Option.getD_none, c.read_write, Option.map_some, Option.map_some]
        exact hc x
  canon_of_isEmpty x hx := by
    rw [Option.isNone_iff_eq_none] at hx
    rw [hx]
    rfl
  printable x := by
    cases x with
    | none => exact .null
    | some x => exact c.printable x

omit [UnicodeTables] in
/-- Elements that are read back one by one are read back together. -/
theorem readElements_map {β : Type} {zero : α} {read : Reader α} {write : β → Value}
    {canon : β → α} (h : ∀ x, read (write x) zero = some (canon x)) (xs : List β) :
  readElements zero read (xs.map write) [] = some (xs.map canon)
  := by
  induction xs with
  | nil => rfl
  | cons x xs ih =>
      rw [List.map_cons, readElements, List.headD_nil, h]
      simp only [Option.bind_eq_bind, Option.bind_some, List.tail_nil, ih]
      rfl

/-- Slices. -/
def slice : Codec (List α) where
  zero := []
  read := readSlice c.zero c.read
  write xs := .array (xs.map c.write)
  isEmpty := List.isEmpty
  canon := List.map c.canon
  depth := c.depth + 1
  stable := stable_readSlice c.zero c.stable
  read_write xs := readElements_map c.read_write xs
  canon_of_isEmpty xs hxs := by
    rw [List.isEmpty_iff] at hxs
    rw [hxs]
    rfl
  printable xs := by
    apply Printable.array
    rintro v hv
    obtain ⟨x, -, rfl⟩ := List.mem_map.mp hv
    exact c.printable x

end

/-! ### Structures -/

/-- Consecutive fields of a structure. -/
structure Fields (α : Type) where
  names : List Str
  zero : α
  /-- Reads the fields, given the names of all fields of the structure. -/
  read : List Str → List (Str × Value) → α → Option α
  write : α → List (Str × Value)
  canon : α → α
  depth : Nat
  stable (all : List Str) {ms ms' : List (Str × Value)} (h : Rearranged ms ms') (x : α) :
    read all ms x = read all ms' x
  keys_write (x : α) : ∀ m ∈ write x, m.1 ∈ names
  validText : ∀ name ∈ names, ValidText name
  /-- The fields are read back, whatever other fields of the structure stand around them. -/
  read_write (all : List Str) (before after : List (Str × Value)) (x : α) :
    names.Nodup → names ⊆ all → (∀ m ∈ before ++ after, m.1 ∈ all ∧ m.1 ∉ names) →
      read all (before ++ write x ++ after) zero = some (canon x)
  printable (x : α) : ∀ m ∈ write x, Printable depth m.2

namespace Fields

theorem bindsTo_of_mem {names : List Str} {key : Str} (h : key ∈ names) :
  bindsTo names key = some key
  := if_pos h

variable {α β : Type}

theorem readField_other {all : List Str} {ms : List (Str × Value)} {name : Str} {read : Reader α}
    (h : ∀ m ∈ ms, m.1 ∈ all ∧ m.1 ≠ name) :
  readField all ms name read = some
  := by
  induction ms with
  | nil => rfl
  | cons m ms ih =>
      rw [List.forall_mem_cons] at h
      rw [readField_skip, ih h.2]
      rw [bindsTo_of_mem h.1.1]
      intro heq
      exact h.1.2 (Option.some.inj heq)

theorem readField_append {all : List Str} {ms ms' : List (Str × Value)} {name : Str}
    {read : Reader α} {x : α} :
  readField all (ms ++ ms') name read x
    = (readField all ms name read x).bind (readField all ms' name read)
  := by
  rw [readField, List.foldlM_append]
  rfl

/-- A field that stands among others is read from its member, if there is one. -/
theorem readField_around {all : List Str} {before ms after : List (Str × Value)} {name : Str}
    {read : Reader α} {x : α} (h : ∀ m ∈ before ++ after, m.1 ∈ all ∧ m.1 ∉ [name]) :
  readField all (before ++ ms ++ after) name read x = readField all ms name read x
  := by
  have hne : ∀ m ∈ before ++ after, m.1 ∈ all ∧ m.1 ≠ name := by
    intro m hm
    use (h m hm).1
    simpa using (h m hm).2
  rw [List.forall_mem_append] at hne
  rw [readField_append, readField_append, readField_other hne.1, readField_other hne.2]
  simp

/-- One field, whatever its value. -/
def field (name : String) (c : Codec α) : Fields α where
  names := [str name]
  zero := c.zero
  read all ms x := readField all ms (str name) c.read x
  write x := [(str name, c.write x)]
  canon := c.canon
  depth := c.depth
  stable _ _ _ h x := h.readField c.stable x
  keys_write x m hm := by
    rw [List.mem_singleton] at hm
    rw [hm]
    exact List.mem_singleton_self _
  validText := by simpa using validText_str name
  read_write all before after x _ hall h := by
    rw [readField_around h, readField_cons, bindsTo_of_mem (by simpa using hall), if_pos rfl,
      c.read_write]
    rfl
  printable x m hm := by
    rw [List.mem_singleton] at hm
    rw [hm]
    exact c.printable x

/-- One field tagged `omitempty`. -/
def omitempty (name : String) (c : Codec α) : Fields α where
  names := [str name]
  zero := c.zero
  read all ms x := readField all ms (str name) c.read x
  write x := if c.isEmpty x then [] else [(str name, c.write x)]
  canon := c.canon
  depth := c.depth
  stable _ _ _ h x := h.readField c.stable x
  keys_write x m hm := by
    split_ifs at hm with hx
    · cases hm
    · rw [List.mem_singleton] at hm
      rw [hm]
      exact List.mem_singleton_self _
  validText := by simpa using validText_str name
  read_write all before after x _ hall h := by
    rw [readField_around h]
    split_ifs with hx
    · rw [c.canon_of_isEmpty x hx]
      rfl
    · rw [readField_cons, bindsTo_of_mem (by simpa using hall), if_pos rfl, c.read_write]
      rfl
  printable x m hm := by
    split_ifs at hm with hx
    · cases hm
    · rw [List.mem_singleton] at hm
      rw [hm]
      exact c.printable x

/-- Fields followed by fields. -/
def pair (f : Fields α) (g : Fields β) : Fields (α × β) where
  names := f.names ++ g.names
  zero := (f.zero, g.zero)
  read all ms x := do
    let a ← f.read all ms x.1
    let b ← g.read all ms x.2
    return (a, b)
  write x := f.write x.1 ++ g.write x.2
  canon x := (f.canon x.1, g.canon x.2)
  depth := max f.depth g.depth
  stable all _ _ h x := by rw [f.stable all h, g.stable all h]
  keys_write x m hm := by
    rw [List.mem_append] at hm ⊢
    exact hm.imp (f.keys_write x.1 m) (g.keys_write x.2 m)
  validText name hname := by
    rw [List.mem_append] at hname
    exact hname.elim (f.validText name) (g.validText name)
  read_write all before after x hnodup hall h := by
    rw [List.nodup_append] at hnodup
    rw [List.append_subset] at hall
    obtain ⟨hf, hg, hdisjoint⟩ := hnodup
    have hother : ∀ m ∈ before ++ after, m.1 ∈ all ∧ m.1 ∉ f.names ∧ m.1 ∉ g.names := by
      intro m hm
      obtain ⟨hmem, hnot⟩ := h m hm
      rw [List.mem_append, not_or] at hnot
      exact ⟨hmem, hnot⟩
    rw [List.forall_mem_append] at hother
    have hleft : f.read all (before ++ (f.write x.1 ++ g.write x.2) ++ after) f.zero
        = some (f.canon x.1) := by
      rw [← List.append_assoc, List.append_assoc (before ++ f.write x.1)]
      apply f.read_write all before (g.write x.2 ++ after) x.1 hf hall.1
      rw [List.forall_mem_append, List.forall_mem_append]
      refine ⟨?_, ?_, ?_⟩
      · intro m hm
        exact ⟨(hother.1 m hm).1, (hother.1 m hm).2.1⟩
      · intro m hm
        have hkey := g.keys_write x.2 m hm
        exact ⟨hall.2 hkey, fun hin => hdisjoint m.1 hin m.1 hkey rfl⟩
      · intro m hm
        exact ⟨(hother.2 m hm).1, (hother.2 m hm).2.1⟩
    have hright : g.read all (before ++ (f.write x.1 ++ g.write x.2) ++ after) g.zero
        = some (g.canon x.2) := by
      rw [← List.append_assoc before]
      apply g.read_write all (before ++ f.write x.1) after x.2 hg hall.2
      rw [List.forall_mem_append, List.forall_mem_append]
      refine ⟨⟨?_, ?_⟩, ?_⟩
      · intro m hm
        exact ⟨(hother.1 m hm).1, (hother.1 m hm).2.2⟩
      · intro m hm
        have hkey := f.keys_write x.1 m hm
        exact ⟨hall.1 hkey, fun hin => hdisjoint m.1 hkey m.1 hin rfl⟩
      · intro m hm
        exact ⟨(hother.2 m hm).1, (hother.2 m hm).2.2⟩
    rw [hleft, hright]
    rfl
  printable x m hm := by
    rw [List.mem_append] at hm
    obtain hm | hm := hm
    · exact (f.printable x.1 m hm).mono (le_max_left _ _)
    · exact (g.printable x.2 m hm).mono (le_max_right _ _)

@[simp]
theorem names_field (name : String) (c : Codec α) :
  (field name c).names = [str name]
  := rfl

@[simp]
theorem names_omitempty (name : String) (c : Codec α) :
  (omitempty name c).names = [str name]
  := rfl

@[simp]
theorem names_pair (f : Fields α) (g : Fields β) :
  (f.pair g).names = f.names ++ g.names
  := rfl

@[simp]
theorem depth_field (name : String) (c : Codec α) :
  (field name c).depth = c.depth
  := rfl

@[simp]
theorem depth_omitempty (name : String) (c : Codec α) :
  (omitempty name c).depth = c.depth
  := rfl

@[simp]
theorem depth_pair (f : Fields α) (g : Fields β) :
  (f.pair g).depth = max f.depth g.depth
  := rfl

end Fields

/-- A structure with the given fields. -/
def struct {α β : Type} (f : Fields β) (e : α ≃ β) (hnames : f.names.Nodup) : Codec α where
  zero := e.symm f.zero
  read := readObject fun ms x => (f.read f.names ms (e x)).map e.symm
  write x := .object (f.write (e x))
  isEmpty _ := false
  canon x := e.symm (f.canon (e x))
  depth := f.depth + 1
  stable := stable_readObject fun ms ms' h x => by rw [f.stable _ h]
  read_write x := by
    have h := f.read_write f.names [] [] (e x) hnames (List.Subset.refl _) (by simp)
    rw [List.nil_append, List.append_nil] at h
    rw [readObject, Equiv.apply_symm_apply, h]
    rfl
  canon_of_isEmpty _ h := by cases h
  printable x := by
    apply Printable.object
    · intro m hm
      exact f.validText m.1 (f.keys_write (e x) m hm)
    · exact f.printable (e x)

/-- A structure is never written as `null`. -/
theorem struct_write_ne_null {α β : Type} {f : Fields β} {e : α ≃ β} {hnames : f.names.Nodup}
    (x : α) :
  (struct f e hnames).write x ≠ .null
  := nofun

namespace Fields

variable {α β γ : Type}

/-- What the fields write cannot be mistaken for the given field of another structure. -/
def Avoids (f : Fields α) (names : List Str) (name : Str) : Prop :=
  ∀ key ∈ f.names, bindsTo names key ≠ some name

/-- Fields that cannot be mistaken for the one that is read are passed over. -/
theorem Avoids.readField {f : Fields α} {names : List Str} {name : Str}
    (h : f.Avoids names name) (x : α) (read : Reader β) :
  readField names (f.write x) name read = some
  := by
  have hkeys : ∀ m ∈ f.write x, bindsTo names m.1 ≠ some name := by
    intro m hm
    exact h m.1 (f.keys_write x m hm)
  generalize f.write x = ms at hkeys
  induction ms with
  | nil => rfl
  | cons m ms ih =>
      rw [List.forall_mem_cons] at hkeys
      rw [readField_skip hkeys.1, ih hkeys.2]

theorem Avoids.readField_append {f : Fields α} {names : List Str} {name : Str}
    (h : f.Avoids names name) (x : α) (ms : List (Str × Value)) (read : Reader β) :
  Json.readField names (f.write x ++ ms) name read = Json.readField names ms name read
  := by
  funext y
  rw [Fields.readField_append, h.readField, Option.bind_some]

theorem Avoids.append_readField {f : Fields α} {names : List Str} {name : Str}
    (h : f.Avoids names name) (x : α) (ms : List (Str × Value)) (read : Reader β) :
  Json.readField names (ms ++ f.write x) name read = Json.readField names ms name read
  := by
  funext y
  rw [Fields.readField_append, h.readField, Option.bind_fun_some]

theorem readField_field {names : List Str} {name : String} (hname : str name ∈ names)
    (c : Codec α) (x : α) (read : Reader β) (y : β) :
  readField names ((field name c).write x) (str name) read y = read (c.write x) y
  := by
  simp only [field]
  rw [readField_cons, bindsTo_of_mem hname, if_pos rfl]
  cases read (c.write x) y <;> rfl

theorem readField_omitempty {names : List Str} {name : String} (hname : str name ∈ names)
    (c : Codec α) (x : α) (read : Reader β) (y : β) :
  readField names ((omitempty name c).write x) (str name) read y
    = if c.isEmpty x then some y else read (c.write x) y
  := by
  simp only [omitempty]
  split_ifs
  · rfl
  · rw [readField_cons, bindsTo_of_mem hname, if_pos rfl]
    cases read (c.write x) y <;> rfl

end Fields

/-- For ASCII names, which field a key binds to does not depend on the Unicode tables. -/
theorem bindsTo_ascii {names : List Str} {key : Str} (hkey : ∀ b ∈ key, b < 128)
    (hnames : ∀ name ∈ names, ∀ b ∈ name, b < 128) :
  bindsTo names key = @bindsTo asciiTables names key
  := by
  have hfind : names.find? (equalFold key) = names.find? (@equalFold asciiTables key) := by
    induction names with
    | nil => rfl
    | cons name names ih =>
        rw [List.forall_mem_cons] at hnames
        rw [List.find?_cons, List.find?_cons, equalFold_ascii hkey hnames.1, ih hnames.2]
  simp only [bindsTo, hfind]

theorem Fields.avoids_of_ascii {α : Type} {f : Fields α} {names : List Str} {name : Str}
    (hnames : ∀ name ∈ names, ∀ b ∈ name, b < 128)
    (h : ∀ key ∈ f.names, (∀ b ∈ key, b < 128) ∧ @bindsTo asciiTables names key ≠ some name) :
  f.Avoids names name
  := by
  intro key hkey
  rw [bindsTo_ascii (h key hkey).1 hnames]
  exact (h key hkey).2

end Go.Json
