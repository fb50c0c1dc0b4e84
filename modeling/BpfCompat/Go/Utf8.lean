import Mathlib

/-!
# Strings of bytes

A Go string is a sequence of bytes.  Ranging over it reads UTF-8: each step yields a
code point, or a single byte that begins no valid encoding.  The code points and stray
bytes a string is made of determine it, a prefix of them is what the corresponding
prefix of the string is made of, and replacing every stray byte by U+FFFD gives the
string `encoding/json` writes in its place.
-/

namespace Go

/-- Strings and byte slices are sequences of bytes. -/
abbrev Str : Type := List UInt8

/-- Equality of strings is decided by comparing them. -/
instance (priority := 1100) lawfulBEqStr : LawfulBEq Str := inferInstance

/-- The string a literal denotes. -/
def str (s : String) : Str := s.toByteArray.data.toList

theorem str_inj {s t : String} :
  str s = str t ↔ s = t
  := by
  constructor
  · intro h
    apply String.toByteArray_inj.mp
    exact ByteArray.ext (Array.toList_inj.mp h)
  · rintro rfl
    rfl

theorem str_ne_nil {s : String} (h : s ≠ "") :
  str s ≠ []
  := by
  intro hnil
  apply h
  apply String.toByteArray_inj.mp
  apply ByteArray.ext
  apply Array.toList_inj.mp
  exact hnil

instance linearOrderUInt8 : LinearOrder UInt8 where
  le_refl a := Nat.le_refl a.toNat
  le_trans a b c h h' := UInt8.le_trans h h'
  lt_iff_le_not_ge a b := by
    rw [UInt8.lt_iff_toNat_lt, UInt8.le_iff_toNat_le, UInt8.le_iff_toNat_le]
    omega
  le_antisymm a b h h' := UInt8.le_antisymm h h'
  le_total a b := UInt8.le_total a b
  toDecidableLE := inferInstance

/-- What holds of the members of a list is decided by walking the list, also where the type
of its members could be enumerated. -/
instance (priority := 1100) decidableForallMem {α : Type*} (p : α → Prop) [DecidablePred p] (l : List α) :
    Decidable (∀ x ∈ l, p x) :=
  List.decidableBAll p l

/-! ### Ranging over a string -/

/-- What one step of ranging over a string yields. -/
inductive Rune where
  | char (c : Char)
  | bad (b : UInt8)
deriving DecidableEq

/-- The bytes one step consumes. -/
def Rune.bytes : Rune → Str
  | .char c => String.utf8EncodeChar c
  | .bad b => [b]

/-- The code point the program sees: a stray byte reads as U+FFFD. -/
def Rune.value : Rune → Char
  | .char c => c
  | .bad _ => '\uFFFD'

/-- The code point a string begins with, absent when its first byte begins no valid
encoding. -/
def firstChar? (s : Str) : Option Char :=
  ByteArray.utf8DecodeChar? s.toByteArray 0

/-- Ranging over a string whose first `skip` bytes have been consumed. -/
def runesFrom : Nat → Str → List Rune
  | _, [] => []
  | skip + 1, _ :: s => runesFrom skip s
  | 0, b :: s =>
    match firstChar? (b :: s) with
    | some c => .char c :: runesFrom (c.utf8Size - 1) s
    | none => .bad b :: runesFrom 0 s

/-- What ranging over a string yields. -/
def runes (s : Str) : List Rune := runesFrom 0 s

/-- The string made of the given code points and stray bytes. -/
def ofRunes (l : List Rune) : Str := l.flatMap Rune.bytes

/-- The string with every stray byte replaced by U+FFFD. -/
def toValidUTF8 (s : Str) : Str := ofRunes ((runes s).map fun r => .char r.value)

@[simp]
theorem ofRunes_nil :
  ofRunes [] = []
  := rfl

@[simp]
theorem ofRunes_cons (r : Rune) (l : List Rune) :
  ofRunes (r :: l) = r.bytes ++ ofRunes l
  := List.flatMap_cons

theorem ofRunes_append (l m : List Rune) :
  ofRunes (l ++ m) = ofRunes l ++ ofRunes m
  := List.flatMap_append

/-- An encoded code point is read back, whatever follows it. -/
theorem firstChar?_encode_append (c : Char) (s : Str) :
  firstChar? (String.utf8EncodeChar c ++ s) = some c
  := by
  rw [firstChar?, List.toByteArray_append]
  apply ByteArray.utf8DecodeChar?_utf8EncodeChar_append

/-- A string that begins with a code point is the encoding of that code point followed
by the rest of the string. -/
theorem eq_encode_append_of_firstChar? {s : Str} {c : Char} (h : firstChar? s = some c) :
  s = String.utf8EncodeChar c ++ s.drop c.utf8Size
  := by
  obtain ⟨t, ht⟩ := ByteArray.exists_of_utf8DecodeChar?_eq_some h
  have hs : s = String.utf8EncodeChar c ++ t.data.toList := by
    have h' := congrArg (fun b => b.data.toList) ht
    simpa using h'
  rw [hs, ← String.length_utf8EncodeChar c, List.drop_left]

/-- The code point a string begins with is the one every extension of it begins with. -/
theorem firstChar?_append {s : Str} {c : Char} (h : firstChar? s = some c) (t : Str) :
  firstChar? (s ++ t) = some c
  := by
  rw [eq_encode_append_of_firstChar? h, List.append_assoc]
  apply firstChar?_encode_append

@[simp]
theorem firstChar?_nil :
  firstChar? [] = none
  := rfl

theorem runesFrom_eq_runes_drop (n : Nat) (s : Str) :
  runesFrom n s = runes (s.drop n)
  := by
  induction s generalizing n with
  | nil => simp [runes, runesFrom]
  | cons b s ih =>
      cases n with
      | zero => rfl
      | succ n => simp only [runesFrom, List.drop_succ_cons, ih]

@[simp]
theorem runes_nil :
  runes [] = []
  := rfl

/-- Ranging over an encoded code point followed by a string yields the code point, then
ranges over the string. -/
theorem runes_encode_append (c : Char) (s : Str) :
  runes (String.utf8EncodeChar c ++ s) = .char c :: runes s
  := by
  have hc := firstChar?_encode_append c s
  have hlen := String.length_utf8EncodeChar c
  cases hb : String.utf8EncodeChar c with
  | nil =>
      have hpos := c.utf8Size_pos
      rw [hb] at hlen
      simp at hlen
      omega
  | cons b t =>
      rw [hb] at hc hlen
      rw [List.cons_append, runes, runesFrom, ← List.cons_append, hc]
      simp only [runesFrom_eq_runes_drop]
      rw [← hlen, List.length_cons, Nat.add_sub_cancel, List.drop_left]

/-- A byte that begins no valid encoding is yielded on its own. -/
theorem runes_bad_cons {b : UInt8} {s : Str} (h : firstChar? (b :: s) = none) :
  runes (b :: s) = .bad b :: runes s
  := by
  rw [runes, runesFrom, h]
  rfl

/-- A string is empty, or begins with a code point, or with a stray byte. -/
theorem str_cases (s : Str) :
  s = [] ∨ (∃ c t, s = String.utf8EncodeChar c ++ t) ∨
    ∃ b t, s = b :: t ∧ firstChar? (b :: t) = none
  := by
  cases s with
  | nil => simp
  | cons b t =>
      right
      cases h : firstChar? (b :: t) with
      | some c =>
          left
          use c, (b :: t).drop c.utf8Size
          apply eq_encode_append_of_firstChar? h
      | none =>
          right
          use b, t

/-- The code points and stray bytes of a string determine it. -/
theorem ofRunes_runes (s : Str) :
  ofRunes (runes s) = s
  := by
  induction h : s.length using Nat.strong_induction_on generalizing s with
  | _ n ih =>
      obtain rfl | ⟨c, t, rfl⟩ | ⟨b, t, rfl, hb⟩ := str_cases s
      · rfl
      · have hpos := c.utf8Size_pos
        have hlt : t.length < n := by
          rw [← h, List.length_append, String.length_utf8EncodeChar]
          omega
        rw [runes_encode_append, ofRunes_cons, ih _ hlt t rfl, Rune.bytes]
      · have hlt : t.length < n := by
          rw [← h, List.length_cons]
          omega
        rw [runes_bad_cons hb, ofRunes_cons, ih _ hlt t rfl, Rune.bytes, List.singleton_append]

theorem runes_injective {s t : Str} (h : runes s = runes t) :
  s = t
  := by
  rw [← ofRunes_runes s, h, ofRunes_runes]

/-- The string after the first step is what the remaining steps are made of. -/
theorem runes_ofRunes_tail {s : Str} {r : Rune} {l : List Rune} (h : runes s = r :: l) :
  s = r.bytes ++ ofRunes l ∧ runes (ofRunes l) = l
  := by
  have hs : s = r.bytes ++ ofRunes l := by
    rw [← ofRunes_runes s, h, ofRunes_cons]
  use hs
  obtain rfl | ⟨c, t, rfl⟩ | ⟨b, t, rfl, hb⟩ := str_cases s
  · simp at h
  · rw [runes_encode_append] at h
    obtain ⟨rfl, rfl⟩ := List.cons.inj h
    rw [ofRunes_runes]
  · rw [runes_bad_cons hb] at h
    obtain ⟨rfl, rfl⟩ := List.cons.inj h
    rw [ofRunes_runes]

/-- A final part of what a string is made of is what that part of the string is made
of. -/
theorem runes_ofRunes_of_suffix {s : Str} (l : List Rune) {m : List Rune}
    (h : runes s = l ++ m) :
  runes (ofRunes m) = m
  := by
  induction l generalizing s with
  | nil => rw [← List.nil_append m, ← h, ofRunes_runes]
  | cons r l ih =>
      apply ih
      apply (runes_ofRunes_tail h).2

/-- An initial part of what a string is made of is what that part of the string is made
of. -/
theorem runes_ofRunes_of_prefix {s : Str} {l m : List Rune} (h : runes s = l ++ m) :
  runes (ofRunes l) = l
  := by
  induction l generalizing s with
  | nil => rfl
  | cons r l ih =>
      rw [List.cons_append] at h
      obtain ⟨hs, hl⟩ := runes_ofRunes_tail h
      have ihl := ih hl
      cases r with
      | char c => rw [ofRunes_cons, Rune.bytes, runes_encode_append, ihl]
      | bad b =>
          have hb : firstChar? (b :: ofRunes l) = none := by
            cases hc : firstChar? (b :: ofRunes l) with
            | none => rfl
            | some c =>
                -- a code point here would also begin the whole string, which yields a stray byte
                have hc' := firstChar?_append hc (ofRunes m)
                rw [hs, Rune.bytes, List.singleton_append, ofRunes_append, runes, runesFrom,
                  ← List.cons_append, hc'] at h
                simp at h
          rw [ofRunes_cons, Rune.bytes, List.singleton_append, runes_bad_cons hb, ihl]

/-- Ranging over a string of encoded code points yields them. -/
theorem runes_ofRunes_char (l : List Char) :
  runes (ofRunes (l.map .char)) = l.map .char
  := by
  induction l with
  | nil => rfl
  | cons c l ih => rw [List.map_cons, ofRunes_cons, Rune.bytes, runes_encode_append, ih]

/-- A valid string is made of the code points the program sees in the original. -/
theorem runes_toValidUTF8 (s : Str) :
  runes (toValidUTF8 s) = (runes s).map fun r => .char r.value
  := by
  have h := runes_ofRunes_char ((runes s).map Rune.value)
  rw [List.map_map] at h
  apply h

/-- An encoded code point is left as it is. -/
theorem toValidUTF8_encode_append (c : Char) (s : Str) :
  toValidUTF8 (String.utf8EncodeChar c ++ s) = String.utf8EncodeChar c ++ toValidUTF8 s
  := by
  rw [toValidUTF8, runes_encode_append, List.map_cons, ofRunes_cons, Rune.value, Rune.bytes,
    toValidUTF8]

/-- A stray byte is replaced by the encoding of U+FFFD. -/
theorem toValidUTF8_bad_cons {b : UInt8} {s : Str} (h : firstChar? (b :: s) = none) :
  toValidUTF8 (b :: s) = [0xEF, 0xBF, 0xBD] ++ toValidUTF8 s
  := by
  have hfffd : String.utf8EncodeChar '\uFFFD' = [0xEF, 0xBF, 0xBD] := by decide
  rw [toValidUTF8, runes_bad_cons h, List.map_cons, ofRunes_cons, Rune.value, Rune.bytes, hfffd,
    toValidUTF8]

/-! ### ASCII -/

/-- The code point of an ASCII byte. -/
def asciiChar (b : UInt8) : Char := Char.ofNat b.toNat

theorem encode_asciiChar {b : UInt8} (h : b < 128) :
  String.utf8EncodeChar (asciiChar b) = [b]
  := by
  have key : ∀ n : Fin 128, String.utf8EncodeChar (Char.ofNat n) = [UInt8.ofNat n] := by decide
  have hb := key ⟨b.toNat, UInt8.lt_iff_toNat_lt.mp h⟩
  rw [UInt8.ofNat_toNat] at hb
  apply hb

theorem toNat_asciiChar_lt {b : UInt8} (h : b < 128) :
  (Rune.char (asciiChar b)).value.toNat < 128
  := by
  have key : ∀ n : Fin 128, (Char.ofNat n).toNat < 128 := by decide
  exact key ⟨b.toNat, UInt8.lt_iff_toNat_lt.mp h⟩

theorem runes_ascii_cons {b : UInt8} (h : b < 128) (s : Str) :
  runes (b :: s) = .char (asciiChar b) :: runes s
  := by
  rw [← List.singleton_append, ← encode_asciiChar h, runes_encode_append]

/-- The encoding of a code point outside ASCII has no ASCII byte. -/
theorem mem_utf8EncodeChar {c : Char} {b : UInt8} (h : b ∈ String.utf8EncodeChar c) :
  b.toNat = c.toNat ∨ (128 ≤ b.toNat ∧ 128 ≤ c.toNat)
  := by
  have hval : c.val.toNat = c.toNat := rfl
  rw [String.utf8EncodeChar] at h
  simp only [hval] at h
  split_ifs at h with h₁ h₂ h₃
  · rw [List.mem_singleton] at h
    left
    rw [h, UInt8.toNat_ofNat']
    omega
  all_goals
    simp only [List.mem_cons, List.not_mem_nil, or_false] at h
    right
    refine ⟨?_, by omega⟩
  · rcases h with h | h <;> rw [h, UInt8.toNat_ofNat'] <;> omega
  · rcases h with h | h | h <;> rw [h, UInt8.toNat_ofNat'] <;> omega
  · rcases h with h | h | h | h <;> rw [h, UInt8.toNat_ofNat'] <;> omega

@[simp]
theorem toValidUTF8_nil :
  toValidUTF8 [] = []
  := rfl

theorem toValidUTF8_ascii_cons {b : UInt8} (h : b < 128) (s : Str) :
  toValidUTF8 (b :: s) = b :: toValidUTF8 s
  := by
  rw [← List.singleton_append, ← encode_asciiChar h, toValidUTF8_encode_append,
    encode_asciiChar h, List.singleton_append]

/-- An ASCII string is left as it is. -/
theorem toValidUTF8_of_ascii {s : Str} (h : ∀ b ∈ s, b < 128) :
  toValidUTF8 s = s
  := by
  induction s with
  | nil => rfl
  | cons b s ih =>
      rw [toValidUTF8_ascii_cons (h b (by simp)), ih fun b' hb => h b' (by simp [hb])]

end Go
