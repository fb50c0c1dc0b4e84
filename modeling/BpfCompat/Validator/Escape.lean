import BpfCompat.Go.Json.Encode

/-!
# String literals of the validator

The validator writes its result byte by byte.  Quotes, backslashes and control characters are
written as escapes, all other bytes as they are, so that code points of several bytes stay whole.

What is written for a text is a string literal, and the literal denotes the text
(`escapeJsonString_lossless`).
-/

namespace Validator

open Go Go.Json

/-! ### Writing -/

/-- A number as four hexadecimal digits, `%04x`. -/
def formatHex4 (n : Nat) : Str :=
  [hexDigit (n / 4096 % 16), hexDigit (n / 256 % 16), hexDigit (n / 16 % 16), hexDigit (n % 16)]

/-- A byte as it is written between quotes. -/
def escapeByte (p : UInt8) : Str :=
  if p = '"'.toUInt8 then str "\\\""
  else if p = '\\'.toUInt8 then str "\\\\"
  else if p = '\n'.toUInt8 then str "\\n"
  else if p = '\r'.toUInt8 then str "\\r"
  else if p = '\t'.toUInt8 then str "\\t"
  else if p < 0x20 then str "\\u" ++ formatHex4 p.toNat
  else [p]

/-- What is written for a string, which ends at its first null byte; nothing for a null pointer. -/
def escapeJsonString : Option Str → Str
  | none => []
  | some value => (value.takeWhile (· ≠ 0)).flatMap escapeByte

/-! ### Literals -/

/-- What stands between the quotes of a string literal, and the text it denotes. -/
inductive Denotes : List Char → List Char → Prop
  | nil : Denotes [] []
  | plain {c : Char} {body cs : List Char} (hlow : 0x20 ≤ c.toNat) (hquote : c ≠ '"')
      (hbackslash : c ≠ '\\') (h : Denotes body cs) : Denotes (c :: body) (c :: cs)
  | escape {e c : Char} {body cs : List Char} (he : escaped e = some c) (h : Denotes body cs) :
      Denotes ('\\' :: e :: body) (c :: cs)
  | unicode {digits : List Char} {c : Char} {body cs : List Char}
      (hdigits : hexValue4 digits = some c.toNat) (h : Denotes body cs) :
      Denotes ('\\' :: 'u' :: digits ++ body) (c :: cs)
  | surrogates {digits digits' : List Char} {high low : Nat} {c : Char} {body cs : List Char}
      (hhigh : hexValue4 digits = some high) (hlow : hexValue4 digits' = some low)
      (hpair : surrogatePair high low = some c.toNat) (h : Denotes body cs) :
      Denotes ('\\' :: 'u' :: digits ++ '\\' :: 'u' :: digits' ++ body) (c :: cs)

theorem stringBody_surrogates {digits digits' : List Char} {high low : Nat} {c : Char}
    (hhigh : hexValue4 digits = some high) (hlow : hexValue4 digits' = some low)
    (hpair : surrogatePair high low = some c.toNat) (fuel : Nat) (rest : List Rune) :
  Json.stringBody (fuel + 1) (('\\' :: 'u' :: digits ++ '\\' :: 'u' :: digits').map .char ++ rest)
    = (Json.stringBody fuel rest).map fun (s, rest) => (c :: s, rest)
  := by
  have hunit := codeUnit_digits hhigh (('\\' :: 'u' :: digits').map .char ++ rest)
  have hunit' := codeUnit_digits hlow rest
  rw [List.map_append, List.append_assoc]
  simp only [List.map_cons, List.cons_append] at hunit hunit' ⊢
  simp only [Json.stringBody, hunit, hunit', Option.bind_some, hpair, Option.map_some,
    Char.ofNat_toNat]

/-- A literal is read as the text it denotes. -/
theorem Denotes.stringBody {body cs : List Char} (h : Denotes body cs) {fuel : Nat}
    (hfuel : body.length < fuel) (rest : List Rune) :
  Json.stringBody fuel (body.map .char ++ .char '"' :: rest) = some (cs, rest)
  := by
  induction h generalizing fuel with
  | nil =>
      obtain ⟨f, rfl⟩ : ∃ f, fuel = f + 1 := ⟨fuel - 1, by simp at hfuel; omega⟩
      rfl
  | @plain c body cs hlow hquote hbackslash h ih =>
      obtain ⟨f, rfl⟩ : ∃ f, fuel = f + 1 := ⟨fuel - 1, by simp at hfuel; omega⟩
      rw [List.map_cons, List.cons_append, Json.stringBody, if_neg (by omega),
        ih (by simp at hfuel; omega)]
      · rfl
      · exact hquote
      · exact hbackslash
  | @escape e c body cs he h ih =>
      obtain ⟨f, rfl⟩ : ∃ f, fuel = f + 1 := ⟨fuel - 1, by simp at hfuel; omega⟩
      have hu : e ≠ 'u' := by
        rintro rfl
        cases he
      rw [List.map_cons, List.map_cons, List.cons_append, List.cons_append,
        stringBody_escaped he hu, ih (by simp at hfuel; omega)]
      rfl
  | @unicode digits c body cs hdigits h ih =>
      obtain ⟨f, rfl⟩ : ∃ f, fuel = f + 1 := ⟨fuel - 1, by simp at hfuel; omega⟩
      rw [List.map_append, List.append_assoc, stringBody_digits hdigits,
        ih (by simp at hfuel; omega)]
      rfl
  | @surrogates digits digits' high low c body cs hhigh hlow hpair h ih =>
      obtain ⟨f, rfl⟩ : ∃ f, fuel = f + 1 := ⟨fuel - 1, by simp at hfuel; omega⟩
      rw [List.map_append, List.append_assoc, stringBody_surrogates hhigh hlow hpair,
        ih (by simp at hfuel; omega)]
      rfl

/-! ### What is written denotes the text -/

/-- A code point as it is written between quotes. -/
def writtenChar (c : Char) : List Char :=
  if c = '"' ∨ c = '\\' then ['\\', c]
  else if c = '\n' then ['\\', 'n']
  else if c = '\r' then ['\\', 'r']
  else if c = '\t' then ['\\', 't']
  else if c.toNat < 0x20 then unicodeEscape c
  else [c]

theorem escapeByte_of_le {p : UInt8} (h : 128 ≤ p.toNat) :
  escapeByte p = [p]
  := by
  have hne : ∀ k : UInt8, k.toNat < 128 → p ≠ k := by
    rintro k hk rfl
    omega
  have hlow : ¬ p < 0x20 := by
    rw [UInt8.lt_iff_toNat_lt, show (0x20 : UInt8).toNat = 32 from rfl]
    omega
  rw [escapeByte, if_neg (hne _ (by decide)), if_neg (hne _ (by decide)),
    if_neg (hne _ (by decide)), if_neg (hne _ (by decide)), if_neg (hne _ (by decide)),
    if_neg hlow]

theorem writtenChar_of_le {c : Char} (h : 128 ≤ c.toNat) :
  writtenChar c = [c]
  := by
  have hne : ∀ k : Char, k.toNat < 128 → c ≠ k := by
    rintro k hk rfl
    omega
  rw [writtenChar, if_neg (not_or.mpr ⟨hne _ (by decide), hne _ (by decide)⟩),
    if_neg (hne _ (by decide)), if_neg (hne _ (by decide)), if_neg (hne _ (by decide)),
    if_neg (by omega)]

/-- The bytes of a code point outside ASCII are written as they are. -/
theorem flatMap_escapeByte_of_le {s : Str} (h : ∀ b ∈ s, 128 ≤ b.toNat) :
  s.flatMap escapeByte = s
  := by
  induction s with
  | nil => rfl
  | cons b s ih =>
      rw [List.forall_mem_cons] at h
      rw [List.flatMap_cons, escapeByte_of_le h.1, ih h.2, List.singleton_append]

theorem flatMap_escapeByte_encode (c : Char) :
  (String.utf8EncodeChar c).flatMap escapeByte = ofRunes ((writtenChar c).map .char)
  := by
  obtain h | h := Nat.lt_or_ge c.toNat 128
  · have key : ∀ n : Fin 128, (String.utf8EncodeChar (Char.ofNat n)).flatMap escapeByte
        = ofRunes ((writtenChar (Char.ofNat n)).map .char) := by
      decide +kernel
    have hc := key ⟨c.toNat, h⟩
    rwa [Char.ofNat_toNat] at hc
  · have hbytes : ∀ b ∈ String.utf8EncodeChar c, 128 ≤ b.toNat := by
      intro b hb
      obtain hb | hb := mem_utf8EncodeChar hb
      · omega
      · exact hb.1
    rw [flatMap_escapeByte_of_le hbytes, writtenChar_of_le h]
    exact (List.append_nil _).symm

theorem Denotes.writtenChar_append {body cs : List Char} (h : Denotes body cs) (c : Char) :
  Denotes (writtenChar c ++ body) (c :: cs)
  := by
  unfold writtenChar
  split
  · rename_i hc
    obtain rfl | rfl := hc
    · exact .escape rfl h
    · exact .escape rfl h
  rename_i hquote
  rw [not_or] at hquote
  split
  · rename_i hc
    rw [hc]
    exact .escape rfl h
  split
  · rename_i hc
    rw [hc]
    exact .escape rfl h
  split
  · rename_i hc
    rw [hc]
    exact .escape rfl h
  split
  · exact .unicode (hexValue4_hexChar (by omega)) h
  · exact .plain (by omega) hquote.1 hquote.2 h

/-- What is written for a text denotes it. -/
theorem flatMap_escapeByte_text (cs : List Char) :
  ∃ body, (ofRunes (cs.map .char)).flatMap escapeByte = ofRunes (body.map .char)
    ∧ Denotes body cs
  := by
  induction cs with
  | nil => exact ⟨[], rfl, .nil⟩
  | cons c cs ih =>
      obtain ⟨body, hbody, hdenotes⟩ := ih
      use writtenChar c ++ body
      constructor
      · rw [List.map_cons, ofRunes_cons, Rune.bytes, List.flatMap_append,
          flatMap_escapeByte_encode, hbody, List.map_append, ofRunes_append]
      · exact hdenotes.writtenChar_append c

/-- A quoted literal is one lexeme, of the text it denotes. -/
theorem Denotes.lexemes {body cs : List Char} (h : Denotes body cs) (rest : Str) :
  Json.lexemes (34 :: ofRunes (body.map .char) ++ 34 :: rest)
    = .string (ofRunes (cs.map .char)) :: Json.lexemes rest
  := by
  rw [List.cons_append, lexemes_cons]
  generalize ht : ofRunes (body.map .char) ++ 34 :: rest = t
  have hrunes : runes t = body.map .char ++ .char '"' :: runes rest := by
    rw [← ht, runes_ofRunes_char_append, runes_ascii_cons (by decide)]
    rfl
  have hlength : body.length < t.length + 1 := by
    have hle := length_le_ofRunes (body.map .char)
    rw [List.length_map] at hle
    rw [← ht, List.length_append]
    omega
  have hbody := h.stringBody hlength (runes rest)
  rw [← hrunes] at hbody
  rw [nextLexeme_quote hbody, ofRunes_runes]
  rfl

theorem takeWhile_ne_zero {s : Str} (h : 0 ∉ s) :
  s.takeWhile (· ≠ 0) = s
  := by
  rw [List.takeWhile_eq_self_iff]
  intro b hb
  rw [decide_eq_true_iff]
  rintro rfl
  exact h hb

/-- What is written for a text without null bytes is the body of a string literal that denotes
the text, and between quotes it is read as one string, the text itself. -/
theorem escapeJsonString_lossless {s : Str} (hzero : 0 ∉ s) (hs : ValidText s) :
  (∃ body cs : List Char, escapeJsonString (some s) = ofRunes (body.map .char)
    ∧ s = ofRunes (cs.map .char) ∧ Denotes body cs)
  ∧ ∀ rest, lexemes (34 :: escapeJsonString (some s) ++ 34 :: rest) = .string s :: lexemes rest
  := by
  obtain ⟨cs, rfl⟩ := hs
  obtain ⟨body, hbody, hdenotes⟩ := flatMap_escapeByte_text cs
  rw [escapeJsonString, takeWhile_ne_zero hzero, hbody]
  constructor
  · exact ⟨body, cs, rfl, rfl, hdenotes⟩
  · intro rest
    exact hdenotes.lexemes rest

/-- A line break, a control character, a quote and two code points outside ASCII. -/
theorem escapeJsonString_lossless_line :
  lexemes (34 :: escapeJsonString (some (str "a\n\x1b\"é😀")) ++ [34])
    = [.string (str "a\n\x1b\"é😀")]
  := by
  have hzero : 0 ∉ str "a\n\x1b\"é😀" := by decide
  have hs : ValidText (str "a\n\x1b\"é😀") := ⟨['a', '\n', '\x1b', '"', 'é', '😀'], by decide⟩
  exact (escapeJsonString_lossless hzero hs).2 []

end Validator
