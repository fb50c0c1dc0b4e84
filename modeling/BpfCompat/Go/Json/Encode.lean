import BpfCompat.Go.Json.Syntax

/-!
# Encoding values

The text of a value, with every member and element on a line of its own.  A string literal
escapes what a JSON string or an HTML page cannot hold.

A value whose numbers are integers and whose strings have no stray bytes is read back from
its text, provided it does not nest deeper than the decoder allows
(`parseDocument_marshalIndent`).
-/

namespace Go.Json

/-! ### The text of a value -/

/-- A hexadecimal digit. -/
def hexChar (n : Nat) : Char := asciiChar (hexDigit n)

/-- A code point as an escape of four hexadecimal digits. -/
def unicodeEscape (c : Char) : List Char :=
  ['\\', 'u', hexChar (c.toNat / 4096 % 16), hexChar (c.toNat / 256 % 16),
    hexChar (c.toNat / 16 % 16), hexChar (c.toNat % 16)]

/-- A code point as it stands in a string literal. -/
def escapeChar (c : Char) : List Char :=
  if c = '"' ∨ c = '\\' then ['\\', c]
  else if c = '\x08' then ['\\', 'b']
  else if c = '\x0c' then ['\\', 'f']
  else if c = '\n' then ['\\', 'n']
  else if c = '\r' then ['\\', 'r']
  else if c = '\t' then ['\\', 't']
  else if c.toNat < 0x20 ∨ c = '<' ∨ c = '>' ∨ c = '&' ∨ c = '\u2028' ∨ c = '\u2029' then
    unicodeEscape c
  else [c]

/-- A code point or stray byte as it stands in a string literal. -/
def escapeRune : Rune → List Char
  | .char c => escapeChar c
  | .bad _ => unicodeEscape '\uFFFD'

/-- A string literal. -/
def quoted (s : Str) : Str :=
  34 :: (ofRunes (((runes s).flatMap escapeRune).map .char) ++ [34])

/-- A line break before a line at the given depth. -/
def newline (depth : Nat) : Str := 10 :: List.replicate (2 * depth) 32

mutual

/-- A value, indented by two spaces for every array and object it is inside. -/
def Value.indented : Value → Nat → Str
  | .null, _ => str "null"
  | .bool b, _ => formatBool b
  | .number text, _ => text
  | .string s, _ => quoted s
  | .array [], _ => str "[" ++ str "]"
  | .array (v :: vs), d =>
    str "[" ++ newline (d + 1) ++ v.indented (d + 1) ++ indentedElements vs d
  | .object [], _ => str "\x7b" ++ str "\x7d"
  | .object ((key, v) :: ms), d =>
    str "\x7b" ++ newline (d + 1) ++ quoted key ++ str ":" ++ str " " ++ v.indented (d + 1) ++
      indentedMembers ms d

/-- The elements of an array after the first one. -/
def indentedElements : List Value → Nat → Str
  | [], d => newline d ++ str "]"
  | v :: vs, d => str "," ++ newline (d + 1) ++ v.indented (d + 1) ++ indentedElements vs d

/-- The members of an object after the first one. -/
def indentedMembers : List (Str × Value) → Nat → Str
  | [], d => newline d ++ str "\x7d"
  | (key, v) :: ms, d =>
    str "," ++ newline (d + 1) ++ quoted key ++ str ":" ++ str " " ++ v.indented (d + 1) ++
      indentedMembers ms d

end

/-- The text of a value. -/
def marshalIndent (v : Value) : Str := v.indented 0

/-! ### Which values can be written -/

/-- A string without stray bytes. -/
def ValidText (s : Str) : Prop := ∃ cs : List Char, s = ofRunes (cs.map .char)

/-- The value nests at most that deep, its strings have no stray bytes, and its numbers are
integers. -/
inductive Printable : Nat → Value → Prop where
  | null {n : Nat} : Printable n .null
  | bool {n : Nat} (b : Bool) : Printable n (.bool b)
  | number {n : Nat} (k : Int) : Printable n (.number (itoa k))
  | string {n : Nat} {s : Str} (hs : ValidText s) : Printable n (.string s)
  | array {n : Nat} {vs : List Value} (elements : ∀ v ∈ vs, Printable n v) :
      Printable (n + 1) (.array vs)
  | object {n : Nat} {ms : List (Str × Value)} (keys : ∀ m ∈ ms, ValidText m.1)
      (members : ∀ m ∈ ms, Printable n m.2) : Printable (n + 1) (.object ms)

theorem Printable.mono {n k : Nat} {v : Value} (hv : Printable n v) (h : n ≤ k) :
  Printable k v
  := by
  induction v using Value.ind generalizing n k with
  | null => exact .null
  | bool b => exact .bool b
  | number text =>
      cases hv with
      | number i => exact .number i
  | string s =>
      cases hv with
      | string hs => exact .string hs
  | array vs ih =>
      cases hv with
      | array helements =>
          obtain ⟨k, rfl⟩ : ∃ j, k = j + 1 := ⟨k - 1, by omega⟩
          exact .array fun v hv => ih v hv (helements v hv) (Nat.le_of_succ_le_succ h)
  | object ms ih =>
      cases hv with
      | object hkeys hmembers =>
          obtain ⟨k, rfl⟩ : ∃ j, k = j + 1 := ⟨k - 1, by omega⟩
          exact .object hkeys fun m hm => ih m hm (hmembers m hm) (Nat.le_of_succ_le_succ h)

/-! ### Strings are read back -/

theorem hexValue_hexChar {d : Nat} (h : d < 16) :
  hexValue (hexChar d) = some d
  := by
  revert h
  revert d
  decide

theorem hexValue4_eq_some {digits : List Char} {n : Nat} (h : hexValue4 digits = some n) :
  ∃ a b c d, digits = [a, b, c, d]
  := by
  unfold hexValue4 at h
  split at h
  · exact ⟨_, _, _, _, rfl⟩
  · cases h

theorem codeUnit_digits {digits : List Char} {n : Nat} (h : hexValue4 digits = some n)
    (rest : List Rune) :
  codeUnit (('\\' :: 'u' :: digits).map .char ++ rest) = some (n, rest)
  := by
  obtain ⟨a, b, c, d, rfl⟩ := hexValue4_eq_some h
  simp only [List.map_cons, List.map_nil, List.cons_append, List.nil_append, codeUnit, h,
    Option.map_some]

/-- The digits of a code point denote it. -/
theorem hexValue4_hexChar {n : Nat} (h : n < 65536) :
  hexValue4 [hexChar (n / 4096 % 16), hexChar (n / 256 % 16), hexChar (n / 16 % 16),
    hexChar (n % 16)] = some n
  := by
  simp only [hexValue4, hexValue_hexChar (Nat.mod_lt _ (by norm_num : 16 > 0)),
    Option.bind_eq_bind, Option.bind_some, Option.pure_def]
  congr 1
  omega

/-- A code point is never half of a surrogate pair. -/
theorem surrogatePair_toNat (c : Char) (low : Nat) :
  surrogatePair c.toNat low = none
  := by
  rw [surrogatePair, if_neg]
  rintro ⟨hlow, hhigh, -⟩
  have hvalid : c.toNat < 0xD800 ∨ 0xDFFF < c.toNat ∧ c.toNat < 0x110000 := c.valid
  omega

/-- An escape of a code point is read back. -/
theorem stringBody_digits {digits : List Char} {c : Char} (h : hexValue4 digits = some c.toNat)
    (fuel : Nat) (rest : List Rune) :
  stringBody (fuel + 1) (('\\' :: 'u' :: digits).map .char ++ rest)
    = (stringBody fuel rest).map fun (s, rest) => (c :: s, rest)
  := by
  have hunit := codeUnit_digits h rest
  have hchar : (if 0xD800 ≤ c.toNat ∧ c.toNat < 0xE000 then '\uFFFD' else Char.ofNat c.toNat) = c := by
    have hvalid : c.toNat < 0xD800 ∨ 0xDFFF < c.toNat ∧ c.toNat < 0x110000 := c.valid
    rw [if_neg (by omega), Char.ofNat_toNat]
  simp only [List.map_cons, List.cons_append] at hunit ⊢
  cases hlow : codeUnit rest with
  | none => simp only [stringBody, hunit, hlow, Option.bind_none, hchar]
  | some p =>
      simp only [stringBody, hunit, hlow, Option.bind_some, surrogatePair_toNat, Option.map_none,
        hchar]

theorem stringBody_unicodeEscape {c : Char} (h : c.toNat < 65536) (fuel : Nat) (rest : List Rune) :
  stringBody (fuel + 1) ((unicodeEscape c).map .char ++ rest)
    = (stringBody fuel rest).map fun (s, rest) => (c :: s, rest)
  := stringBody_digits (hexValue4_hexChar h) fuel rest

theorem stringBody_escaped {c e : Char} (he : escaped e = some c) (hu : e ≠ 'u') (fuel : Nat)
    (rest : List Rune) :
  stringBody (fuel + 1) (.char '\\' :: .char e :: rest)
    = (stringBody fuel rest).map fun (s, rest) => (c :: s, rest)
  := by
  have hunit : codeUnit (.char '\\' :: .char e :: rest) = none := by
    unfold codeUnit
    split
    · rename_i heq
      simp only [List.cons.injEq, Rune.char.injEq] at heq
      exact absurd heq.2.1 hu
    · rfl
  simp only [stringBody, hunit, he, Option.bind_eq_bind, Option.bind_some]
  cases stringBody fuel rest with
  | none => rfl
  | some p => rfl

/-- An escaped code point is read back. -/
theorem stringBody_escapeChar (c : Char) (fuel : Nat) (rest : List Rune) :
  stringBody (fuel + 1) ((escapeChar c).map .char ++ rest)
    = (stringBody fuel rest).map fun (s, rest) => (c :: s, rest)
  := by
  unfold escapeChar
  split
  · rename_i hc
    obtain rfl | rfl := hc
    · exact stringBody_escaped rfl (by decide) fuel rest
    · exact stringBody_escaped rfl (by decide) fuel rest
  rename_i hquote
  split
  · rename_i hc
    rw [hc]
    exact stringBody_escaped rfl (by decide) fuel rest
  split
  · rename_i hc
    rw [hc]
    exact stringBody_escaped rfl (by decide) fuel rest
  split
  · rename_i hc
    rw [hc]
    exact stringBody_escaped rfl (by decide) fuel rest
  split
  · rename_i hc
    rw [hc]
    exact stringBody_escaped rfl (by decide) fuel rest
  split
  · rename_i hc
    rw [hc]
    exact stringBody_escaped rfl (by decide) fuel rest
  split
  · rename_i hc
    apply stringBody_unicodeEscape
    obtain hc | rfl | rfl | rfl | rfl | rfl := hc
    · omega
    · decide
    · decide
    · decide
    · decide
    · decide
  · rename_i hplain
    rw [not_or] at hquote hplain
    simp only [List.map_cons, List.map_nil, List.cons_append, List.nil_append]
    rw [stringBody, if_neg hplain.1]
    · exact hquote.1
    · exact hquote.2

/-- A stray byte is read back as U+FFFD. -/
theorem stringBody_escapeRune (r : Rune) (fuel : Nat) (rest : List Rune) :
  stringBody (fuel + 1) ((escapeRune r).map .char ++ rest)
    = (stringBody fuel rest).map fun (s, rest) => (r.value :: s, rest)
  := by
  cases r with
  | char c => exact stringBody_escapeChar c fuel rest
  | bad b =>
      apply stringBody_unicodeEscape
      decide

theorem stringBody_text (rs : List Rune) {fuel : Nat} (h : rs.length < fuel) (rest : List Rune) :
  stringBody fuel ((rs.flatMap escapeRune).map .char ++ .char '"' :: rest)
    = some (rs.map Rune.value, rest)
  := by
  induction rs generalizing fuel with
  | nil =>
      obtain ⟨f, rfl⟩ : ∃ f, fuel = f + 1 := ⟨fuel - 1, by simp at h; omega⟩
      rfl
  | cons r rs ih =>
      obtain ⟨f, rfl⟩ : ∃ f, fuel = f + 1 := ⟨fuel - 1, by simp at h; omega⟩
      rw [List.flatMap_cons, List.map_append, List.append_assoc, stringBody_escapeRune,
        ih (by simp at h; omega)]
      rfl

/-! ### What is written is read back -/

/-- A number ends where the text does, or before a line break, a comma, or a closing
bracket. -/
def Delimited (rest : Str) : Prop := ∀ b ∈ rest.head?, b = 10 ∨ b = 44 ∨ b = 93 ∨ b = 125

theorem integerPart_decimal (n : Nat) {rest : Str} (h : Delimited rest) :
  integerPart (decimal n ++ rest) = some (decimal n, rest)
  := by
  have hrest : rest.takeWhile isDecimal = [] ∧ rest.dropWhile isDecimal = rest := by
    cases rest with
    | nil => exact ⟨rfl, rfl⟩
    | cons b rest =>
        obtain rfl | rfl | rfl | rfl := h b (by simp)
        · exact ⟨rfl, rfl⟩
        · exact ⟨rfl, rfl⟩
        · exact ⟨rfl, rfl⟩
        · exact ⟨rfl, rfl⟩
  have hall : ∀ b ∈ decimal n, isDecimal b = true := fun b hb => isDecimal_of_mem_decimal hb
  obtain hn | ⟨b, s, hn, hb⟩ := decimal_cases n
  · rw [hn]
    rfl
  · have hdigits : digits (decimal n ++ rest) = some (decimal n, rest) := by
      simp only [digits, List.takeWhile_append_of_pos hall, List.dropWhile_append_of_pos hall,
        hrest.1, hrest.2, List.append_nil]
      rw [if_neg (by rw [hn]; simp)]
    rw [← hdigits, hn, List.cons_append, integerPart]
    intro rest' hrest'
    exact hb (List.cons.inj hrest').1

theorem number_itoa (n : Int) {rest : Str} (h : Delimited rest) :
  number (itoa n ++ rest) = some (itoa n, rest)
  := by
  have hfraction : fractionPart rest = some ([], rest) := by
    cases rest with
    | nil => rfl
    | cons b rest =>
        obtain rfl | rfl | rfl | rfl := h b (by simp)
        · rfl
        · rfl
        · rfl
        · rfl
  have hexponent : exponentPart rest = some ([], rest) := by
    cases rest with
    | nil => rfl
    | cons b rest =>
        obtain rfl | rfl | rfl | rfl := h b (by simp)
        · rfl
        · rfl
        · rfl
        · rfl
  have hsign : signPart (itoa n ++ rest)
      = (if n < 0 then [45] else [], decimal n.natAbs ++ rest) := by
    rw [itoa]
    split_ifs
    · rfl
    · obtain hd | ⟨b, s, hd, -⟩ := decimal_cases n.natAbs
      · rw [hd]
        rfl
      · have hb : isDecimal b = true := isDecimal_of_mem_decimal (hd ▸ List.mem_cons_self)
        rw [hd, List.cons_append, signPart]
        rintro rest' hrest'
        obtain ⟨rfl, -⟩ := List.cons.inj hrest'
        cases hb
  simp only [number, hsign, integerPart_decimal n.natAbs h, hfraction, hexponent,
    Option.bind_eq_bind, Option.bind_some, Option.pure_def, List.append_nil]
  rw [itoa]
  split_ifs
  · rfl
  · rfl

theorem ne_of_isDecimal {b k : UInt8} (hb : isDecimal b = true) (hk : isDecimal k = false) :
  b ≠ k
  := by
  rintro rfl
  rw [hb] at hk
  cases hk

theorem lexemes_null (rest : Str) :
  lexemes (str "null" ++ rest) = .null :: lexemes rest
  := by
  have h : str "null" = [110, 117, 108, 108] := by decide
  rw [h, List.cons_append, lexemes_cons]
  rfl

theorem lexemes_formatBool (b : Bool) (rest : Str) :
  lexemes (formatBool b ++ rest) = .bool b :: lexemes rest
  := by
  cases b with
  | true =>
      have h : formatBool true = [116, 114, 117, 101] := by decide
      rw [h, List.cons_append, lexemes_cons]
      rfl
  | false =>
      have h : formatBool false = [102, 97, 108, 115, 101] := by decide
      rw [h, List.cons_append, lexemes_cons]
      rfl

/-- A text of one byte that is a lexeme. -/
theorem lexemes_punctuation {s : String} {b : UInt8} {l : Lexeme} (hs : str s = [b])
    (hl : ∀ t, nextLexeme b t = (some l, t)) (rest : Str) :
  lexemes (str s ++ rest) = l :: lexemes rest
  := by
  rw [hs, List.singleton_append, lexemes_cons, hl]
  rfl

theorem lexemes_comma (rest : Str) :
  lexemes (str "," ++ rest) = .comma :: lexemes rest
  := lexemes_punctuation (b := 44) (by decide) (fun _ => rfl) rest

theorem lexemes_leftBracket (rest : Str) :
  lexemes (str "[" ++ rest) = .leftBracket :: lexemes rest
  := lexemes_punctuation (b := 91) (by decide) (fun _ => rfl) rest

theorem lexemes_rightBracket (rest : Str) :
  lexemes (str "]" ++ rest) = .rightBracket :: lexemes rest
  := lexemes_punctuation (b := 93) (by decide) (fun _ => rfl) rest

theorem lexemes_leftBrace (rest : Str) :
  lexemes (str "\x7b" ++ rest) = .leftBrace :: lexemes rest
  := lexemes_punctuation (b := 123) (by decide) (fun _ => rfl) rest

theorem lexemes_rightBrace (rest : Str) :
  lexemes (str "\x7d" ++ rest) = .rightBrace :: lexemes rest
  := lexemes_punctuation (b := 125) (by decide) (fun _ => rfl) rest

theorem lexemes_colon (rest : Str) :
  lexemes (str ":" ++ rest) = .colon :: lexemes rest
  := lexemes_punctuation (b := 58) (by decide) (fun _ => rfl) rest

theorem lexemes_space (rest : Str) :
  lexemes (str " " ++ rest) = lexemes rest
  := by
  have hspace : str " " = [32] := by decide
  rw [hspace, List.singleton_append, lexemes_cons]
  rfl

theorem lexemes_newline (d : Nat) (rest : Str) :
  lexemes (newline d ++ rest) = lexemes rest
  := by
  have hspaces : ∀ n, lexemes (List.replicate n 32 ++ rest) = lexemes rest := by
    intro n
    induction n with
    | zero => rfl
    | succ n ih =>
        rw [List.replicate_succ, List.cons_append, lexemes_cons]
        exact ih
  rw [newline, List.cons_append, lexemes_cons]
  exact hspaces _

theorem nextLexeme_digit {b : UInt8} {s text rest : Str} (hb : isDecimal b = true ∨ b = 45)
    (h : number (b :: s) = some (text, rest)) :
  nextLexeme b s = (some (.number text), rest)
  := by
  have hne : ∀ k, isDecimal k = false → k ≠ 45 → b ≠ k := by
    intro k hk hk'
    obtain hb | rfl := hb
    · exact ne_of_isDecimal hb hk
    · exact hk'.symm
  have hword : ∀ (k : UInt8) (w : Str), isDecimal k = false → k ≠ 45 →
      (k :: w).isPrefixOf (b :: s) = false := by
    intro k w hk hk'
    rw [List.isPrefixOf, beq_eq_false_iff_ne.mpr (hne k hk hk').symm, Bool.false_and]
  have hnull : (str "null").isPrefixOf (b :: s) = false := hword 110 _ (by decide) (by decide)
  have htrue : (str "true").isPrefixOf (b :: s) = false := hword 116 _ (by decide) (by decide)
  have hfalse : (str "false").isPrefixOf (b :: s) = false := hword 102 _ (by decide) (by decide)
  rw [nextLexeme, if_neg, if_neg (hne _ (by decide) (by decide)),
    if_neg (hne _ (by decide) (by decide)), if_neg (hne _ (by decide) (by decide)),
    if_neg (hne _ (by decide) (by decide)), if_neg (hne _ (by decide) (by decide)),
    if_neg (hne _ (by decide) (by decide)), if_neg (hne _ (by decide) (by decide)), hnull,
    htrue, hfalse, h]
  · rfl
  · rintro (h | h | h | h)
    · exact hne _ (by decide) (by decide) h
    · exact hne _ (by decide) (by decide) h
    · exact hne _ (by decide) (by decide) h
    · exact hne _ (by decide) (by decide) h

theorem lexemes_itoa (n : Int) {rest : Str} (h : Delimited rest) :
  lexemes (itoa n ++ rest) = .number (itoa n) :: lexemes rest
  := by
  have hnumber := number_itoa n h
  obtain ⟨b, s, hn, hb⟩ : ∃ b s, itoa n = b :: s ∧ (isDecimal b = true ∨ b = 45) := by
    rw [itoa]
    split_ifs
    · exact ⟨_, _, rfl, .inr rfl⟩
    · obtain hd | ⟨b, s, hd, -⟩ := decimal_cases n.natAbs
      · exact ⟨_, _, hd, .inl rfl⟩
      · exact ⟨_, _, hd, .inl (isDecimal_of_mem_decimal (hd ▸ List.mem_cons_self))⟩
  rw [hn, List.cons_append] at hnumber
  rw [hn, List.cons_append, lexemes_cons, nextLexeme_digit hb hnumber]
  rfl

theorem runes_ofRunes_char_append (cs : List Char) (s : Str) :
  runes (ofRunes (cs.map .char) ++ s) = cs.map .char ++ runes s
  := by
  induction cs with
  | nil => rfl
  | cons c cs ih =>
      rw [List.map_cons, ofRunes_cons, Rune.bytes, List.append_assoc, runes_encode_append, ih]
      rfl

theorem length_le_ofRunes (l : List Rune) :
  l.length ≤ (ofRunes l).length
  := by
  induction l with
  | nil => exact le_rfl
  | cons r l ih =>
      have hr : 0 < r.bytes.length := by
        cases r with
        | char c =>
            rw [Rune.bytes, String.length_utf8EncodeChar]
            exact c.utf8Size_pos
        | bad b => exact Nat.zero_lt_one
      rw [ofRunes_cons, List.length_append, List.length_cons]
      omega

theorem length_le_flatMap_escapeRune (rs : List Rune) :
  rs.length ≤ (rs.flatMap escapeRune).length
  := by
  induction rs with
  | nil => exact le_rfl
  | cons r rs ih =>
      have hr : 0 < (escapeRune r).length := by
        cases r with
        | char c =>
            rw [escapeRune]
            unfold escapeChar
            split_ifs <;> exact Nat.succ_pos _
        | bad b => exact Nat.succ_pos _
      rw [List.flatMap_cons, List.length_append, List.length_cons]
      omega

theorem nextLexeme_quote {s : Str} {cs : List Char} {rest : List Rune}
    (h : stringBody (s.length + 1) (runes s) = some (cs, rest)) :
  nextLexeme 34 s = (some (.string (ofRunes (cs.map .char))), ofRunes rest)
  := by
  simp [nextLexeme, h, Char.toUInt8]

/-- A string literal denotes the string it was written for, its stray bytes replaced. -/
theorem lexemes_quoted (s rest : Str) :
  lexemes (quoted s ++ rest) = .string (toValidUTF8 s) :: lexemes rest
  := by
  rw [quoted, List.cons_append, List.append_assoc, lexemes_cons]
  generalize ht : ofRunes (((runes s).flatMap escapeRune).map .char) ++ ([34] ++ rest) = t
  have hrunes : runes t = ((runes s).flatMap escapeRune).map .char ++ .char '"' :: runes rest := by
    rw [← ht, runes_ofRunes_char_append, List.singleton_append, runes_ascii_cons (by decide)]
    rfl
  have hlength : (runes s).length < t.length + 1 := by
    have h₁ := length_le_flatMap_escapeRune (runes s)
    have h₂ := length_le_ofRunes (((runes s).flatMap escapeRune).map .char)
    rw [List.length_map] at h₂
    rw [← ht, List.length_append]
    omega
  have hbody := stringBody_text (runes s) hlength (runes rest)
  rw [← hrunes] at hbody
  rw [nextLexeme_quote hbody, ofRunes_runes, List.map_map]
  rfl

theorem lexemes_quoted_text {s : Str} (hs : ValidText s) (rest : Str) :
  lexemes (quoted s ++ rest) = .string s :: lexemes rest
  := by
  obtain ⟨cs, rfl⟩ := hs
  rw [lexemes_quoted, toValidUTF8, runes_ofRunes_char, List.map_map]
  rfl

theorem Delimited.newline (d : Nat) (s : Str) :
  Delimited (newline d ++ s)
  := by
  intro b hb
  cases hb
  exact .inl rfl

theorem delimited_indentedElements (vs : List Value) (d : Nat) (rest : Str) :
  Delimited (indentedElements vs d ++ rest)
  := by
  cases vs with
  | nil =>
      rw [indentedElements, List.append_assoc]
      exact .newline d _
  | cons v vs =>
      have hcomma : str "," = [44] := by decide
      rw [indentedElements, hcomma]
      intro b hb
      cases hb
      exact .inr (.inl rfl)

theorem delimited_indentedMembers (ms : List (Str × Value)) (d : Nat) (rest : Str) :
  Delimited (indentedMembers ms d ++ rest)
  := by
  cases ms with
  | nil =>
      rw [indentedMembers, List.append_assoc]
      exact .newline d _
  | cons m ms =>
      obtain ⟨key, v⟩ := m
      have hcomma : str "," = [44] := by decide
      rw [indentedMembers, hcomma]
      intro b hb
      cases hb
      exact .inr (.inl rfl)

/-- The text of a value has the lexemes of the value. -/
def WritesLexemes (v : Value) : Prop :=
  ∀ d rest, Delimited rest → lexemes (v.indented d ++ rest) = v.lexemes ++ lexemes rest

theorem lexemes_indentedElements {vs : List Value} (h : ∀ v ∈ vs, WritesLexemes v) (d : Nat)
    (rest : Str) :
  lexemes (indentedElements vs d ++ rest) = elementLexemes vs ++ lexemes rest
  := by
  induction vs with
  | nil =>
      rw [indentedElements, List.append_assoc, lexemes_newline, lexemes_rightBracket]
      rfl
  | cons v vs ih =>
      rw [List.forall_mem_cons] at h
      simp only [indentedElements, List.append_assoc]
      rw [lexemes_comma, lexemes_newline, h.1 _ _ (delimited_indentedElements vs d rest),
        ih h.2, elementLexemes, List.cons_append, List.append_assoc]

/-- A key and its value. -/
theorem lexemes_member {key : Str} {v : Value} {ms : List (Str × Value)} (hkey : ValidText key)
    (hv : WritesLexemes v) (d : Nat) (rest : Str)
    (h : lexemes (indentedMembers ms d ++ rest) = memberLexemes ms ++ lexemes rest) :
  lexemes (newline (d + 1) ++ (quoted key ++ (str ":" ++ (str " " ++ (v.indented (d + 1) ++
      (indentedMembers ms d ++ rest))))))
    = .string key :: .colon :: (v.lexemes ++ (memberLexemes ms ++ lexemes rest))
  := by
  rw [lexemes_newline, lexemes_quoted_text hkey, lexemes_colon, lexemes_space,
    hv _ _ (delimited_indentedMembers ms d rest), h]

theorem lexemes_indentedMembers {ms : List (Str × Value)} (hkeys : ∀ m ∈ ms, ValidText m.1)
    (h : ∀ m ∈ ms, WritesLexemes m.2) (d : Nat) (rest : Str) :
  lexemes (indentedMembers ms d ++ rest) = memberLexemes ms ++ lexemes rest
  := by
  induction ms with
  | nil =>
      rw [indentedMembers, List.append_assoc, lexemes_newline, lexemes_rightBrace]
      rfl
  | cons m ms ih =>
      obtain ⟨key, v⟩ := m
      rw [List.forall_mem_cons] at h hkeys
      simp only [indentedMembers, List.append_assoc]
      rw [lexemes_comma, lexemes_member hkeys.1 h.1 d rest (ih hkeys.2 h.2), memberLexemes]
      simp

theorem writesLexemes {n : Nat} {v : Value} (hv : Printable n v) :
  WritesLexemes v
  := by
  induction v using Value.ind generalizing n with
  | null =>
      intro d rest _
      exact lexemes_null rest
  | bool b =>
      intro d rest _
      exact lexemes_formatBool b rest
  | number text =>
      intro d rest hrest
      cases hv with
      | number k => exact lexemes_itoa k hrest
  | string s =>
      intro d rest _
      cases hv with
      | string hs => exact lexemes_quoted_text hs rest
  | array vs ih =>
      intro d rest hrest
      cases hv with
      | array helements =>
          cases vs with
          | nil =>
              rw [Value.indented, List.append_assoc, lexemes_leftBracket, lexemes_rightBracket]
              rfl
          | cons v vs =>
              have hwrites : ∀ w ∈ v :: vs, WritesLexemes w :=
                fun w hw => ih w hw (helements w hw)
              rw [List.forall_mem_cons] at hwrites
              simp only [Value.indented, List.append_assoc]
              rw [lexemes_leftBracket, lexemes_newline,
                hwrites.1 _ _ (delimited_indentedElements vs d rest),
                lexemes_indentedElements hwrites.2, Value.lexemes]
              simp
  | object ms ih =>
      intro d rest hrest
      cases hv with
      | object hkeys hmembers =>
          cases ms with
          | nil =>
              rw [Value.indented, List.append_assoc, lexemes_leftBrace, lexemes_rightBrace]
              rfl
          | cons m ms =>
              obtain ⟨key, v⟩ := m
              have hwrites : ∀ m ∈ (key, v) :: ms, WritesLexemes m.2 :=
                fun m hm => ih m hm (hmembers m hm)
              rw [List.forall_mem_cons] at hwrites hkeys
              simp only [Value.indented, List.append_assoc]
              rw [lexemes_leftBrace, lexemes_member hkeys.1 hwrites.1 d rest
                (lexemes_indentedMembers hkeys.2 hwrites.2 d rest), Value.lexemes]
              simp

/-! ### What is written is parsed -/

/-- The parser recovers a value of that depth from its lexemes. -/
def Parses (n : Nat) (v : Value) : Prop :=
  ∀ depth fuel rest, depth + n ≤ maxNestingDepth → v.lexemes.length ≤ fuel →
    parseValue depth fuel (v.lexemes ++ rest) = some (v, rest)

theorem parseElements_lexemes {n : Nat} {vs : List Value} (h : ∀ v ∈ vs, Parses n v)
    (depth fuel : Nat) (hdepth : depth + n ≤ maxNestingDepth)
    (hfuel : (elementLexemes vs).length ≤ fuel) (rest : List Lexeme) :
  parseElements depth fuel (elementLexemes vs ++ rest) = some (vs, rest)
  := by
  induction vs generalizing fuel with
  | nil =>
      obtain ⟨f, rfl⟩ : ∃ f, fuel = f + 1 := ⟨fuel - 1, by simp [elementLexemes] at hfuel; omega⟩
      rfl
  | cons v vs ih =>
      rw [List.forall_mem_cons] at h
      simp only [elementLexemes, List.length_cons, List.length_append] at hfuel
      obtain ⟨f, rfl⟩ : ∃ f, fuel = f + 1 := ⟨fuel - 1, by omega⟩
      rw [elementLexemes, List.cons_append, List.append_assoc, parseElements,
        h.1 depth f _ hdepth (by omega)]
      simp only [Option.bind_eq_bind, Option.bind_some]
      rw [ih h.2 f (by omega)]
      rfl

theorem parseMembers_lexemes {n : Nat} {ms : List (Str × Value)} (h : ∀ m ∈ ms, Parses n m.2)
    (depth fuel : Nat) (hdepth : depth + n ≤ maxNestingDepth)
    (hfuel : (memberLexemes ms).length ≤ fuel) (rest : List Lexeme) :
  parseMembers depth fuel (memberLexemes ms ++ rest) = some (ms, rest)
  := by
  induction ms generalizing fuel with
  | nil =>
      obtain ⟨f, rfl⟩ : ∃ f, fuel = f + 1 := ⟨fuel - 1, by simp [memberLexemes] at hfuel; omega⟩
      rfl
  | cons m ms ih =>
      obtain ⟨key, v⟩ := m
      rw [List.forall_mem_cons] at h
      simp only [memberLexemes, List.length_cons, List.length_append] at hfuel
      obtain ⟨f, rfl⟩ : ∃ f, fuel = f + 1 := ⟨fuel - 1, by omega⟩
      simp only [memberLexemes, List.cons_append, List.append_assoc]
      have hv : Parses n v := h.1
      rw [parseMembers, hv depth f _ hdepth (by omega)]
      simp only [Option.bind_eq_bind, Option.bind_some]
      rw [ih h.2 f (by omega)]
      rfl

/-- A value does not begin with a closing bracket. -/
theorem lexemes_eq_cons (v : Value) :
  ∃ l ls, v.lexemes = l :: ls ∧ l ≠ .rightBracket
  := by
  cases v with
  | array vs => cases vs <;> exact ⟨_, _, rfl, by simp⟩
  | object ms => cases ms <;> exact ⟨_, _, rfl, by simp⟩
  | _ => exact ⟨_, _, rfl, by simp⟩

theorem parses {n : Nat} {v : Value} (hv : Printable n v) :
  Parses n v
  := by
  induction v using Value.ind generalizing n with
  | array vs ih =>
      intro depth fuel rest hdepth hfuel
      cases hv with
      | array helements =>
          rename_i n
          have hlimit : ¬ depth ≥ maxNestingDepth := by omega
          cases vs with
          | nil =>
              simp only [Value.lexemes, List.length_cons] at hfuel
              obtain ⟨f, rfl⟩ : ∃ f, fuel = f + 1 := ⟨fuel - 1, by omega⟩
              simp only [Value.lexemes, List.cons_append, List.nil_append, parseValue]
              rw [if_neg hlimit]
          | cons v vs =>
              have hparses : ∀ w ∈ v :: vs, Parses n w := fun w hw => ih w hw (helements w hw)
              rw [List.forall_mem_cons] at hparses
              simp only [Value.lexemes, List.length_cons, List.length_append] at hfuel
              obtain ⟨f, rfl⟩ : ∃ f, fuel = f + 1 := ⟨fuel - 1, by omega⟩
              have hfirst := hparses.1 (depth + 1) f (elementLexemes vs ++ rest) (by omega)
                (by omega)
              have hrest := parseElements_lexemes hparses.2 (depth + 1) f (by omega) (by omega) rest
              obtain ⟨l, ls, hv, hl⟩ := lexemes_eq_cons v
              rw [hv, List.cons_append] at hfirst
              rw [Value.lexemes, hv]
              simp only [List.cons_append, List.append_assoc, parseValue]
              rw [if_neg hlimit]
              split
              · rename_i heq
                exact absurd (List.cons.inj heq).1 hl
              · simp only [hfirst, hrest, Option.bind_eq_bind, Option.bind_some, Option.pure_def]
  | object ms ih =>
      intro depth fuel rest hdepth hfuel
      cases hv with
      | object hkeys hmembers =>
          rename_i n
          have hlimit : ¬ depth ≥ maxNestingDepth := by omega
          cases ms with
          | nil =>
              simp only [Value.lexemes, List.length_cons] at hfuel
              obtain ⟨f, rfl⟩ : ∃ f, fuel = f + 1 := ⟨fuel - 1, by omega⟩
              simp only [Value.lexemes, List.cons_append, List.nil_append, parseValue]
              rw [if_neg hlimit]
          | cons m ms =>
              obtain ⟨key, v⟩ := m
              have hparses : ∀ m ∈ (key, v) :: ms, Parses n m.2 :=
                fun m hm => ih m hm (hmembers m hm)
              rw [List.forall_mem_cons] at hparses
              have hv : Parses n v := hparses.1
              simp only [Value.lexemes, List.length_cons, List.length_append] at hfuel
              obtain ⟨f, rfl⟩ : ∃ f, fuel = f + 1 := ⟨fuel - 1, by omega⟩
              have hfirst := hv (depth + 1) f (memberLexemes ms ++ rest) (by omega) (by omega)
              have hrest := parseMembers_lexemes hparses.2 (depth + 1) f (by omega) (by omega) rest
              simp only [Value.lexemes, List.cons_append, List.append_assoc, parseValue]
              rw [if_neg hlimit]
              simp only [hfirst, hrest, Option.bind_eq_bind, Option.bind_some, Option.pure_def]
  | _ =>
      intro depth fuel rest hdepth hfuel
      simp only [Value.lexemes, List.length_cons, List.length_nil] at hfuel
      obtain ⟨f, rfl⟩ : ∃ f, fuel = f + 1 := ⟨fuel - 1, by omega⟩
      rfl

/-- A value that is written, followed by a line break, is read back. -/
theorem parseDocument_marshalIndent {n : Nat} {v : Value} (hv : Printable n v)
    (hn : n ≤ maxNestingDepth) :
  parseDocument (lexemes (marshalIndent v ++ [10])) = some v
  := by
  have hlexemes : lexemes (marshalIndent v ++ [10]) = v.lexemes := by
    rw [marshalIndent, writesLexemes hv 0 [10]]
    · have hend : lexemes [10] = [] := rfl
      rw [hend, List.append_nil]
    · intro b hb
      cases hb
      exact .inl rfl
  have hparse := parses hv 0 v.lexemes.length [] (by omega) le_rfl
  rw [List.append_nil] at hparse
  rw [hlexemes, parseDocument, decodeFirst, hparse]

end Go.Json
