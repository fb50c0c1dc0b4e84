import BpfCompat.Go.Strings

/-!
# JSON documents

A document is read in two steps: its bytes are split into lexemes, and the lexemes are
parsed into a value whose objects keep their members in the order of the document.
Strings are read as the program sees them, with escapes resolved and stray bytes replaced
by U+FFFD; numbers keep their text.

The parser is sound: what it consumes are the lexemes of the value it returns
(`parse_sound`).
-/

namespace Go.Json

/-- A JSON value. -/
inductive Value where
  | null
  | bool (b : Bool)
  | number (text : Str)
  | string (s : Str)
  | array (elements : List Value)
  | object (members : List (Str × Value))

/-- Induction on values. -/
theorem Value.ind {P : Value → Prop} (null : P .null) (bool : ∀ b, P (.bool b))
    (number : ∀ text, P (.number text)) (string : ∀ s, P (.string s))
    (array : ∀ vs, (∀ v ∈ vs, P v) → P (.array vs))
    (object : ∀ ms, (∀ m ∈ ms, P m.2) → P (.object ms)) (v : Value) :
  P v
  := by
  cases v with
  | null => exact null
  | bool b => exact bool b
  | number text => exact number text
  | string s => exact string s
  | array vs =>
      apply array
      intro v hv
      have := List.sizeOf_lt_of_mem hv
      exact Value.ind null bool number string array object v
  | object ms =>
      apply object
      intro m hm
      have := List.sizeOf_lt_of_mem hm
      have : sizeOf m.2 < sizeOf m := by
        cases m
        simp
      exact Value.ind null bool number string array object m.2
termination_by sizeOf v

/-- The lexemes of a document; `invalid` stands for bytes that form none. -/
inductive Lexeme where
  | null
  | bool (b : Bool)
  | number (text : Str)
  | string (s : Str)
  | leftBracket
  | rightBracket
  | leftBrace
  | rightBrace
  | colon
  | comma
  | invalid
deriving DecidableEq

/-! ### Strings -/

/-- The value of a hexadecimal digit. -/
def hexValue (c : Char) : Option Nat :=
  if '0' ≤ c ∧ c ≤ '9' then some (c.toNat - '0'.toNat)
  else if 'a' ≤ c ∧ c ≤ 'f' then some (c.toNat - 'a'.toNat + 10)
  else if 'A' ≤ c ∧ c ≤ 'F' then some (c.toNat - 'A'.toNat + 10)
  else none

/-- The number four hexadecimal digits denote. -/
def hexValue4 : List Char → Option Nat
  | [a, b, c, d] => do
    let a ← hexValue a
    let b ← hexValue b
    let c ← hexValue c
    let d ← hexValue d
    return 4096 * a + 256 * b + 16 * c + d
  | _ => none

/-- The character of a one-letter escape. -/
def escaped (c : Char) : Option Char :=
  if c = '"' ∨ c = '\\' ∨ c = '/' then some c
  else if c = 'b' then some '\x08'
  else if c = 'f' then some '\x0c'
  else if c = 'n' then some '\n'
  else if c = 'r' then some '\r'
  else if c = 't' then some '\t'
  else none

/-- The UTF-16 code unit an escape at the head of the text denotes. -/
def codeUnit : List Rune → Option (Nat × List Rune)
  | .char '\\' :: .char 'u' :: .char a :: .char b :: .char c :: .char d :: rest =>
    (hexValue4 [a, b, c, d]).map fun n => (n, rest)
  | _ => none

/-- The code point of a surrogate pair. -/
def surrogatePair (high low : Nat) : Option Nat :=
  if 0xD800 ≤ high ∧ high < 0xDC00 ∧ 0xDC00 ≤ low ∧ low < 0xE000 then
    some (0x10000 + (high - 0xD800) * 0x400 + (low - 0xDC00))
  else none

/-- The rest of a string literal: what it denotes, and what follows the closing quote.
An unpaired surrogate and a stray byte denote U+FFFD. -/
def stringBody : Nat → List Rune → Option (List Char × List Rune)
  | 0, _ => none
  | _, [] => none
  | _ + 1, .char '"' :: rest => some ([], rest)
  | fuel + 1, .char '\\' :: rest =>
    match codeUnit (.char '\\' :: rest) with
    | some (n, rest) =>
      match (codeUnit rest).bind fun (low, rest) =>
          (surrogatePair n low).map fun c => (c, rest) with
      | some (c, rest) => (stringBody fuel rest).map fun (s, rest) => (Char.ofNat c :: s, rest)
      | none =>
        let c := if 0xD800 ≤ n ∧ n < 0xE000 then '\uFFFD' else Char.ofNat n
        (stringBody fuel rest).map fun (s, rest) => (c :: s, rest)
    | none =>
      match rest with
      | .char c :: rest => do
        let c ← escaped c
        let (s, rest) ← stringBody fuel rest
        return (c :: s, rest)
      | _ => none
  | fuel + 1, .char c :: rest =>
    if c.toNat < 0x20 then none
    else (stringBody fuel rest).map fun (s, rest) => (c :: s, rest)
  | fuel + 1, .bad _ :: rest => (stringBody fuel rest).map fun (s, rest) => ('\uFFFD' :: s, rest)

/-! ### Numbers and the other lexemes -/

/-- One or more digits. -/
def digits (s : Str) : Option (Str × Str) :=
  let d := s.takeWhile isDecimal
  if d = [] then none else some (d, s.dropWhile isDecimal)

/-- The integer part of a number. -/
def integerPart (s : Str) : Option (Str × Str) :=
  match s with
  | 48 :: rest => some ([48], rest)
  | _ => digits s

/-- The fraction of a number, if there is one. -/
def fractionPart (s : Str) : Option (Str × Str) :=
  match s with
  | 46 :: rest => (digits rest).map fun (d, rest) => (46 :: d, rest)
  | _ => some ([], s)

/-- The exponent of a number, if there is one. -/
def exponentPart (s : Str) : Option (Str × Str) :=
  match s with
  | e :: rest =>
    if e = 101 ∨ e = 69 then
      match rest with
      | 43 :: rest => (digits rest).map fun (d, rest) => (e :: 43 :: d, rest)
      | 45 :: rest => (digits rest).map fun (d, rest) => (e :: 45 :: d, rest)
      | _ => (digits rest).map fun (d, rest) => (e :: d, rest)
    else some ([], s)
  | [] => some ([], [])

/-- The sign of a number, if there is one. -/
def signPart (s : Str) : Str × Str :=
  match s with
  | 45 :: rest => ([45], rest)
  | _ => ([], s)

/-- A number and what follows it. -/
def number (s : Str) : Option (Str × Str) := do
  let (sign, s) := signPart s
  let (i, s) ← integerPart s
  let (f, s) ← fractionPart s
  let (e, s) ← exponentPart s
  return (sign ++ i ++ f ++ e, s)

/-- What a text that begins with the given byte begins with, absent for white space, and
the text after it.  Nothing follows bytes that form no lexeme. -/
def nextLexeme (b : UInt8) (s : Str) : Option Lexeme × Str :=
  if b = 0x20 ∨ b = 0x09 ∨ b = 0x0A ∨ b = 0x0D then (none, s)
  else if b = '['.toUInt8 then (some .leftBracket, s)
  else if b = ']'.toUInt8 then (some .rightBracket, s)
  else if b = '{'.toUInt8 then (some .leftBrace, s)
  else if b = '}'.toUInt8 then (some .rightBrace, s)
  else if b = ':'.toUInt8 then (some .colon, s)
  else if b = ','.toUInt8 then (some .comma, s)
  else if b = '"'.toUInt8 then
    match stringBody (s.length + 1) (runes s) with
    | some (c, rest) => (some (.string (ofRunes (c.map .char))), ofRunes rest)
    | none => (some .invalid, [])
  else if (str "null").isPrefixOf (b :: s) then (some .null, s.drop 3)
  else if (str "true").isPrefixOf (b :: s) then (some (.bool true), s.drop 3)
  else if (str "false").isPrefixOf (b :: s) then (some (.bool false), s.drop 4)
  else
    match number (b :: s) with
    | some (text, rest) => (some (.number text), rest)
    | none => (some .invalid, [])

/-- The lexemes of a text. -/
def lexemesFrom : Nat → Str → List Lexeme
  | 0, _ => []
  | _, [] => []
  | fuel + 1, b :: s => (nextLexeme b s).1.toList ++ lexemesFrom fuel (nextLexeme b s).2

/-- The lexemes of a document. -/
def lexemes (blob : Str) : List Lexeme := lexemesFrom blob.length blob

theorem codeUnit_suffix {rs rest : List Rune} {n : Nat} (h : codeUnit rs = some (n, rest)) :
  rest <:+ rs
  := by
  unfold codeUnit at h
  split at h
  · rw [Option.map_eq_some_iff] at h
    obtain ⟨_, _, h⟩ := h
    obtain ⟨-, rfl⟩ := Prod.mk.inj h
    exact List.suffix_append [_, _, _, _, _, _] _
  · cases h

theorem rest_of_map_cons {o : Option (List Char × List Rune)} {c : Char} {cs : List Char}
    {rest : List Rune} (h : (o.map fun (s, rest) => (c :: s, rest)) = some (cs, rest)) :
  ∃ cs', o = some (cs', rest)
  := by
  rw [Option.map_eq_some_iff] at h
  obtain ⟨⟨cs', rest'⟩, ho, h⟩ := h
  obtain ⟨-, rfl⟩ := Prod.mk.inj h
  exact ⟨cs', ho⟩

/-- What follows a string literal is a final part of the text. -/
theorem stringBody_suffix {fuel : Nat} {rs rest : List Rune} {cs : List Char}
    (h : stringBody fuel rs = some (cs, rest)) :
  rest <:+ rs
  := by
  fun_induction stringBody fuel rs generalizing cs rest with
  | case1 => cases h
  | case2 => cases h
  | case3 =>
      obtain ⟨-, rfl⟩ := Prod.mk.inj (Option.some.inj h)
      exact List.suffix_cons _ _
  | case4 fuel rest₀ n rest₁ hunit c rest₂ hpair ih =>
      obtain ⟨cs', h⟩ := rest_of_map_cons h
      simp only [Option.bind_eq_some_iff, Option.map_eq_some_iff, Prod.exists] at hpair
      obtain ⟨low, rest', hlow, _, _, hpair⟩ := hpair
      obtain ⟨-, rfl⟩ := Prod.mk.inj hpair
      exact (ih h).trans ((codeUnit_suffix hlow).trans (codeUnit_suffix hunit))
  | case5 fuel rest₀ n rest₁ hunit _ c =>
      rename_i ih
      obtain ⟨cs', h⟩ := rest_of_map_cons h
      exact (ih h).trans (codeUnit_suffix hunit)
  | case6 fuel c rest₀ _ ih =>
      simp only [Option.bind_eq_bind, Option.bind_eq_some_iff, Prod.exists] at h
      obtain ⟨c', -, cs', rest', hbody, h⟩ := h
      obtain ⟨-, rfl⟩ := Prod.mk.inj (Option.some.inj h)
      exact (ih hbody).trans (List.suffix_append [_, _] _)
  | case7 => cases h
  | case8 => cases h
  | case9 fuel c rest₀ _ _ _ ih =>
      obtain ⟨cs', h⟩ := rest_of_map_cons h
      exact (ih h).trans (List.suffix_cons _ _)
  | case10 fuel b rest₀ ih =>
      obtain ⟨cs', h⟩ := rest_of_map_cons h
      exact (ih h).trans (List.suffix_cons _ _)

theorem digits_append {s d rest : Str} (h : digits s = some (d, rest)) :
  s = d ++ rest ∧ d ≠ []
  := by
  simp only [digits] at h
  split_ifs at h with hd
  obtain ⟨rfl, rfl⟩ := Prod.mk.inj (Option.some.inj h)
  exact ⟨List.takeWhile_append_dropWhile.symm, hd⟩

theorem length_of_digits {s d rest : Str} (h : digits s = some (d, rest)) :
  rest.length < s.length
  := by
  obtain ⟨rfl, hd⟩ := digits_append h
  have := List.length_pos_iff.mpr hd
  rw [List.length_append]
  omega

theorem length_of_map_digits {s t rest : Str} {f : Str × Str → Str × Str}
    (h : (digits s).map f = some (t, rest)) (hf : ∀ p, (f p).2 = p.2) :
  rest.length < s.length
  := by
  rw [Option.map_eq_some_iff] at h
  obtain ⟨p, hp, h⟩ := h
  have hrest : rest = p.2 := by rw [← hf p, h]
  rw [hrest]
  exact length_of_digits hp

theorem length_of_integerPart {s t rest : Str} (h : integerPart s = some (t, rest)) :
  rest.length < s.length
  := by
  unfold integerPart at h
  split at h
  · obtain ⟨-, rfl⟩ := Prod.mk.inj (Option.some.inj h)
    exact Nat.lt_succ_self _
  · exact length_of_digits h

theorem length_of_fractionPart {s t rest : Str} (h : fractionPart s = some (t, rest)) :
  rest.length ≤ s.length
  := by
  unfold fractionPart at h
  split at h
  · exact (length_of_map_digits h fun _ => rfl).le.trans (Nat.le_succ _)
  · obtain ⟨-, rfl⟩ := Prod.mk.inj (Option.some.inj h)
    exact le_rfl

theorem length_of_exponentPart {s t rest : Str} (h : exponentPart s = some (t, rest)) :
  rest.length ≤ s.length
  := by
  unfold exponentPart at h
  split at h
  · split_ifs at h with he
    · split at h
      · have := length_of_map_digits h fun _ => rfl
        simp only [List.length_cons]
        omega
      · have := length_of_map_digits h fun _ => rfl
        simp only [List.length_cons]
        omega
      · exact (length_of_map_digits h fun _ => rfl).le.trans (Nat.le_succ _)
    · obtain ⟨-, rfl⟩ := Prod.mk.inj (Option.some.inj h)
      exact le_rfl
  · obtain ⟨-, rfl⟩ := Prod.mk.inj (Option.some.inj h)
    exact le_rfl

theorem length_of_number {s t rest : Str} (h : number s = some (t, rest)) :
  rest.length < s.length
  := by
  have hsign : (signPart s).2.length ≤ s.length := by
    unfold signPart
    split
    · exact Nat.le_succ _
    · exact le_rfl
  simp only [number, Option.bind_eq_bind, Option.bind_eq_some_iff, Prod.exists] at h
  obtain ⟨i, s₁, hi, f, s₂, hf, e, s₃, he, h⟩ := h
  obtain ⟨-, rfl⟩ := Prod.mk.inj (Option.some.inj h)
  have h₁ := length_of_integerPart hi
  have h₂ := length_of_fractionPart hf
  have h₃ := length_of_exponentPart he
  omega

theorem length_ite {p : Prop} [Decidable p] {x y : Option Lexeme × Str} {n : Nat}
    (hx : x.2.length ≤ n) (hy : y.2.length ≤ n) :
  (if p then x else y).2.length ≤ n
  := by
  by_cases hp : p
  · rw [if_pos hp]
    exact hx
  · rw [if_neg hp]
    exact hy

theorem length_nextLexeme (b : UInt8) (s : Str) :
  (nextLexeme b s).2.length ≤ s.length
  := by
  have hstring : (match stringBody (s.length + 1) (runes s) with
      | some (c, rest) => (some (Lexeme.string (ofRunes (c.map .char))), ofRunes rest)
      | none => (some .invalid, [])).2.length ≤ s.length := by
    split
    · rename_i cs rest hbody
      obtain ⟨pre, hpre⟩ := stringBody_suffix hbody
      have hs := congrArg List.length (ofRunes_runes s)
      rw [← hpre, ofRunes_append, List.length_append] at hs
      simp only
      omega
    · exact Nat.zero_le _
  have hnumber : (match number (b :: s) with
      | some (text, rest) => (some (Lexeme.number text), rest)
      | none => (some .invalid, [])).2.length ≤ s.length := by
    split
    · rename_i text rest hnumber
      exact Nat.le_of_lt_succ (length_of_number hnumber)
    · exact Nat.zero_le _
  have hdrop : ∀ n, (s.drop n).length ≤ s.length := by simp
  rw [nextLexeme]
  exact length_ite le_rfl (length_ite le_rfl (length_ite le_rfl (length_ite le_rfl
    (length_ite le_rfl (length_ite le_rfl (length_ite le_rfl (length_ite hstring
    (length_ite (hdrop 3) (length_ite (hdrop 3) (length_ite (hdrop 4) hnumber))))))))))

/-- The lexemes do not depend on the fuel. -/
theorem lexemesFrom_eq {fuel : Nat} {s : Str} (h : s.length ≤ fuel) :
  lexemesFrom fuel s = lexemes s
  := by
  rw [lexemes]
  induction hn : s.length using Nat.strong_induction_on generalizing fuel s with
  | _ n ih =>
      subst hn
      cases s with
      | nil =>
          cases fuel with
          | zero => rfl
          | succ => rfl
      | cons b s =>
          obtain ⟨f, rfl⟩ : ∃ f, fuel = f + 1 := ⟨fuel - 1, by simp at h; omega⟩
          rw [List.length_cons] at h
          have hlen := length_nextLexeme b s
          rw [List.length_cons, lexemesFrom, lexemesFrom,
            ih _ (by rw [List.length_cons]; omega) (by omega) rfl,
            ih _ (by rw [List.length_cons]; omega) hlen rfl]

theorem lexemes_cons (b : UInt8) (s : Str) :
  lexemes (b :: s) = (nextLexeme b s).1.toList ++ lexemes (nextLexeme b s).2
  := by
  rw [lexemes, List.length_cons, lexemesFrom, lexemesFrom_eq (length_nextLexeme b s)]

/-! ### Parsing -/

/-- How deep the decoder lets a value nest. -/
def maxNestingDepth : Nat := 10000

mutual

/-- The value at the head of the lexemes, inside `depth` arrays and objects. -/
def parseValue (depth : Nat) : Nat → List Lexeme → Option (Value × List Lexeme)
  | 0, _ => none
  | _ + 1, .null :: rest => some (.null, rest)
  | _ + 1, .bool b :: rest => some (.bool b, rest)
  | _ + 1, .number text :: rest => some (.number text, rest)
  | _ + 1, .string s :: rest => some (.string s, rest)
  | fuel + 1, .leftBracket :: rest =>
    if depth ≥ maxNestingDepth then none
    else
      match rest with
      | .rightBracket :: rest => some (.array [], rest)
      | rest => do
        let (v, rest) ← parseValue (depth + 1) fuel rest
        let (vs, rest) ← parseElements (depth + 1) fuel rest
        return (.array (v :: vs), rest)
  | fuel + 1, .leftBrace :: rest =>
    if depth ≥ maxNestingDepth then none
    else
      match rest with
      | .rightBrace :: rest => some (.object [], rest)
      | .string key :: .colon :: rest => do
        let (v, rest) ← parseValue (depth + 1) fuel rest
        let (ms, rest) ← parseMembers (depth + 1) fuel rest
        return (.object ((key, v) :: ms), rest)
      | _ => none
  | _ + 1, _ => none

/-- The elements of an array after the first one. -/
def parseElements (depth : Nat) : Nat → List Lexeme → Option (List Value × List Lexeme)
  | 0, _ => none
  | _ + 1, .rightBracket :: rest => some ([], rest)
  | fuel + 1, .comma :: rest => do
    let (v, rest) ← parseValue depth fuel rest
    let (vs, rest) ← parseElements depth fuel rest
    return (v :: vs, rest)
  | _ + 1, _ => none

/-- The members of an object after the first one. -/
def parseMembers (depth : Nat) : Nat → List Lexeme → Option (List (Str × Value) × List Lexeme)
  | 0, _ => none
  | _ + 1, .rightBrace :: rest => some ([], rest)
  | fuel + 1, .comma :: .string key :: .colon :: rest => do
    let (v, rest) ← parseValue depth fuel rest
    let (ms, rest) ← parseMembers depth fuel rest
    return ((key, v) :: ms, rest)
  | _ + 1, _ => none

end

/-- The first value of a document, and the lexemes after it. -/
def decodeFirst (ls : List Lexeme) : Option (Value × List Lexeme) :=
  parseValue 0 ls.length ls

/-- The value of a document that consists of one value. -/
def parseDocument (ls : List Lexeme) : Option Value :=
  match decodeFirst ls with
  | some (v, []) => some v
  | _ => none

mutual

/-- The lexemes of a value. -/
def Value.lexemes : Value → List Lexeme
  | .null => [.null]
  | .bool b => [.bool b]
  | .number text => [.number text]
  | .string s => [.string s]
  | .array [] => [.leftBracket, .rightBracket]
  | .array (v :: vs) => .leftBracket :: (v.lexemes ++ elementLexemes vs)
  | .object [] => [.leftBrace, .rightBrace]
  | .object ((key, v) :: ms) =>
    .leftBrace :: .string key :: .colon :: (v.lexemes ++ memberLexemes ms)

/-- The lexemes of the elements of an array after the first one. -/
def elementLexemes : List Value → List Lexeme
  | [] => [.rightBracket]
  | v :: vs => .comma :: (v.lexemes ++ elementLexemes vs)

/-- The lexemes of the members of an object after the first one. -/
def memberLexemes : List (Str × Value) → List Lexeme
  | [] => [.rightBrace]
  | (key, v) :: ms => .comma :: .string key :: .colon :: (v.lexemes ++ memberLexemes ms)

end

theorem length_lexemes_pos (v : Value) :
  0 < v.lexemes.length
  := by
  cases v with
  | array vs => cases vs <;> simp [Value.lexemes]
  | object ms => cases ms <;> simp [Value.lexemes]
  | _ => simp [Value.lexemes]

/-- What the parser consumes are the lexemes of what it returns. -/
theorem parse_sound (fuel : Nat) :
  (∀ depth ls v rest, parseValue depth fuel ls = some (v, rest) → ls = v.lexemes ++ rest) ∧
  (∀ depth ls vs rest, parseElements depth fuel ls = some (vs, rest) →
    ls = elementLexemes vs ++ rest) ∧
  (∀ depth ls ms rest, parseMembers depth fuel ls = some (ms, rest) →
    ls = memberLexemes ms ++ rest)
  := by
  induction fuel with
  | zero =>
      refine ⟨?_, ?_, ?_⟩
      · intro depth ls v rest h
        simp [parseValue] at h
      · intro depth ls v rest h
        simp [parseElements] at h
      · intro depth ls v rest h
        simp [parseMembers] at h
  | succ fuel ih =>
      obtain ⟨ihv, ihe, ihm⟩ := ih
      refine ⟨?_, ?_, ?_⟩
      · intro depth ls v rest h
        unfold parseValue at h
        split at h
        · cases h
        · obtain ⟨rfl, rfl⟩ := Prod.mk.inj (Option.some.inj h)
          rfl
        · obtain ⟨rfl, rfl⟩ := Prod.mk.inj (Option.some.inj h)
          rfl
        · obtain ⟨rfl, rfl⟩ := Prod.mk.inj (Option.some.inj h)
          rfl
        · obtain ⟨rfl, rfl⟩ := Prod.mk.inj (Option.some.inj h)
          rfl
        · -- an array
          rename_i hfuel
          obtain rfl := Nat.succ.inj hfuel
          split_ifs at h
          split at h
          · obtain ⟨rfl, rfl⟩ := Prod.mk.inj (Option.some.inj h)
            rfl
          · simp only [Option.bind_eq_bind, Option.bind_eq_some_iff, Prod.exists] at h
            obtain ⟨v₁, rest₁, h₁, vs, rest₂, h₂, h⟩ := h
            obtain ⟨rfl, rfl⟩ := Prod.mk.inj (Option.some.inj h)
            rw [ihv _ _ _ _ h₁, ihe _ _ _ _ h₂]
            simp [Value.lexemes]
        · -- an object
          rename_i hfuel
          obtain rfl := Nat.succ.inj hfuel
          split_ifs at h
          split at h
          · obtain ⟨rfl, rfl⟩ := Prod.mk.inj (Option.some.inj h)
            rfl
          · simp only [Option.bind_eq_bind, Option.bind_eq_some_iff, Prod.exists] at h
            obtain ⟨v₁, rest₁, h₁, ms, rest₂, h₂, h⟩ := h
            obtain ⟨rfl, rfl⟩ := Prod.mk.inj (Option.some.inj h)
            rw [ihv _ _ _ _ h₁, ihm _ _ _ _ h₂]
            simp [Value.lexemes]
          · cases h
        · cases h
      · intro depth ls vs rest h
        unfold parseElements at h
        split at h
        · cases h
        · obtain ⟨rfl, rfl⟩ := Prod.mk.inj (Option.some.inj h)
          rfl
        · rename_i hfuel
          obtain rfl := Nat.succ.inj hfuel
          simp only [Option.bind_eq_bind, Option.bind_eq_some_iff, Prod.exists] at h
          obtain ⟨v₁, rest₁, h₁, vs, rest₂, h₂, h⟩ := h
          obtain ⟨rfl, rfl⟩ := Prod.mk.inj (Option.some.inj h)
          rw [ihv _ _ _ _ h₁, ihe _ _ _ _ h₂]
          simp [elementLexemes]
        · cases h
      · intro depth ls ms rest h
        unfold parseMembers at h
        split at h
        · cases h
        · obtain ⟨rfl, rfl⟩ := Prod.mk.inj (Option.some.inj h)
          rfl
        · rename_i hfuel
          obtain rfl := Nat.succ.inj hfuel
          simp only [Option.bind_eq_bind, Option.bind_eq_some_iff, Prod.exists] at h
          obtain ⟨v₁, rest₁, h₁, ms, rest₂, h₂, h⟩ := h
          obtain ⟨rfl, rfl⟩ := Prod.mk.inj (Option.some.inj h)
          rw [ihv _ _ _ _ h₁, ihm _ _ _ _ h₂]
          simp [memberLexemes]
        · cases h

/-- The lexemes of a document that was parsed are those of its value. -/
theorem parseDocument_sound {ls : List Lexeme} {v : Value} (h : parseDocument ls = some v) :
  ls = v.lexemes
  := by
  rw [parseDocument] at h
  split at h
  · rename_i v' hfirst
    cases h
    simpa using (parse_sound _).1 _ _ _ _ hfirst
  · cases h

end Go.Json
