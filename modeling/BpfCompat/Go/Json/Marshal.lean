import BpfCompat.Go.Json.Codec

/-!
# Encoding to one line

The text of a value without any white space between its lexemes.  Strings are written as
they are held, stray bytes included: each becomes the escape of U+FFFD.  Reading the text
back therefore gives the value with its strings cleaned (`parseDocument_compact`), and the
text of the cleaned value is another one.

The value a codec writes is cleaned from the start.  `Marshals` gives it back the strings it
was written from, so that the bytes of its text can be told.
-/

namespace Go.Json

/-! ### The text of a value -/

mutual

/-- A value on one line. -/
def Value.compact : Value → Str
  | .null => str "null"
  | .bool b => formatBool b
  | .number text => text
  | .string s => quoted s
  | .array [] => str "[" ++ str "]"
  | .array (v :: vs) => str "[" ++ v.compact ++ compactElements vs
  | .object [] => str "\x7b" ++ str "\x7d"
  | .object ((key, v) :: ms) =>
    str "\x7b" ++ quoted key ++ str ":" ++ v.compact ++ compactMembers ms

/-- The elements of an array after the first one. -/
def compactElements : List Value → Str
  | [] => str "]"
  | v :: vs => str "," ++ v.compact ++ compactElements vs

/-- The members of an object after the first one. -/
def compactMembers : List (Str × Value) → Str
  | [] => str "\x7d"
  | (key, v) :: ms => str "," ++ quoted key ++ str ":" ++ v.compact ++ compactMembers ms

end

mutual

/-- A value with the stray bytes of its strings replaced. -/
def Value.clean : Value → Value
  | .null => .null
  | .bool b => .bool b
  | .number text => .number text
  | .string s => .string (toValidUTF8 s)
  | .array vs => .array (cleanElements vs)
  | .object ms => .object (cleanMembers ms)

def cleanElements : List Value → List Value
  | [] => []
  | v :: vs => v.clean :: cleanElements vs

def cleanMembers : List (Str × Value) → List (Str × Value)
  | [] => []
  | (key, v) :: ms => (toValidUTF8 key, v.clean) :: cleanMembers ms

end

theorem cleanElements_eq_map (vs : List Value) :
  cleanElements vs = vs.map Value.clean
  := by
  induction vs with
  | nil => rfl
  | cons v vs ih => rw [cleanElements, ih, List.map_cons]

theorem cleanMembers_append (ms ms' : List (Str × Value)) :
  cleanMembers (ms ++ ms') = cleanMembers ms ++ cleanMembers ms'
  := by
  induction ms with
  | nil => rfl
  | cons m ms ih =>
      obtain ⟨key, v⟩ := m
      rw [List.cons_append, cleanMembers, cleanMembers, ih, List.cons_append]

/-! ### What is written is read back -/

theorem delimited_compactElements (vs : List Value) (rest : Str) :
  Delimited (compactElements vs ++ rest)
  := by
  cases vs with
  | nil =>
      have hbracket : str "]" = [93] := by decide
      rw [compactElements, hbracket]
      intro b hb
      cases hb
      exact .inr (.inr (.inl rfl))
  | cons v vs =>
      have hcomma : str "," = [44] := by decide
      rw [compactElements, hcomma]
      intro b hb
      cases hb
      exact .inr (.inl rfl)

theorem delimited_compactMembers (ms : List (Str × Value)) (rest : Str) :
  Delimited (compactMembers ms ++ rest)
  := by
  cases ms with
  | nil =>
      have hbrace : str "\x7d" = [125] := by decide
      rw [compactMembers, hbrace]
      intro b hb
      cases hb
      exact .inr (.inr (.inr rfl))
  | cons m ms =>
      obtain ⟨key, v⟩ := m
      have hcomma : str "," = [44] := by decide
      rw [compactMembers, hcomma]
      intro b hb
      cases hb
      exact .inr (.inl rfl)

/-- The text of a value has the lexemes of the cleaned value. -/
def WritesCleanLexemes (v : Value) : Prop :=
  ∀ rest, Delimited rest → lexemes (v.compact ++ rest) = v.clean.lexemes ++ lexemes rest

theorem lexemes_compactElements {vs : List Value} (h : ∀ v ∈ vs, WritesCleanLexemes v)
    (rest : Str) :
  lexemes (compactElements vs ++ rest) = elementLexemes (cleanElements vs) ++ lexemes rest
  := by
  induction vs with
  | nil =>
      rw [compactElements, lexemes_rightBracket]
      rfl
  | cons v vs ih =>
      rw [List.forall_mem_cons] at h
      simp only [compactElements, List.append_assoc]
      rw [lexemes_comma, h.1 _ (delimited_compactElements vs rest), ih h.2, cleanElements,
        elementLexemes, List.cons_append, List.append_assoc]

theorem lexemes_compactMember {key : Str} {v : Value} {ms : List (Str × Value)}
    (hv : WritesCleanLexemes v) (rest : Str)
    (h : lexemes (compactMembers ms ++ rest)
      = memberLexemes (cleanMembers ms) ++ lexemes rest) :
  lexemes (quoted key ++ (str ":" ++ (v.compact ++ (compactMembers ms ++ rest))))
    = .string (toValidUTF8 key) :: .colon ::
        (v.clean.lexemes ++ (memberLexemes (cleanMembers ms) ++ lexemes rest))
  := by
  rw [lexemes_quoted, lexemes_colon, hv _ (delimited_compactMembers ms rest), h]

theorem lexemes_compactMembers {ms : List (Str × Value)} (h : ∀ m ∈ ms, WritesCleanLexemes m.2)
    (rest : Str) :
  lexemes (compactMembers ms ++ rest) = memberLexemes (cleanMembers ms) ++ lexemes rest
  := by
  induction ms with
  | nil =>
      rw [compactMembers, lexemes_rightBrace]
      rfl
  | cons m ms ih =>
      obtain ⟨key, v⟩ := m
      rw [List.forall_mem_cons] at h
      simp only [compactMembers, List.append_assoc]
      rw [lexemes_comma, lexemes_compactMember h.1 rest (ih h.2), cleanMembers, memberLexemes]
      simp

theorem mem_cleanMembers {ms : List (Str × Value)} {m : Str × Value} (h : m ∈ ms) :
  (toValidUTF8 m.1, m.2.clean) ∈ cleanMembers ms
  := by
  induction ms with
  | nil => cases h
  | cons m' ms ih =>
      obtain ⟨key, v⟩ := m'
      rw [cleanMembers]
      rcases List.mem_cons.mp h with rfl | h
      · exact List.mem_cons_self
      · exact List.mem_cons_of_mem _ (ih h)

theorem writesCleanLexemes {n : Nat} {v : Value} (hv : Printable n v.clean) :
  WritesCleanLexemes v
  := by
  induction v using Value.ind generalizing n with
  | null =>
      intro rest _
      exact lexemes_null rest
  | bool b =>
      intro rest _
      exact lexemes_formatBool b rest
  | number text =>
      intro rest hrest
      rw [Value.clean] at hv
      cases hv with
      | number k => exact lexemes_itoa k hrest
  | string s =>
      intro rest _
      exact lexemes_quoted s rest
  | array vs ih =>
      intro rest hrest
      rw [Value.clean] at hv
      cases hv with
      | array helements =>
          have hwrites : ∀ w ∈ vs, WritesCleanLexemes w := by
            intro w hw
            apply ih w hw (helements w.clean _)
            rw [cleanElements_eq_map]
            apply List.mem_map_of_mem hw
          cases vs with
          | nil =>
              rw [Value.compact, List.append_assoc, lexemes_leftBracket, lexemes_rightBracket]
              rfl
          | cons v vs =>
              rw [List.forall_mem_cons] at hwrites
              simp only [Value.compact, List.append_assoc]
              rw [lexemes_leftBracket, hwrites.1 _ (delimited_compactElements vs rest),
                lexemes_compactElements hwrites.2, Value.clean, cleanElements, Value.lexemes]
              simp
  | object ms ih =>
      intro rest hrest
      rw [Value.clean] at hv
      cases hv with
      | object hkeys hmembers =>
          have hwrites : ∀ m ∈ ms, WritesCleanLexemes m.2 := by
            intro m hm
            apply ih m hm (hmembers _ (mem_cleanMembers hm))
          cases ms with
          | nil =>
              rw [Value.compact, List.append_assoc, lexemes_leftBrace, lexemes_rightBrace]
              rfl
          | cons m ms =>
              obtain ⟨key, v⟩ := m
              rw [List.forall_mem_cons] at hwrites
              simp only [Value.compact, List.append_assoc]
              rw [lexemes_leftBrace, lexemes_compactMember hwrites.1 rest
                (lexemes_compactMembers hwrites.2 rest), Value.clean, cleanMembers, Value.lexemes]
              simp

/-- The text of a value denotes the cleaned value. -/
theorem parseDocument_compact {n : Nat} {v : Value} (hv : Printable n v.clean)
    (hn : n ≤ maxNestingDepth) :
  parseDocument (lexemes v.compact) = some v.clean
  := by
  have hlexemes : lexemes v.compact = v.clean.lexemes := by
    have h := writesCleanLexemes hv [] (by simp [Delimited])
    have hend : lexemes [] = [] := rfl
    rwa [List.append_nil, hend, List.append_nil] at h
  have hparse := parses hv 0 v.clean.lexemes.length [] (by omega) le_rfl
  rw [List.append_nil] at hparse
  rw [hlexemes, parseDocument, decodeFirst, hparse]

/-! ### The text is one line -/

/-- A string without stray bytes and without control characters. -/
def LineText (s : Str) : Prop :=
  ∃ cs : List Char, s = ofRunes (cs.map .char) ∧ ∀ c ∈ cs, 32 ≤ c.toNat

theorem LineText.append {s t : Str} (hs : LineText s) (ht : LineText t) :
  LineText (s ++ t)
  := by
  obtain ⟨cs, rfl, hcs⟩ := hs
  obtain ⟨ds, rfl, hds⟩ := ht
  use cs ++ ds
  constructor
  · rw [List.map_append, ofRunes_append]
  · rw [List.forall_mem_append]
    exact ⟨hcs, hds⟩

/-- No byte of such a text is a control character. -/
theorem LineText.le_of_mem {s : Str} (hs : LineText s) {b : UInt8} (hb : b ∈ s) :
  32 ≤ b.toNat
  := by
  obtain ⟨cs, rfl, hcs⟩ := hs
  rw [ofRunes, List.flatMap_map, List.mem_flatMap] at hb
  obtain ⟨c, hc, hb⟩ := hb
  have hle := hcs c hc
  rcases mem_utf8EncodeChar hb with h | h <;> omega

theorem lineText_ascii {s : Str} (h : ∀ b ∈ s, 32 ≤ b ∧ b < 128) :
  LineText s
  := by
  have hascii : ∀ b ∈ s, b < 128 := fun b hb => (h b hb).2
  use s.map asciiChar
  constructor
  · conv_lhs => rw [← ofRunes_runes s, runes_of_ascii hascii]
    rw [List.map_map]
    rfl
  · rw [List.forall_mem_map]
    intro b hb
    obtain ⟨hlow, hhigh⟩ := h b hb
    have hvalue : (asciiChar b).toNat = b.toNat := by
      have hlt := b.toNat_lt
      rw [asciiChar, Char.toNat_ofNat, if_pos (.inl (by omega))]
    rw [hvalue]
    exact UInt8.le_iff_toNat_le.mp hlow

theorem lineText_quoted (s : Str) :
  LineText (quoted s)
  := by
  have hunicode : ∀ c : Char, ∀ d ∈ unicodeEscape c, 32 ≤ d.toNat := by
    have hhex : ∀ n < 16, 32 ≤ (hexChar n).toNat := by decide
    intro c d hd
    simp only [unicodeEscape, List.mem_cons, List.not_mem_nil, or_false] at hd
    rcases hd with rfl | rfl | rfl | rfl | rfl | rfl
    · decide
    · decide
    all_goals
      apply hhex
      omega
  have hescape : ∀ r, ∀ d ∈ escapeRune r, 32 ≤ d.toNat := by
    intro r d hd
    cases r with
    | bad b => exact hunicode _ d hd
    | char c =>
        rw [escapeRune, escapeChar] at hd
        split_ifs at hd with h₁ h₂ h₃ h₄ h₅ h₆ h₇
        · rcases h₁ with rfl | rfl <;> revert d <;> decide
        all_goals try (revert d; decide)
        · exact hunicode c d hd
        · rw [not_or] at h₇
          rw [List.mem_singleton] at hd
          rw [hd]
          exact Nat.not_lt.mp h₇.1
  use '"' :: ((runes s).flatMap escapeRune ++ ['"'])
  constructor
  · rw [quoted, List.map_cons, List.map_append, ofRunes_cons, ofRunes_append]
    rfl
  · rw [List.forall_mem_cons, List.forall_mem_append, List.forall_mem_singleton]
    refine ⟨by decide, ?_, by decide⟩
    intro d hd
    obtain ⟨r, -, hd⟩ := List.mem_flatMap.mp hd
    exact hescape r d hd

theorem lineText_itoa (n : Int) :
  LineText (itoa n)
  := by
  apply lineText_ascii
  have hdigit : ∀ b ∈ decimal n.natAbs, 32 ≤ b ∧ b < 128 := by
    intro b hb
    have h := isDecimal_of_mem_decimal hb
    rw [isDecimal, Bool.and_eq_true, decide_eq_true_eq, decide_eq_true_eq] at h
    exact ⟨le_trans (by decide) h.1, lt_of_le_of_lt h.2 (by decide)⟩
  rw [itoa]
  split_ifs
  · rw [List.forall_mem_cons]
    exact ⟨by decide, hdigit⟩
  · exact hdigit

theorem lineText_compactElements {vs : List Value} (h : ∀ v ∈ vs, LineText v.compact) :
  LineText (compactElements vs)
  := by
  induction vs with
  | nil => exact lineText_ascii (by decide)
  | cons v vs ih =>
      rw [List.forall_mem_cons] at h
      rw [compactElements]
      exact ((lineText_ascii (by decide)).append h.1).append (ih h.2)

/-- A key and its value, and the colon between them. -/
theorem lineText_member {key : Str} {v : Value} (h : LineText v.compact) :
  LineText (quoted key ++ str ":" ++ v.compact)
  := by
  exact ((lineText_quoted key).append (lineText_ascii (by decide))).append h

/-- The members of an object end with its brace. -/
theorem compactMembers_eq {ms : List (Str × Value)} (h : ∀ m ∈ ms, LineText m.2.compact) :
  ∃ t, LineText t ∧ compactMembers ms = t ++ str "\x7d"
  := by
  induction ms with
  | nil => exact ⟨[], ⟨[], rfl, by simp⟩, rfl⟩
  | cons m ms ih =>
      obtain ⟨key, v⟩ := m
      rw [List.forall_mem_cons] at h
      obtain ⟨t, ht, hms⟩ := ih h.2
      use str "," ++ (quoted key ++ str ":" ++ v.compact) ++ t
      constructor
      · exact ((lineText_ascii (by decide)).append (lineText_member h.1)).append ht
      · simp only [compactMembers, hms, List.append_assoc]

/-- An object stands between its braces. -/
theorem compact_object_eq {ms : List (Str × Value)} (h : ∀ m ∈ ms, LineText m.2.compact) :
  ∃ t, LineText t ∧ (Value.object ms).compact = str "\x7b" ++ t ++ str "\x7d"
  := by
  cases ms with
  | nil => exact ⟨[], ⟨[], rfl, by simp⟩, rfl⟩
  | cons m ms =>
      obtain ⟨key, v⟩ := m
      rw [List.forall_mem_cons] at h
      obtain ⟨t, ht, hms⟩ := compactMembers_eq h.2
      use quoted key ++ str ":" ++ v.compact ++ t
      constructor
      · exact (lineText_member h.1).append ht
      · simp only [Value.compact, hms, List.append_assoc]

theorem lineText_compact {n : Nat} {v : Value} (hv : Printable n v.clean) :
  LineText v.compact
  := by
  induction v using Value.ind generalizing n with
  | null => exact lineText_ascii (by decide)
  | bool b => cases b <;> exact lineText_ascii (by decide)
  | number text =>
      rw [Value.clean] at hv
      cases hv with
      | number k => exact lineText_itoa k
  | string s => exact lineText_quoted s
  | array vs ih =>
      rw [Value.clean] at hv
      cases hv with
      | array helements =>
          have htexts : ∀ w ∈ vs, LineText w.compact := by
            intro w hw
            apply ih w hw (helements w.clean _)
            rw [cleanElements_eq_map]
            apply List.mem_map_of_mem hw
          cases vs with
          | nil => exact lineText_ascii (by decide)
          | cons v vs =>
              rw [List.forall_mem_cons] at htexts
              rw [Value.compact]
              exact ((lineText_ascii (by decide)).append htexts.1).append
                (lineText_compactElements htexts.2)
  | object ms ih =>
      rw [Value.clean] at hv
      cases hv with
      | object hkeys hmembers =>
          obtain ⟨t, ht, hms⟩ := compact_object_eq fun m hm =>
            ih m hm (hmembers _ (mem_cleanMembers hm))
          rw [hms]
          exact ((lineText_ascii (by decide)).append ht).append (lineText_ascii (by decide))

/-- The text of an object has no white space around it. -/
theorem trimSpace_compact_object {n : Nat} {ms : List (Str × Value)}
    (h : Printable n (Value.object ms).clean) :
  trimSpace (Value.object ms).compact = (Value.object ms).compact
  := by
  rw [Value.clean] at h
  cases h with
  | object hkeys hmembers =>
      obtain ⟨t, ⟨cs, rfl, -⟩, hms⟩ := compact_object_eq fun m hm =>
        lineText_compact (hmembers _ (mem_cleanMembers hm))
      have hrunes : runes (Value.object ms).compact
          = (('{' :: (cs ++ ['}'])).map .char) := by
        have hleft : str "\x7b" = ofRunes [.char '{'] := by decide
        have hright : str "\x7d" = ofRunes [.char '}'] := by decide
        have htext : (Value.object ms).compact
            = ofRunes (('\x7b' :: (cs ++ ['\x7d'])).map .char) := by
          rw [hms, hleft, hright, ← ofRunes_append, ← ofRunes_append, List.map_cons,
            List.map_append, List.append_assoc]
          rfl
        rw [htext, runes_ofRunes_char]
      apply runes_injective
      rw [runes_trimSpace, hrunes]
      have hopen : isSpace '{' = false := by decide
      have hclose : isSpace '}' = false := by decide
      simp [trimBoth, Rune.value, hopen, hclose]

/-! ### The length of the text -/

/-- The bytes members take, each with a separator. -/
def membersLength (ms : List (Str × Value)) : Nat :=
  (ms.map fun m => (quoted m.1).length + m.2.compact.length + 2).sum

theorem membersLength_append (ms ms' : List (Str × Value)) :
  membersLength (ms ++ ms') = membersLength ms + membersLength ms'
  := by
  rw [membersLength, List.map_append, List.sum_append, membersLength, membersLength]

theorem length_compactMembers (ms : List (Str × Value)) :
  (compactMembers ms).length = membersLength ms + 1
  := by
  have hbrace : (str "\x7d").length = 1 := by decide
  have hcomma : (str ",").length = 1 := by decide
  have hcolon : (str ":").length = 1 := by decide
  induction ms with
  | nil => rw [compactMembers, hbrace, membersLength, List.map_nil, List.sum_nil]
  | cons m ms ih =>
      obtain ⟨key, v⟩ := m
      rw [membersLength] at ih
      rw [compactMembers, membersLength, List.map_cons, List.sum_cons]
      simp only [List.length_append, ih, hcomma, hcolon]
      omega

theorem length_compact_object {ms : List (Str × Value)} (h : ms ≠ []) :
  (Value.object ms).compact.length = membersLength ms + 1
  := by
  obtain ⟨⟨key, v⟩, ms, rfl⟩ := List.exists_cons_of_ne_nil h
  have hbrace : (str "\x7b").length = 1 := by decide
  have hcolon : (str ":").length = 1 := by decide
  rw [Value.compact, membersLength, List.map_cons, List.sum_cons]
  simp only [List.length_append, length_compactMembers, hbrace, hcolon, membersLength]
  omega

/-! ### A bound on the length of a text -/

theorem length_ofRunes_escapeRune_le (r : Rune) :
  (ofRunes ((escapeRune r).map .char)).length ≤ 24
  := by
  have hchars : ∀ cs : List Char, (ofRunes (cs.map .char)).length ≤ 4 * cs.length := by
    intro cs
    induction cs with
    | nil => exact le_rfl
    | cons c cs ih =>
        have hc : (Rune.char c).bytes.length ≤ 4 := by
          rw [Rune.bytes, String.length_utf8EncodeChar]
          exact c.utf8Size_le_four
        rw [List.map_cons, ofRunes_cons, List.length_append, List.length_cons]
        omega
  have hsix : (escapeRune r).length ≤ 6 := by
    cases r with
    | char c =>
        rw [escapeRune]
        unfold escapeChar unicodeEscape
        split_ifs <;> simp
    | bad b => exact le_rfl
  have h := hchars (escapeRune r)
  omega

/-- A string literal is not much longer than what it is for. -/
theorem length_quoted_le (s : Str) :
  (quoted s).length ≤ 24 * s.length + 2
  := by
  have hrunes : ∀ rs : List Rune,
      (ofRunes ((rs.flatMap escapeRune).map .char)).length ≤ 24 * rs.length := by
    intro rs
    induction rs with
    | nil => exact le_rfl
    | cons r rs ih =>
        have hr := length_ofRunes_escapeRune_le r
        rw [List.flatMap_cons, List.map_append, ofRunes_append, List.length_append,
          List.length_cons]
        omega
  have hbody := hrunes (runes s)
  have hlength : (runes s).length ≤ s.length := by
    have h := length_le_ofRunes (runes s)
    rwa [ofRunes_runes] at h
  rw [quoted, List.length_cons, List.length_append, List.length_singleton]
  omega

mutual

/-- A bound on the length of the text of a value. -/
def Value.bound : Value → Nat
  | .null => 4
  | .bool _ => 5
  | .number text => text.length
  | .string s => 24 * s.length + 2
  | .array vs => elementsBound vs + 2
  | .object ms => membersBound ms + 2

def elementsBound : List Value → Nat
  | [] => 0
  | v :: vs => v.bound + 1 + elementsBound vs

def membersBound : List (Str × Value) → Nat
  | [] => 0
  | (key, v) :: ms => 24 * key.length + v.bound + 4 + membersBound ms

end

theorem length_compactElements_le {vs : List Value} (h : ∀ v ∈ vs, v.compact.length ≤ v.bound) :
  (compactElements vs).length ≤ elementsBound vs + 1
  := by
  have hbracket : (str "]").length = 1 := by decide
  have hcomma : (str ",").length = 1 := by decide
  induction vs with
  | nil => rw [compactElements, elementsBound, hbracket]
  | cons v vs ih =>
      rw [List.forall_mem_cons] at h
      have hvs := ih h.2
      have hv := h.1
      rw [compactElements, elementsBound, List.length_append, List.length_append, hcomma]
      omega

theorem membersLength_le {ms : List (Str × Value)} (h : ∀ m ∈ ms, m.2.compact.length ≤ m.2.bound) :
  membersLength ms ≤ membersBound ms
  := by
  induction ms with
  | nil => exact le_rfl
  | cons m ms ih =>
      obtain ⟨key, v⟩ := m
      rw [List.forall_mem_cons] at h
      have hms := ih h.2
      have hv := h.1
      have hkey := length_quoted_le key
      rw [membersLength] at hms
      rw [membersLength, List.map_cons, List.sum_cons, membersBound]
      dsimp only at hv ⊢
      omega

/-- The text of a value is within its bound. -/
theorem length_compact_le (v : Value) :
  v.compact.length ≤ v.bound
  := by
  induction v using Value.ind with
  | null => decide
  | bool b => cases b <;> decide
  | number text => exact le_rfl
  | string s =>
      rw [Value.compact, Value.bound]
      apply length_quoted_le
  | array vs ih =>
      have hbracket : (str "[").length = 1 := by decide
      cases vs with
      | nil => decide
      | cons v vs =>
          rw [List.forall_mem_cons] at ih
          have hvs := length_compactElements_le ih.2
          have hv := ih.1
          rw [Value.compact, Value.bound, elementsBound, List.length_append, List.length_append,
            hbracket]
          omega
  | object ms ih =>
      cases ms with
      | nil => decide
      | cons m ms =>
          have hms := membersLength_le ih
          rw [length_compact_object (List.cons_ne_nil _ _), Value.bound]
          omega

/-! ### Plain texts -/

/-- An ASCII character a string literal holds as it is. -/
def isPlain (b : UInt8) : Bool :=
  32 < b && b < 127 && b != 34 && b != 38 && b != 60 && b != 62 && b != 92

theorem escapeChar_of_isPlain {b : UInt8} (h : isPlain b = true) :
  escapeChar (asciiChar b) = [asciiChar b]
  := by
  have key : ∀ n : Fin 128, isPlain (UInt8.ofNat n) = true →
      escapeChar (Char.ofNat n) = [Char.ofNat n] := by decide +kernel
  have hlt : b < 127 := by
    simp only [isPlain, Bool.and_eq_true, decide_eq_true_eq] at h
    exact h.1.1.1.1.1.2
  have hb := key ⟨b.toNat, lt_trans (UInt8.lt_iff_toNat_lt.mp hlt) (by decide)⟩
  rw [UInt8.ofNat_toNat] at hb
  exact hb h

/-- The literal of a plain text is the text between quotes. -/
theorem length_quoted_plain {s : Str} (h : ∀ b ∈ s, isPlain b = true) :
  (quoted s).length = s.length + 2
  := by
  have hascii : ∀ b ∈ s, b < 128 := by
    intro b hb
    have hplain := h b hb
    simp only [isPlain, Bool.and_eq_true, decide_eq_true_eq] at hplain
    exact lt_trans hplain.1.1.1.1.1.2 (by decide)
  have hescape : ((runes s).flatMap escapeRune).map .char = runes s := by
    rw [runes_of_ascii hascii, List.flatMap_map]
    clear hascii
    induction s with
    | nil => rfl
    | cons b s ih =>
        rw [List.forall_mem_cons] at h
        rw [List.flatMap_cons, escapeRune, escapeChar_of_isPlain h.1, List.singleton_append,
          List.map_cons, ih h.2, List.map_cons]
  rw [quoted, hescape, ofRunes_runes, List.length_cons, List.length_append, List.length_singleton]

/-! ### Codecs -/

variable [UnicodeTables]

/-- The value a codec writes, before its strings are cleaned. -/
class Marshals {α : Type} (c : Codec α) where
  raw : α → Value
  clean_raw : ∀ x, (raw x).clean = c.write x

/-- The members fields write, before their strings are cleaned. -/
class MarshalsFields {α : Type} (f : Fields α) where
  raw : α → List (Str × Value)
  clean_raw : ∀ x, cleanMembers (raw x) = f.write x

instance marshalsString : Marshals string where
  raw := .string
  clean_raw _ := rfl

instance marshalsInt64 : Marshals int64 where
  raw := int64.write
  clean_raw _ := rfl

section

variable {α β : Type}

instance marshalsSlice (c : Codec α) [Marshals c] : Marshals (slice c) where
  raw xs := .array (xs.map (Marshals.raw c))
  clean_raw xs := by
    rw [Value.clean, cleanElements_eq_map, List.map_map]
    have h : Value.clean ∘ Marshals.raw c = c.write := by
      funext x
      apply Marshals.clean_raw
    rw [h]
    rfl

omit [UnicodeTables] in
theorem toValidUTF8_str (s : String) :
  toValidUTF8 (str s) = str s
  := by
  obtain ⟨cs, hcs⟩ := validText_str s
  rw [hcs, toValidUTF8, runes_ofRunes_char, List.map_map]
  rfl

theorem cleanMembers_singleton (name : String) (c : Codec α) [Marshals c] (x : α) :
  cleanMembers [(str name, Marshals.raw c x)] = [(str name, c.write x)]
  := by
  rw [cleanMembers, cleanMembers, toValidUTF8_str, Marshals.clean_raw]

instance marshalsField (name : String) (c : Codec α) [Marshals c] :
    MarshalsFields (Fields.field name c) where
  raw x := [(str name, Marshals.raw c x)]
  clean_raw x := cleanMembers_singleton name c x

instance marshalsOmitempty (name : String) (c : Codec α) [Marshals c] :
    MarshalsFields (Fields.omitempty name c) where
  raw x := if c.isEmpty x then [] else [(str name, Marshals.raw c x)]
  clean_raw x := by
    show cleanMembers _ = if c.isEmpty x then [] else [(str name, c.write x)]
    split_ifs with h
    · rfl
    · apply cleanMembers_singleton

instance marshalsPair (f : Fields α) (g : Fields β) [MarshalsFields f] [MarshalsFields g] :
    MarshalsFields (f.pair g) where
  raw x := MarshalsFields.raw f x.1 ++ MarshalsFields.raw g x.2
  clean_raw x := by
    rw [cleanMembers_append, MarshalsFields.clean_raw, MarshalsFields.clean_raw]
    rfl

theorem membersLength_pair (f : Fields α) (g : Fields β) [MarshalsFields f] [MarshalsFields g]
    (x : α × β) :
  membersLength (MarshalsFields.raw (f.pair g) x)
    = membersLength (MarshalsFields.raw f x.1) + membersLength (MarshalsFields.raw g x.2)
  := membersLength_append _ _

instance marshalsStruct (f : Fields β) [MarshalsFields f] (e : α ≃ β) (h : f.names.Nodup) :
    Marshals (struct f e h) where
  raw x := .object (MarshalsFields.raw f (e x))
  clean_raw x := by
    rw [Value.clean, MarshalsFields.clean_raw]
    rfl

/-- The text of a value of the type of the codec. -/
def marshal (c : Codec α) [Marshals c] (x : α) : Str := (Marshals.raw c x).compact

theorem printable_raw (c : Codec α) [Marshals c] (x : α) :
  Printable c.depth (Marshals.raw c x).clean
  := by
  rw [Marshals.clean_raw]
  apply c.printable

/-- What was written is decoded to what survives. -/
theorem decode_marshal (c : Codec α) [Marshals c] (hc : c.depth ≤ maxNestingDepth) (x : α) :
  (parseDocument (lexemes (marshal c x))).bind c.decode = some (c.canon x)
  := by
  rw [marshal, parseDocument_compact (printable_raw c x) hc, Option.bind_some, Marshals.clean_raw,
    Codec.decode, c.read_write]

omit [UnicodeTables] in
theorem toValidUTF8_of_validText {s : Str} (h : ValidText s) :
  toValidUTF8 s = s
  := by
  obtain ⟨cs, rfl⟩ := h
  rw [toValidUTF8, runes_ofRunes_char, List.map_map]
  rfl

omit [UnicodeTables] in
theorem validText_ite {p : Prop} [Decidable p] {x y : Option Lexeme × Str}
    (hx : ∀ s, x.1 = some (.string s) → ValidText s)
    (hy : ∀ s, y.1 = some (.string s) → ValidText s) :
  ∀ s, (if p then x else y).1 = some (.string s) → ValidText s
  := by
  split_ifs
  · exact hx
  · exact hy

omit [UnicodeTables] in
theorem validText_nextLexeme (b : UInt8) (t : Str) :
  ∀ s, (nextLexeme b t).1 = some (.string s) → ValidText s
  := by
  rw [nextLexeme]
  iterate 7 refine validText_ite (fun s h => by cases h) ?_
  refine validText_ite ?_ ?_
  · intro s h
    split at h
    · cases h
      exact ⟨_, rfl⟩
    · cases h
  · iterate 3 refine validText_ite (fun s h => by cases h) ?_
    intro s h
    split at h <;> cases h

omit [UnicodeTables] in
/-- A string of a document has no stray bytes. -/
theorem validText_of_mem_lexemes {blob s : Str} (h : .string s ∈ lexemes blob) :
  ValidText s
  := by
  rw [lexemes] at h
  generalize blob.length = fuel at h
  induction fuel generalizing blob with
  | zero => cases h
  | succ fuel ih =>
      cases blob with
      | nil => cases h
      | cons b t =>
          rw [lexemesFrom, List.mem_append, Option.mem_toList] at h
          rcases h with h | h
          · exact validText_nextLexeme b t s h
          · exact ih h

omit [UnicodeTables] in
/-- The strings of a value are among its lexemes. -/
theorem clean_eq_self {v : Value} (h : ∀ s, .string s ∈ v.lexemes → ValidText s) :
  v.clean = v
  := by
  have helements : ∀ vs : List Value, (∀ v ∈ vs, (∀ s, .string s ∈ v.lexemes → ValidText s) →
      v.clean = v) → (∀ s, .string s ∈ elementLexemes vs → ValidText s) →
        cleanElements vs = vs := by
    intro vs ih h
    induction vs with
    | nil => rfl
    | cons v vs ihs =>
        rw [List.forall_mem_cons] at ih
        simp only [elementLexemes, List.mem_cons, List.mem_append, reduceCtorEq, false_or] at h
        rw [cleanElements, ih.1 fun s hs => h s (.inl hs), ihs ih.2 fun s hs => h s (.inr hs)]
  have hmembers : ∀ ms : List (Str × Value),
      (∀ m ∈ ms, (∀ s, .string s ∈ m.2.lexemes → ValidText s) → m.2.clean = m.2) →
        (∀ s, .string s ∈ memberLexemes ms → ValidText s) → cleanMembers ms = ms := by
    intro ms ih h
    induction ms with
    | nil => rfl
    | cons m ms ihs =>
        obtain ⟨key, v⟩ := m
        rw [List.forall_mem_cons] at ih
        simp only [memberLexemes, List.mem_cons, List.mem_append, reduceCtorEq, false_or,
          Lexeme.string.injEq] at h
        rw [cleanMembers, toValidUTF8_of_validText (h key (.inl rfl)),
          ih.1 fun s hs => h s (.inr (.inl hs)), ihs ih.2 fun s hs => h s (.inr (.inr hs))]
  induction v using Value.ind with
  | null => rfl
  | bool b => rfl
  | number text => rfl
  | string s => rw [Value.clean, toValidUTF8_of_validText (h s (by simp [Value.lexemes]))]
  | array vs ih =>
      rw [Value.clean]
      cases vs with
      | nil => rfl
      | cons v vs =>
          rw [List.forall_mem_cons] at ih
          simp only [Value.lexemes, List.mem_cons, List.mem_append, reduceCtorEq, false_or] at h
          rw [cleanElements, ih.1 fun s hs => h s (.inl hs),
            helements vs ih.2 fun s hs => h s (.inr hs)]
  | object ms ih =>
      rw [Value.clean]
      cases ms with
      | nil => rfl
      | cons m ms =>
          obtain ⟨key, v⟩ := m
          rw [List.forall_mem_cons] at ih
          simp only [Value.lexemes, List.mem_cons, List.mem_append, reduceCtorEq, false_or,
            Lexeme.string.injEq] at h
          rw [cleanMembers, toValidUTF8_of_validText (h key (.inl rfl)),
            ih.1 fun s hs => h s (.inr (.inl hs)), hmembers ms ih.2 fun s hs => h s (.inr (.inr hs))]

omit [UnicodeTables] in
/-- A value that was parsed is clean. -/
theorem clean_of_parseDocument {blob : Str} {v : Value}
    (h : parseDocument (lexemes blob) = some v) :
  v.clean = v
  := by
  apply clean_eq_self
  intro s hs
  rw [← parseDocument_sound h] at hs
  apply validText_of_mem_lexemes hs

/-- Decoding a clean value gives a value that survives. -/
class Settles (c : Codec α) : Prop where
  canon_zero : c.canon c.zero = c.zero
  canon_read : ∀ v x y, v.clean = v → c.canon x = x → c.read v x = some y → c.canon y = y

class SettlesFields (f : Fields α) : Prop where
  canon_zero : f.canon f.zero = f.zero
  canon_read : ∀ all ms x y, cleanMembers ms = ms → f.canon x = x → f.read all ms x = some y →
    f.canon y = y

instance settlesString : Settles string where
  canon_zero := rfl
  canon_read v x y hv hx h := by
    cases v with
    | null =>
        cases h
        exact hx
    | string s =>
        cases h
        apply Value.string.inj hv
    | _ => cases h

instance settlesInt64 : Settles int64 where
  canon_zero := rfl
  canon_read _ _ _ _ _ _ := rfl

instance settlesSlice (c : Codec α) [Settles c] : Settles (slice c) where
  canon_zero := rfl
  canon_read v x y hv hx h := by
    have helements : ∀ (vs : List Value) (xs ys : List α), cleanElements vs = vs →
        xs.map c.canon = xs → readElements c.zero c.read vs xs = some ys →
          ys.map c.canon = ys := by
      intro vs
      induction vs with
      | nil =>
          intro xs ys _ _ h
          cases h
          rfl
      | cons v vs ih =>
          intro xs ys hvs hxs h
          rw [cleanElements] at hvs
          obtain ⟨hv, hvs⟩ := List.cons.inj hvs
          simp only [readElements, Option.bind_eq_bind, Option.bind_eq_some_iff] at h
          obtain ⟨y, hy, zs, hzs, h⟩ := h
          cases h
          have htail : xs.tail.map c.canon = xs.tail := by
            rw [List.map_tail, hxs]
          have hhead : c.canon (xs.headD c.zero) = xs.headD c.zero := by
            cases xs with
            | nil => apply Settles.canon_zero
            | cons x xs => apply (List.cons.inj hxs).1
          rw [List.map_cons, Settles.canon_read v _ y hv hhead hy, ih _ zs hvs htail hzs]
    cases v with
    | null =>
        cases h
        rfl
    | array vs =>
        rw [Value.clean] at hv
        exact helements vs x y (Value.array.inj hv) hx h
    | _ => cases h

/-- Folding over clean members keeps a value that survives. -/
theorem canon_readField {c : Codec α} [Settles c] {all : List Str} {name : Str}
    {ms : List (Str × Value)} {x y : α} (hms : cleanMembers ms = ms) (hx : c.canon x = x)
    (h : readField all ms name c.read x = some y) :
  c.canon y = y
  := by
  induction ms generalizing x with
  | nil =>
      cases h
      exact hx
  | cons m ms ih =>
      obtain ⟨key, v⟩ := m
      rw [cleanMembers] at hms
      obtain ⟨hm, hms⟩ := List.cons.inj hms
      rw [readField_cons, Option.bind_eq_some_iff] at h
      obtain ⟨z, hz, h⟩ := h
      apply ih hms _ h
      split_ifs at hz
      · exact Settles.canon_read v x z (Prod.mk.inj hm).2 hx hz
      · cases hz
        exact hx

instance settlesField (name : String) (c : Codec α) [Settles c] :
    SettlesFields (Fields.field name c) where
  canon_zero := Settles.canon_zero (c := c)
  canon_read _ _ _ _ hms hx h := canon_readField hms hx h

instance settlesOmitempty (name : String) (c : Codec α) [Settles c] :
    SettlesFields (Fields.omitempty name c) where
  canon_zero := Settles.canon_zero (c := c)
  canon_read _ _ _ _ hms hx h := canon_readField hms hx h

instance settlesPair (f : Fields α) (g : Fields β) [SettlesFields f] [SettlesFields g] :
    SettlesFields (f.pair g) where
  canon_zero := Prod.ext SettlesFields.canon_zero SettlesFields.canon_zero
  canon_read all ms x y hms hx h := by
    obtain ⟨hx₁, hx₂⟩ := Prod.mk.inj hx
    simp only [Fields.pair, Option.bind_eq_bind, Option.bind_eq_some_iff] at h
    obtain ⟨a, ha, b, hb, h⟩ := h
    cases h
    apply Prod.ext
    · exact SettlesFields.canon_read all ms _ a hms hx₁ ha
    · exact SettlesFields.canon_read all ms _ b hms hx₂ hb

instance settlesStruct (f : Fields β) [SettlesFields f] (e : α ≃ β) (hnames : f.names.Nodup) :
    Settles (struct f e hnames) where
  canon_zero := by
    show e.symm (f.canon (e (e.symm f.zero))) = e.symm f.zero
    rw [Equiv.apply_symm_apply, SettlesFields.canon_zero]
  canon_read v x y hv hx h := by
    cases v with
    | null =>
        cases h
        exact hx
    | object ms =>
        rw [Value.clean] at hv
        have hmap : (f.read f.names ms (e x)).map e.symm = some y := h
        rw [Option.map_eq_some_iff] at hmap
        obtain ⟨z, hz, rfl⟩ := hmap
        have hx' : f.canon (e x) = e x := by
          apply e.symm.injective
          rw [Equiv.symm_apply_apply]
          exact hx
        show e.symm (f.canon (e (e.symm z))) = e.symm z
        rw [Equiv.apply_symm_apply,
          SettlesFields.canon_read f.names ms _ z (Value.object.inj hv) hx' hz]
    | _ => cases h

/-- What is decoded from a text survives. -/
theorem canon_of_decode (c : Codec α) [Settles c] {blob : Str} {x : α}
    (h : (parseDocument (lexemes blob)).bind c.decode = some x) :
  c.canon x = x
  := by
  rw [Option.bind_eq_some_iff] at h
  obtain ⟨v, hv, h⟩ := h
  exact Settles.canon_read v c.zero x (clean_of_parseDocument hv) Settles.canon_zero h

end

end Go.Json
