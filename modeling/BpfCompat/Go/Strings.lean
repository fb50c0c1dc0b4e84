import BpfCompat.Go.Utf8

/-!
# Text

The part of the standard library that reads and writes text: trimming, case mapping and
folding, decimal numbers, and the verbs of formatted messages.  The Unicode tables are a
parameter; white space, which is a short list, is written out.

A string whose stray bytes were replaced by U+FFFD reads as the original does, for every
function here that looks for ASCII text.
-/

namespace Go

/-! ### Unicode -/

/-- The orbits of the ASCII letters. -/
def asciiOrbits : List (List Char) :=
  [['K', 'k', '\u212A'], ['S', 's', '\u017F'], ['A', 'a'], ['B', 'b'], ['C', 'c'], ['D', 'd'],
    ['E', 'e'], ['F', 'f'], ['G', 'g'], ['H', 'h'], ['I', 'i'], ['J', 'j'], ['L', 'l'],
    ['M', 'm'], ['N', 'n'], ['O', 'o'], ['P', 'p'], ['Q', 'q'], ['R', 'r'], ['T', 't'],
    ['U', 'u'], ['V', 'v'], ['W', 'w'], ['X', 'x'], ['Y', 'y'], ['Z', 'z']]

/-- The orbit of an ASCII code point. -/
def asciiOrbit (c : Char) : List Char := (asciiOrbits.find? (c ∈ ·)).getD [c]

/-- The Unicode tables text functions consult.  The orbit of a code point lists the code
points equivalent to it under simple case folding. -/
class UnicodeTables where
  isLetter : Char → Bool
  isDigit : Char → Bool
  isPrint : Char → Bool
  toLower : Char → Char
  orbit : Char → List Char
  mem_orbit : ∀ c, c ∈ orbit c
  orbit_eq : ∀ c, ∀ d ∈ orbit c, orbit d = orbit c
  orbit_ascii : ∀ c, c.toNat < 128 → orbit c = asciiOrbit c

/-- White space as Unicode defines it. -/
def isSpace (c : Char) : Bool :=
  let n := c.toNat
  (0x09 ≤ n && n ≤ 0x0D) || n == 0x20 || n == 0x85 || n == 0xA0 || n == 0x1680 ||
    (0x2000 ≤ n && n ≤ 0x200A) || n == 0x2028 || n == 0x2029 || n == 0x202F || n == 0x205F ||
    n == 0x3000

/-- The tables restricted to ASCII, with the two code points outside ASCII that fold to
ASCII letters. -/
@[reducible] def asciiTables : UnicodeTables where
  isLetter := Char.isAlpha
  isDigit := Char.isDigit
  isPrint c := 0x20 ≤ c.toNat && c.toNat < 0x7F
  toLower := Char.toLower
  orbit := asciiOrbit
  mem_orbit c := by
    rw [asciiOrbit]
    cases h : asciiOrbits.find? (c ∈ ·) with
    | none => simp
    | some o => simpa using List.find?_some h
  orbit_eq c d hd := by
    have key : ∀ o ∈ asciiOrbits, ∀ e ∈ o, asciiOrbits.find? (e ∈ ·) = some o := by decide +kernel
    rw [asciiOrbit] at hd ⊢
    rw [asciiOrbit]
    cases h : asciiOrbits.find? (c ∈ ·) with
    | none =>
        simp only [h, Option.getD_none, List.mem_singleton] at hd
        rw [hd, h]
    | some o =>
        simp only [h, Option.getD_some] at hd
        rw [key o (List.mem_of_find?_eq_some h) d hd]
        rfl
  orbit_ascii _ _ := rfl

/-! ### Trimming -/

/-- A list without the elements satisfying `p` at its two ends. -/
def trimBoth {α : Type*} (p : α → Bool) (l : List α) : List α :=
  ((l.dropWhile p).reverse.dropWhile p).reverse

/-- Trimming takes only elements satisfying `p` from the ends of a list. -/
theorem trimBoth_split {α : Type*} (p : α → Bool) (l : List α) :
  ∃ a b, l = a ++ (trimBoth p l ++ b) ∧ (∀ x ∈ a, p x = true) ∧ ∀ x ∈ b, p x = true
  := by
  refine ⟨l.takeWhile p, ((l.dropWhile p).reverse.takeWhile p).reverse, ?_, ?_, ?_⟩
  · rw [trimBoth, ← List.reverse_append, List.takeWhile_append_dropWhile, List.reverse_reverse,
      List.takeWhile_append_dropWhile]
  · intro x hx
    exact List.mem_takeWhile_imp hx
  · intro x hx
    exact List.mem_takeWhile_imp (List.mem_reverse.mp hx)

/-- A trimmed list is a middle part of the list. -/
theorem trimBoth_infix {α : Type*} (p : α → Bool) (l : List α) :
  ∃ a b, l = a ++ (trimBoth p l ++ b)
  := by
  obtain ⟨a, b, h, -⟩ := trimBoth_split p l
  exact ⟨a, b, h⟩

theorem trimBoth_map {α β : Type*} (f : α → β) (p : β → Bool) (l : List α) :
  trimBoth p (l.map f) = (trimBoth (p ∘ f) l).map f
  := by
  simp only [trimBoth, List.dropWhile_map, ← List.map_reverse]

/-- Trimming removes every element satisfying `p` at either end. -/
theorem trimBoth_trimBoth {α : Type*} (p : α → Bool) (l : List α) :
  trimBoth p (trimBoth p l) = trimBoth p l
  := by
  -- an initial part of a list that begins outside `p` begins outside `p`
  have hhead : (trimBoth p l).dropWhile p = trimBoth p l := by
    have hpre : trimBoth p l <+: l.dropWhile p := by
      rw [← List.reverse_suffix, trimBoth, List.reverse_reverse]
      apply List.dropWhile_suffix
    obtain ⟨b, hb⟩ := hpre
    cases ht : trimBoth p l with
    | nil => rfl
    | cons a t =>
        have ha : p a = false := by
          have hne : l.dropWhile p ≠ [] := by simp [← hb, ht]
          have := List.head_dropWhile_not p hne
          simpa [← hb, ht] using this
        rw [List.dropWhile_cons_of_neg (by simp [ha])]
  have hdd : ∀ m : List α, (m.dropWhile p).dropWhile p = m.dropWhile p := by
    intro m
    induction m with
    | nil => rfl
    | cons a m ih =>
        by_cases ha : p a
        · rw [List.dropWhile_cons_of_pos ha, ih]
        · rw [List.dropWhile_cons_of_neg ha, List.dropWhile_cons_of_neg ha]
  have hlast : (trimBoth p l).reverse.dropWhile p = (trimBoth p l).reverse := by
    rw [trimBoth, List.reverse_reverse, hdd]
  conv_lhs => rw [trimBoth, hhead, hlast, List.reverse_reverse]

/-- A string without its leading and trailing white space. -/
def trimSpace (s : Str) : Str :=
  ofRunes (trimBoth (fun r => isSpace r.value) (runes s))

theorem runes_trimSpace (s : Str) :
  runes (trimSpace s) = trimBoth (fun r => isSpace r.value) (runes s)
  := by
  obtain ⟨a, b, h⟩ := trimBoth_infix (fun r => isSpace r.value) (runes s)
  have hsuf := runes_ofRunes_of_suffix a h
  apply runes_ofRunes_of_prefix hsuf

@[simp]
theorem trimSpace_trimSpace (s : Str) :
  trimSpace (trimSpace s) = trimSpace s
  := by
  apply runes_injective
  rw [runes_trimSpace, runes_trimSpace, trimBoth_trimBoth]

@[simp]
theorem trimSpace_nil :
  trimSpace [] = []
  := rfl

/-- Trimming takes neither letters nor digits nor signs from a string. -/
theorem trimSpace_split (s : Str) :
  ∃ before after, s = before ++ (trimSpace s ++ after) ∧
    ∀ b ∈ before ++ after, b < 33 ∨ 128 ≤ b
  := by
  obtain ⟨before, after, hparts, hbefore, hafter⟩ :=
    trimBoth_split (fun r => isSpace r.value) (runes s)
  refine ⟨ofRunes before, ofRunes after, ?_, ?_⟩
  · conv_lhs => rw [← ofRunes_runes s, hparts, ofRunes_append, ofRunes_append]
    rfl
  · intro b hb
    have hrune : ∃ r : Rune, isSpace r.value = true ∧ b ∈ r.bytes := by
      rcases List.mem_append.mp hb with hb | hb
      · obtain ⟨r, hr, hb⟩ := List.mem_flatMap.mp hb
        exact ⟨r, hbefore r hr, hb⟩
      · obtain ⟨r, hr, hb⟩ := List.mem_flatMap.mp hb
        exact ⟨r, hafter r hr, hb⟩
    obtain ⟨r, hspace, hb⟩ := hrune
    cases r with
    | bad b' =>
        have hbad : isSpace '\uFFFD' = false := by decide
        rw [Rune.value, hbad] at hspace
        cases hspace
    | char c =>
        have hlt := b.toNat_lt
        rw [UInt8.lt_iff_toNat_lt, UInt8.le_iff_toNat_le]
        show b.toNat < 33 ∨ 128 ≤ b.toNat
        rcases mem_utf8EncodeChar hb with heq | ⟨hhigh, -⟩
        · simp only [Rune.value, isSpace] at hspace
          grind
        · exact .inr hhigh

theorem mem_of_mem_trimSpace {b : UInt8} {s : Str} (h : b ∈ trimSpace s) :
  b ∈ s
  := by
  obtain ⟨before, after, hs, -⟩ := trimSpace_split s
  rw [hs]
  apply List.mem_append_right
  apply List.mem_append_left
  exact h

theorem length_trimSpace_le (s : Str) :
  (trimSpace s).length ≤ s.length
  := by
  obtain ⟨before, after, hs, -⟩ := trimSpace_split s
  have hlength := congrArg List.length hs
  rw [List.length_append, List.length_append] at hlength
  omega

/-- Trimming and replacing stray bytes commute: a stray byte is not white space, and
neither is U+FFFD. -/
theorem trimSpace_toValidUTF8 (s : Str) :
  trimSpace (toValidUTF8 s) = toValidUTF8 (trimSpace s)
  := by
  apply runes_injective
  rw [runes_trimSpace, runes_toValidUTF8, runes_toValidUTF8, runes_trimSpace, trimBoth_map]
  rfl

/-- A list is left as it is when no element satisfies `p`. -/
theorem trimBoth_of_forall_not {α : Type*} {p : α → Bool} {l : List α} (h : ∀ a ∈ l, p a = false) :
  trimBoth p l = l
  := by
  have hdrop : ∀ m : List α, (∀ a ∈ m, p a = false) → m.dropWhile p = m := by
    intro m hm
    cases m with
    | nil => rfl
    | cons a m => rw [List.dropWhile_cons_of_neg (by simp [hm a])]
  rw [trimBoth, hdrop l h, hdrop l.reverse (by simpa using h), List.reverse_reverse]

theorem runes_of_ascii {s : Str} (h : ∀ b ∈ s, b < 128) :
  runes s = s.map fun b => .char (asciiChar b)
  := by
  induction s with
  | nil => rfl
  | cons b s ih =>
      rw [List.forall_mem_cons] at h
      rw [runes_ascii_cons h.1, ih h.2, List.map_cons]

/-- A visible ASCII character is not white space. -/
theorem isSpace_asciiChar {b : UInt8} (hlow : 32 < b) (hhigh : b < 127) :
  isSpace (asciiChar b) = false
  := by
  have hvalue : (asciiChar b).toNat = b.toNat := by
    rw [asciiChar, Char.toNat_ofNat, if_pos]
    have hlt := b.toNat_lt
    exact .inl (by omega)
  rw [UInt8.lt_iff_toNat_lt] at hlow hhigh
  have hlow' : 32 < b.toNat := hlow
  have hhigh' : b.toNat < 127 := hhigh
  simp only [isSpace, hvalue, Bool.or_eq_false_iff, Bool.and_eq_false_iff, decide_eq_false_iff_not,
    beq_eq_false_iff_ne]
  omega

/-- Text of visible ASCII characters has no white space to remove. -/
theorem trimSpace_of_graphic {s : Str} (h : ∀ b ∈ s, 32 < b ∧ b < 127) :
  trimSpace s = s
  := by
  have hascii : ∀ b ∈ s, b < 128 := fun b hb => lt_trans (h b hb).2 (by decide)
  apply runes_injective
  rw [runes_trimSpace]
  apply trimBoth_of_forall_not
  rw [runes_of_ascii hascii, List.forall_mem_map]
  intro b hb
  apply isSpace_asciiChar (h b hb).1 (h b hb).2

/-- The line break after visible text is white space to remove. -/
theorem trimSpace_graphic_append_lf {s : Str} (h : ∀ b ∈ s, 32 < b ∧ b < 127) :
  trimSpace (s ++ [10]) = s
  := by
  have hascii : ∀ b ∈ s, b < 128 := fun b hb => lt_trans (h b hb).2 (by decide)
  have hrunes : runes (s ++ [10]) = runes s ++ [.char '\n'] := by
    rw [runes_of_ascii hascii, runes_of_ascii]
    · rw [List.map_append]
      rfl
    · rw [List.forall_mem_append, List.forall_mem_singleton]
      exact ⟨hascii, by decide⟩
  have hspace : ∀ r ∈ runes s, isSpace r.value = false := by
    rw [runes_of_ascii hascii, List.forall_mem_map]
    intro b hb
    apply isSpace_asciiChar (h b hb).1 (h b hb).2
  have hlf : isSpace (Rune.char '\n').value = true := by decide
  apply runes_injective
  rw [runes_trimSpace, hrunes]
  cases hs : runes s with
  | nil => simp [trimBoth, hlf]
  | cons r rs =>
      rw [hs] at hspace
      have hr := hspace r List.mem_cons_self
      have htrim := trimBoth_of_forall_not hspace
      rw [trimBoth, List.dropWhile_cons_of_neg (by simp [hr])] at htrim
      rw [trimBoth, List.cons_append, List.dropWhile_cons_of_neg (by simp [hr]),
        ← List.cons_append, List.reverse_append, List.reverse_singleton, List.singleton_append,
        List.dropWhile_cons_of_pos (by simp [hlf])]
      exact htrim

/-- Trimming leaves a list alone that begins with a trimmed part and ends outside `p`. -/
theorem trimBoth_append {α : Type*} {p : α → Bool} {l m : List α} (hl : trimBoth p l = l)
    (hl' : l ≠ []) (hm : ∀ a ∈ m, p a = false) (hm' : m ≠ []) :
  trimBoth p (l ++ m) = l ++ m
  := by
  have hdrop : l.dropWhile p = l := by
    apply (List.dropWhile_suffix p).eq_of_length_le
    calc l.length = (trimBoth p l).length := by rw [hl]
      _ ≤ (l.dropWhile p).length := by
        rw [trimBoth, List.length_reverse, ← @List.length_reverse _ (l.dropWhile p)]
        exact (List.dropWhile_suffix p).length_le
  have hhead : ∀ n : List α, (l ++ n).dropWhile p = l ++ n := by
    intro n
    obtain ⟨a, l, rfl⟩ := List.exists_cons_of_ne_nil hl'
    have ha : ¬ p a = true := by
      intro ha
      rw [List.dropWhile_cons_of_pos ha] at hdrop
      have hle := (List.dropWhile_suffix (l := l) p).length_le
      rw [hdrop, List.length_cons] at hle
      omega
    rw [List.cons_append, List.dropWhile_cons_of_neg ha]
  have hlast : (l ++ m).reverse.dropWhile p = (l ++ m).reverse := by
    have hne : m.reverse ≠ [] := by simpa using hm'
    obtain ⟨a, n, hn⟩ := List.exists_cons_of_ne_nil hne
    have ha : p a = false := by
      apply hm
      rw [← List.mem_reverse, hn]
      exact List.mem_cons_self
    rw [List.reverse_append, hn, List.cons_append, List.dropWhile_cons_of_neg (by simp [ha])]
  rw [trimBoth, hhead, hlast, List.reverse_reverse]

/-- The runes of a text without stray bytes do not depend on what follows it. -/
theorem runes_append_of_valid {s : Str} (h : toValidUTF8 s = s) (t : Str) :
  runes (s ++ t) = runes s ++ runes t
  := by
  have hchars : ∀ cs : List Char, runes (ofRunes (cs.map .char) ++ t)
      = cs.map .char ++ runes t := by
    intro cs
    induction cs with
    | nil => rfl
    | cons c cs ih =>
        rw [List.map_cons, ofRunes_cons, List.append_assoc]
        show runes (String.utf8EncodeChar c ++ _) = _
        rw [runes_encode_append, ih, List.cons_append]
  have hs : s = ofRunes (((runes s).map Rune.value).map .char) := by
    rw [List.map_map]
    exact h.symm
  have hruns := hchars ((runes s).map Rune.value)
  rw [← hs] at hruns
  rw [hruns]
  congr 1
  conv_rhs => rw [hs, runes_ofRunes_char]

theorem toValidUTF8_append_of_valid {s : Str} (h : toValidUTF8 s = s) (t : Str) :
  toValidUTF8 (s ++ t) = s ++ toValidUTF8 t
  := by
  conv_rhs => rw [← h]
  rw [toValidUTF8, runes_append_of_valid h, List.map_append, ofRunes_append]
  rfl

/-- A visible text after a trimmed one without stray bytes is not trimmed. -/
theorem trimSpace_append_graphic {s t : Str} (hs : toValidUTF8 s = s) (htrim : trimSpace s = s)
    (hs' : s ≠ []) (ht : ∀ b ∈ t, 32 < b ∧ b < 127) (ht' : t ≠ []) :
  trimSpace (s ++ t) = s ++ t
  := by
  have hascii : ∀ b ∈ t, b < 128 := by
    intro b hb
    exact lt_trans (ht b hb).2 (by decide)
  have hrunes : runes s ≠ [] := by
    intro hnil
    apply hs'
    rw [← ofRunes_runes s, hnil, ofRunes_nil]
  have hown : trimBoth (fun r => isSpace r.value) (runes s) = runes s := by
    rw [← runes_trimSpace, htrim]
  rw [trimSpace, runes_append_of_valid hs, trimBoth_append hown hrunes, ofRunes_append,
    ofRunes_runes, ofRunes_runes]
  · rw [runes_of_ascii hascii, List.forall_mem_map]
    intro b hb
    exact isSpace_asciiChar (ht b hb).1 (ht b hb).2
  · rw [runes_of_ascii hascii]
    simpa using ht'

/-! ### Replacing stray bytes -/

/-- The first byte of a string is left as it is when it is ASCII, and is replaced by a
byte outside ASCII otherwise. -/
theorem toValidUTF8_cons (b : UInt8) (s : Str) :
  (b < 128 ∧ toValidUTF8 (b :: s) = b :: toValidUTF8 s) ∨
    (¬ b < 128 ∧ ∃ b' s', toValidUTF8 (b :: s) = b' :: s' ∧ ¬ b' < 128)
  := by
  by_cases hb : b < 128
  · left
    exact ⟨hb, toValidUTF8_ascii_cons hb s⟩
  · right
    use hb
    cases hc : firstChar? (b :: s) with
    | some c =>
        have hs := eq_encode_append_of_firstChar? hc
        cases he : String.utf8EncodeChar c with
        | nil =>
            have hlen := String.length_utf8EncodeChar c
            have hpos := c.utf8Size_pos
            rw [he, List.length_nil] at hlen
            omega
        | cons b' t =>
            have hb' : b = b' := by
              rw [he, List.cons_append] at hs
              apply (List.cons.inj hs).1
            use b', t ++ toValidUTF8 ((b :: s).drop c.utf8Size)
            constructor
            · conv_lhs => rw [hs, toValidUTF8_encode_append, he, List.cons_append]
            · rw [← hb']
              exact hb
    | none =>
        use 0xEF, [0xBF, 0xBD] ++ toValidUTF8 s, toValidUTF8_bad_cons hc
        decide

theorem toValidUTF8_eq_nil {s : Str} :
  toValidUTF8 s = [] ↔ s = []
  := by
  constructor
  · intro h
    cases s with
    | nil => rfl
    | cons b s =>
        obtain ⟨-, hb⟩ | ⟨-, b', s', hb, -⟩ := toValidUTF8_cons b s
        · simp [hb] at h
        · simp [hb] at h
  · rintro rfl
    rfl

/-- The string is ASCII when it is ASCII after stray bytes are replaced. -/
theorem ascii_of_ascii_toValidUTF8 {s : Str} (h : ∀ b ∈ toValidUTF8 s, b < 128) :
  ∀ b ∈ s, b < 128
  := by
  induction s with
  | nil => simp
  | cons b s ih =>
      obtain ⟨hb, hs⟩ | ⟨-, b', s', hs, hb'⟩ := toValidUTF8_cons b s
      · rw [hs] at h
        simp only [List.mem_cons, forall_eq_or_imp] at h ⊢
        exact ⟨hb, ih h.2⟩
      · rw [hs] at h
        exact absurd (h b' (by simp)) hb'

/-- An ASCII string is what results from replacing stray bytes only in itself. -/
theorem toValidUTF8_eq_iff {s t : Str} (ht : ∀ b ∈ t, b < 128) :
  toValidUTF8 s = t ↔ s = t
  := by
  constructor
  · rintro rfl
    symm
    apply toValidUTF8_of_ascii (ascii_of_ascii_toValidUTF8 ht)
  · rintro rfl
    apply toValidUTF8_of_ascii ht

/-- Leading ASCII bytes of a kind are left as they are. -/
theorem takeWhile_toValidUTF8 {p : UInt8 → Bool} (hp : ∀ b, p b → b < 128) (s : Str) :
  (toValidUTF8 s).takeWhile p = s.takeWhile p ∧
    (toValidUTF8 s).dropWhile p = toValidUTF8 (s.dropWhile p)
  := by
  induction s with
  | nil => simp
  | cons b s ih =>
      by_cases hb : p b
      · rw [toValidUTF8_ascii_cons (hp b hb)]
        simp [List.takeWhile_cons_of_pos hb, List.dropWhile_cons_of_pos hb, ih]
      · rw [List.takeWhile_cons_of_neg hb, List.dropWhile_cons_of_neg hb]
        obtain ⟨-, hs⟩ | ⟨-, b', s', hs, hb'⟩ := toValidUTF8_cons b s
        · rw [hs, List.takeWhile_cons_of_neg hb, List.dropWhile_cons_of_neg hb]
          simp
        · have hpb' : ¬ p b' := fun h => hb' (hp b' h)
          rw [hs, List.takeWhile_cons_of_neg hpb', List.dropWhile_cons_of_neg hpb']
          simp

/-! ### Letter case -/

section

variable [UnicodeTables]

/-- A string in lower case. -/
def toLower (s : Str) : Str :=
  ofRunes ((runes s).map fun r => .char (UnicodeTables.toLower r.value))

theorem toLower_toValidUTF8 (s : Str) :
  toLower (toValidUTF8 s) = toLower s
  := by
  rw [toLower, runes_toValidUTF8, List.map_map]
  rfl

/-- Equality under simple case folding. -/
def equalFold (s t : Str) : Bool :=
  (runes s).map (fun r => UnicodeTables.orbit r.value)
    == (runes t).map (fun r => UnicodeTables.orbit r.value)

theorem equalFold_self (s : Str) :
  equalFold s s = true
  := beq_self_eq_true _

/-- Folding ASCII strings needs no tables. -/
theorem equalFold_ascii {s t : Str} (hs : ∀ b ∈ s, b < 128) (ht : ∀ b ∈ t, b < 128) :
  equalFold s t = @equalFold asciiTables s t
  := by
  have horbits : ∀ s : Str, (∀ b ∈ s, b < 128) →
      (runes s).map (fun r => UnicodeTables.orbit r.value)
        = (runes s).map fun r => asciiOrbit r.value := by
    intro s hs
    induction s with
    | nil => rfl
    | cons b s ih =>
        rw [List.forall_mem_cons] at hs
        rw [runes_ascii_cons hs.1, List.map_cons, List.map_cons, ih hs.2,
          UnicodeTables.orbit_ascii _ (toNat_asciiChar_lt hs.1)]
  rw [equalFold, horbits s hs, horbits t ht]
  rfl

/-- Two strings that fold to a third fold to each other. -/
theorem equalFold_of_equalFold {s t u : Str} (hs : equalFold s u = true)
    (ht : equalFold t u = true) :
  equalFold s t = true
  := by
  rw [equalFold, beq_iff_eq] at *
  rw [hs, ht]

end

/-! ### Decimal numbers -/

/-- A decimal digit. -/
def isDecimal (b : UInt8) : Bool := 48 ≤ b && b ≤ 57

/-- The number a string of decimal digits denotes. -/
def decimalValue (s : Str) : Nat :=
  s.foldl (fun n b => 10 * n + (b.toNat - 48)) 0

/-- The sign a number begins with, and the text after it. -/
def splitSign : Str → Bool × Str
  | [] => (false, [])
  | b :: s =>
    if b == '-'.toUInt8 then (true, s)
    else if b == '+'.toUInt8 then (false, s)
    else (false, b :: s)

/-- The 64-bit integer a string denotes in decimal. -/
def atoi (s : Str) : Option Int :=
  let (negative, digits) := splitSign s
  if digits.isEmpty || !digits.all isDecimal then none
  else
    let n := decimalValue digits
    if negative then (if n ≤ 2 ^ 63 then some (-n) else none)
    else if n < 2 ^ 63 then some n else none

/-- A natural number in decimal. -/
def decimal (n : Nat) : Str :=
  if n = 0 then [48] else ((Nat.digits 10 n).map fun d => UInt8.ofNat (48 + d)).reverse

/-- An integer in decimal. -/
def itoa (n : Int) : Str := if n < 0 then 45 :: decimal n.natAbs else decimal n.natAbs

theorem toNat_digit {d : Nat} (hd : d < 10) :
  (UInt8.ofNat (48 + d)).toNat = 48 + d
  := by
  rw [UInt8.toNat_ofNat']
  omega

theorem isDecimal_of_mem_decimal {n : Nat} {b : UInt8} (h : b ∈ decimal n) :
  isDecimal b = true
  := by
  rw [decimal] at h
  split_ifs at h with hn
  · rw [List.mem_singleton] at h
    rw [h]
    rfl
  · rw [List.mem_reverse, List.mem_map] at h
    obtain ⟨d, hd, rfl⟩ := h
    have hlt := Nat.digits_lt_base (by norm_num) hd
    rw [isDecimal, Bool.and_eq_true, decide_eq_true_eq, decide_eq_true_eq,
      UInt8.le_iff_toNat_le, UInt8.le_iff_toNat_le, toNat_digit hlt]
    constructor
    · exact Nat.le_add_right 48 d
    · show 48 + d ≤ 57
      omega

theorem decimalValue_decimal (n : Nat) :
  decimalValue (decimal n) = n
  := by
  rw [decimal]
  split_ifs with hn
  · rw [hn]
    rfl
  · have hvalue : ∀ ds : List Nat, (∀ d ∈ ds, d < 10) →
        decimalValue (ds.map fun d => UInt8.ofNat (48 + d)).reverse = Nat.ofDigits 10 ds := by
      intro ds hds
      rw [decimalValue, List.foldl_reverse]
      induction ds with
      | nil => rfl
      | cons d ds ih =>
          rw [List.forall_mem_cons] at hds
          rw [List.map_cons, List.foldr_cons, ih hds.2, toNat_digit hds.1, Nat.ofDigits_cons]
          omega
    rw [hvalue _ fun d hd => Nat.digits_lt_base (by norm_num) hd, Nat.ofDigits_digits]

/-- A number does not begin with the digit zero unless it is zero. -/
theorem decimal_cases (n : Nat) :
  decimal n = [48] ∨ ∃ b s, decimal n = b :: s ∧ b ≠ 48
  := by
  rw [decimal]
  split_ifs with hn
  · exact .inl rfl
  · right
    have hne := Nat.digits_ne_nil_iff_ne_zero (b := 10) |>.mpr hn
    have hlast := Nat.getLast_digit_ne_zero 10 hn
    have hlt := Nat.digits_lt_base (by norm_num) (List.getLast_mem hne)
    rw [← List.dropLast_concat_getLast hne, List.map_append, List.reverse_append]
    refine ⟨_, _, rfl, ?_⟩
    intro h
    have h' := congrArg UInt8.toNat h
    rw [toNat_digit hlt] at h'
    apply hlast
    exact Nat.add_left_cancel (n := 48) h'

/-- Digits carry no sign. -/
theorem splitSign_of_isDecimal {s : Str} (h : ∀ b ∈ s, isDecimal b = true) :
  splitSign s = (false, s)
  := by
  cases s with
  | nil => rfl
  | cons b s =>
      have hb := h b List.mem_cons_self
      rw [splitSign]
      split_ifs with hminus hplus
      · rw [eq_of_beq hminus] at hb
        cases hb
      · rw [eq_of_beq hplus] at hb
        cases hb
      · rfl

/-- An integer that fits is read back. -/
theorem atoi_itoa (n : Int) (hmin : -2 ^ 63 ≤ n) (hmax : n < 2 ^ 63) :
  atoi (itoa n) = some n
  := by
  have hdigits : (decimal n.natAbs).all isDecimal = true := by
    rw [List.all_eq_true]
    intro b hb
    exact isDecimal_of_mem_decimal hb
  have hne : decimal n.natAbs ≠ [] := by
    obtain h | ⟨b, s, h, -⟩ := decimal_cases n.natAbs
    · rw [h]
      simp
    · rw [h]
      simp
  have hempty : (decimal n.natAbs).isEmpty = false := by
    rw [List.isEmpty_eq_false_iff]
    exact hne
  rw [itoa]
  split_ifs with hn
  · have hsplit : splitSign (45 :: decimal n.natAbs) = (true, decimal n.natAbs) := rfl
    simp only [atoi, hsplit, hempty, hdigits, decimalValue_decimal]
    have hle : n.natAbs ≤ 2 ^ 63 := by omega
    simp only [Bool.not_true, Bool.or_self, Bool.false_eq_true, if_false, if_true, if_pos hle]
    congr 1
    omega
  · have hsplit := splitSign_of_isDecimal (s := decimal n.natAbs)
      fun b hb => isDecimal_of_mem_decimal hb
    simp only [atoi, hsplit, hempty, hdigits, decimalValue_decimal]
    have hlt : n.natAbs < 2 ^ 63 := by omega
    simp only [Bool.not_true, Bool.or_self, Bool.false_eq_true, if_false, if_pos hlt]
    congr 1
    omega

theorem lt_of_isDecimal {b : UInt8} (h : isDecimal b) :
  b < 128
  := by
  simp only [isDecimal, Bool.and_eq_true, decide_eq_true_eq] at h
  apply lt_of_le_of_lt h.2
  decide

theorem ascii_of_atoi {s : Str} {n : Int} (h : atoi s = some n) :
  ∀ b ∈ s, b < 128
  := by
  have hdigits : (splitSign s).2.all isDecimal := by
    simp only [atoi] at h
    split at h
    · cases h
    · rename_i hd
      simp only [Bool.or_eq_true, Bool.not_eq_true', not_or, Bool.not_eq_false] at hd
      apply hd.2
  cases s with
  | nil => simp
  | cons b s =>
      simp only [splitSign] at hdigits
      simp only [List.mem_cons, forall_eq_or_imp]
      split_ifs at hdigits with h₁ h₂
      · rw [beq_iff_eq] at h₁
        subst h₁
        exact ⟨by decide, fun b hb => lt_of_isDecimal (List.all_eq_true.mp hdigits b hb)⟩
      · rw [beq_iff_eq] at h₂
        subst h₂
        exact ⟨by decide, fun b hb => lt_of_isDecimal (List.all_eq_true.mp hdigits b hb)⟩
      · have hall := List.all_eq_true.mp hdigits
        exact ⟨lt_of_isDecimal (hall b (by simp)), fun b' hb => lt_of_isDecimal (hall b' (by simp [hb]))⟩

theorem atoi_toValidUTF8 (s : Str) :
  atoi (toValidUTF8 s) = atoi s
  := by
  cases h : atoi s with
  | some n => rw [toValidUTF8_of_ascii (ascii_of_atoi h), h]
  | none =>
      cases h' : atoi (toValidUTF8 s) with
      | none => rfl
      | some n =>
          have hs := ascii_of_ascii_toValidUTF8 (ascii_of_atoi h')
          rw [toValidUTF8_of_ascii hs, h] at h'
          cases h'

/-- The number before the first occurrence of an ASCII byte is left as it is. -/
theorem atoi_takeWhile_toValidUTF8 {a : UInt8} (ha : a < 128) (s : Str) :
  atoi ((toValidUTF8 s).takeWhile (· != a)) = atoi (s.takeWhile (· != a))
  := by
  -- split off the ASCII bytes other than `a`: they are left as they are
  let q : UInt8 → Bool := fun b => b < 128 && b != a
  have hq : ∀ b, q b → b < 128 := fun b hb => by simp [q] at hb; exact hb.1
  have hsplit : ∀ t : Str, t.takeWhile (· != a)
      = t.takeWhile q ++ (t.dropWhile q).takeWhile (· != a) := by
    intro t
    induction t with
    | nil => rfl
    | cons b t ih =>
        by_cases hb : q b
        · have hb' : (b != a) = true := by simp [q] at hb; simpa using hb.2
          rw [List.takeWhile_cons_of_pos hb, List.dropWhile_cons_of_pos hb,
            List.takeWhile_cons_of_pos (by simpa using hb'), ih, List.cons_append]
        · rw [List.takeWhile_cons_of_neg hb, List.dropWhile_cons_of_neg hb, List.nil_append]
  obtain ⟨htake, hdrop⟩ := takeWhile_toValidUTF8 hq s
  rw [hsplit s, hsplit (toValidUTF8 s), htake, hdrop]
  cases hr : s.dropWhile q with
  | nil => rfl
  | cons b r =>
      have hb : q b = false := by
        have hne : s.dropWhile q ≠ [] := by simp [hr]
        simpa [hr] using List.head_dropWhile_not q hne
      obtain ⟨hlt, hv⟩ | ⟨hge, b', r', hv, hge'⟩ := toValidUTF8_cons b r
      · have hba : b = a := by simpa [q, hlt] using hb
        subst hba
        rw [hv]
        simp
      · have hnone : ∀ (c : UInt8) (t : Str), ¬ c < 128 →
            atoi (s.takeWhile q ++ (c :: t).takeWhile (· != a)) = none := by
          intro c t hc
          have hca : (c != a) = true := by
            rw [bne_iff_ne]
            rintro rfl
            exact hc ha
          rw [List.takeWhile_cons_of_pos (by simpa using hca), Option.eq_none_iff_forall_ne_some]
          intro n hn
          exact hc (ascii_of_atoi hn c (by simp))
        rw [hv, hnone b' r' hge', hnone b r hge]

/-! ### Messages -/

section

variable [UnicodeTables]

/-- The hexadecimal digit of a number below sixteen. -/
def hexDigit (n : Nat) : UInt8 :=
  if n < 10 then UInt8.ofNat (48 + n) else UInt8.ofNat (87 + n)

/-- A number in hexadecimal with the given number of digits. -/
def hex (width n : Nat) : Str :=
  (List.range width).reverse.map fun i => hexDigit (n / 16 ^ i % 16)

/-- A code point or stray byte as it stands between quotes. -/
def quoteRune : Rune → Str
  | .bad b => str "\\x" ++ hex 2 b.toNat
  | .char c =>
    if c = '"' ∨ c = '\\' then str "\\" ++ String.utf8EncodeChar c
    else if UnicodeTables.isPrint c then String.utf8EncodeChar c
    else if c.toNat = 0x07 then str "\\a"
    else if c.toNat = 0x08 then str "\\b"
    else if c.toNat = 0x0C then str "\\f"
    else if c.toNat = 0x0A then str "\\n"
    else if c.toNat = 0x0D then str "\\r"
    else if c.toNat = 0x09 then str "\\t"
    else if c.toNat = 0x0B then str "\\v"
    else if c.toNat < 0x20 ∨ c.toNat = 0x7F then str "\\x" ++ hex 2 c.toNat
    else if c.toNat < 0x10000 then str "\\u" ++ hex 4 c.toNat
    else str "\\U" ++ hex 8 c.toNat

/-- A string between quotes, as messages show it. -/
def quote (s : Str) : Str :=
  str "\"" ++ (runes s).flatMap quoteRune ++ str "\""

end

/-- A truth value, as messages show it. -/
def formatBool (b : Bool) : Str := if b then str "true" else str "false"

/-- Strings joined by a separator. -/
def join (sep : Str) (parts : List Str) : Str := (parts.intersperse sep).flatten

end Go
