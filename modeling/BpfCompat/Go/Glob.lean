import BpfCompat.Go.Encoding

/-!
# Letter case and shell patterns

The two places where a policy needs more of the text library than trimming and lower case: the
codes of a policy are compared in upper case, and its names are patterns in the manner of
`path.Match`.

A pattern is cut into chunks at its stars, and a chunk is matched at the beginning of the name
while its syntax is checked to the end.
-/

namespace Go

/-! ### Upper case -/

/-- The Unicode tables with the upper case of a code point; within ASCII the letter case is the
usual one. -/
class CaseTables extends UnicodeTables where
  toUpper : Char → Char
  toLower_ascii : ∀ c : Char, c.toNat < 128 → toLower c = c.toLower
  toUpper_ascii : ∀ c : Char, c.toNat < 128 → toUpper c = c.toUpper

/-- The tables restricted to ASCII. -/
@[reducible] def asciiCaseTables : CaseTables where
  toUnicodeTables := asciiTables
  toUpper := Char.toUpper
  toLower_ascii _ _ := rfl
  toUpper_ascii _ _ := rfl

/-- A string in upper case. -/
def toUpper [CaseTables] (s : Str) : Str :=
  ofRunes ((runes s).map fun r => .char (CaseTables.toUpper r.value))

/-! ### Lower case -/

/-- A string with every code point replaced. -/
def mapChars (f : Char → Char) (s : Str) : Str := ofRunes ((runes s).map fun r => .char (f r.value))

theorem runes_mapChars (f : Char → Char) (s : Str) :
  runes (mapChars f s) = (runes s).map fun r => .char (f r.value)
  := by
  rw [mapChars]
  have hchars : (runes s).map (fun r => Rune.char (f r.value))
      = ((runes s).map fun r => f r.value).map .char := by
    rw [List.map_map]
    rfl
  rw [hchars, runes_ofRunes_char]

theorem mapChars_eq_nil {f : Char → Char} {s : Str} :
  mapChars f s = [] ↔ s = []
  := by
  constructor
  · intro h
    have hrunes := runes_mapChars f s
    rw [h, runes_nil] at hrunes
    rw [← ofRunes_runes s, List.map_eq_nil_iff.mp hrunes.symm, ofRunes_nil]
  · rintro rfl
    rfl

theorem toLower_eq_nil [UnicodeTables] {s : Str} :
  toLower s = [] ↔ s = []
  := mapChars_eq_nil

/-- A string of ASCII without capitals is in lower case. -/
theorem toLower_of_ascii [CaseTables] {s : Str} (h : ∀ b ∈ s, b < 128 ∧ ¬ (65 ≤ b ∧ b ≤ 90)) :
  toLower s = s
  := by
  have key : ∀ b : UInt8, b < 128 → ¬ (65 ≤ b ∧ b ≤ 90) → (asciiChar b).toLower = asciiChar b := by
    decide +kernel
  induction s with
  | nil => rfl
  | cons b s ih =>
      rw [List.forall_mem_cons] at h
      obtain ⟨⟨hlow, hcase⟩, hs⟩ := h
      have hb : UnicodeTables.toLower (asciiChar b) = asciiChar b := by
        rw [CaseTables.toLower_ascii (asciiChar b) (toNat_asciiChar_lt hlow), key b hlow hcase]
      have ih' := ih hs
      rw [toLower] at ih' ⊢
      rw [runes_ascii_cons hlow, List.map_cons, ofRunes_cons, ih']
      rw [Rune.value, hb, Rune.bytes, encode_asciiChar hlow, List.singleton_append]

theorem toLower_hexEncode [CaseTables] (s : Str) :
  toLower (hexEncode s) = hexEncode s
  := by
  have key : ∀ n < 16, hexDigit n < 128 ∧ ¬ (65 ≤ hexDigit n ∧ hexDigit n ≤ 90) := by decide
  apply toLower_of_ascii
  intro b hb
  rw [hexEncode, List.mem_flatMap] at hb
  obtain ⟨c, -, hb⟩ := hb
  have hc := c.toNat_lt
  rcases List.mem_pair.mp hb with rfl | rfl
  · exact key _ (by omega)
  · exact key _ (by omega)

/-! ### Letter case that is settled -/

/-- What the tables say of letter case: a code point has one lower and one upper case, and neither
makes white space or takes it away. -/
structure SettledCase [CaseTables] : Prop where
  toLower_toLower : ∀ c : Char,
    UnicodeTables.toLower (UnicodeTables.toLower c) = UnicodeTables.toLower c
  toUpper_toUpper : ∀ c : Char, CaseTables.toUpper (CaseTables.toUpper c) = CaseTables.toUpper c
  isSpace_toLower : ∀ c : Char, isSpace (UnicodeTables.toLower c) = isSpace c
  isSpace_toUpper : ∀ c : Char, isSpace (CaseTables.toUpper c) = isSpace c

theorem mapChars_mapChars {f : Char → Char} (hf : ∀ c, f (f c) = f c) (s : Str) :
  mapChars f (mapChars f s) = mapChars f s
  := by
  rw [mapChars, runes_mapChars, List.map_map, mapChars]
  congr 1
  apply List.map_congr_left
  intro r _
  exact congrArg Rune.char (hf r.value)

theorem trimSpace_mapChars {f : Char → Char} (hf : ∀ c, isSpace (f c) = isSpace c) (s : Str) :
  trimSpace (mapChars f s) = mapChars f (trimSpace s)
  := by
  have hspace : ((fun r : Rune => isSpace r.value) ∘ fun r : Rune => Rune.char (f r.value))
      = fun r : Rune => isSpace r.value := by
    funext r
    exact hf r.value
  rw [trimSpace, runes_mapChars, trimBoth_map, hspace, mapChars, runes_trimSpace]

/-- Letter case within ASCII is settled. -/
theorem settledCase_ascii :
  @SettledCase asciiCaseTables
  := by
  have hascii : ∀ b : UInt8, b < 128 →
      (asciiChar b).toLower.toLower = (asciiChar b).toLower ∧
        (asciiChar b).toUpper.toUpper = (asciiChar b).toUpper ∧
        isSpace (asciiChar b).toLower = isSpace (asciiChar b) ∧
        isSpace (asciiChar b).toUpper = isSpace (asciiChar b) := by
    decide +kernel
  have hall : ∀ c : Char, c.toLower.toLower = c.toLower ∧ c.toUpper.toUpper = c.toUpper ∧
      isSpace c.toLower = isSpace c ∧ isSpace c.toUpper = isSpace c := by
    intro c
    by_cases hc : c.toNat < 128
    · have hsize : c.toNat < UInt8.size := lt_trans hc (by decide)
      have hbyte : c = asciiChar (UInt8.ofNat c.toNat) := by
        rw [asciiChar, UInt8.toNat_ofNat_of_lt' hsize, Char.ofNat_toNat]
      rw [hbyte]
      apply hascii
      rw [UInt8.lt_iff_toNat_lt, UInt8.toNat_ofNat_of_lt' hsize]
      exact hc
    · have hlower : c.toLower = c := by
        rw [Char.toLower, dif_neg]
        rintro ⟨-, hle⟩
        rw [UInt32.le_iff_toNat_le] at hle
        exact hc (lt_of_le_of_lt hle (by decide))
      have hupper : c.toUpper = c := by
        rw [Char.toUpper, dif_neg]
        rintro ⟨-, hle⟩
        rw [UInt32.le_iff_toNat_le] at hle
        exact hc (lt_of_le_of_lt hle (by decide))
      rw [hlower, hupper]
      exact ⟨hlower, hupper, rfl, rfl⟩
  let := asciiCaseTables
  exact ⟨fun c => (hall c).1, fun c => (hall c).2.1, fun c => (hall c).2.2.1,
    fun c => (hall c).2.2.2⟩

/-! ### Shell patterns -/

/-- The end of the first chunk of a pattern: the first star that no class encloses. -/
def scanEnd (inrange : Bool) : Str → Str × Str
  | [] => ([], [])
  | [c] => if c = 42 ∧ inrange = false then ([], [c]) else ([c], [])
  | c :: d :: pattern =>
    if c = 92 then
      let (chunk, rest) := scanEnd inrange pattern
      (c :: d :: chunk, rest)
    else if c = 42 ∧ inrange = false then ([], c :: d :: pattern)
    else
      let (chunk, rest) :=
        scanEnd (if c = 91 then true else if c = 93 then false else inrange) (d :: pattern)
      (c :: chunk, rest)

/-- The first chunk of a pattern, whether a star stands before it, and what follows it. -/
def scanChunk (pattern : Str) : Bool × Str × Str :=
  (pattern.head? = some 42, scanEnd false (pattern.dropWhile (· = 42)))

/-- A bound of a class, and the chunk after it. -/
def getEsc (chunk : Str) : Option (Char × Str) :=
  let escaped := fun chunk : Str =>
    (firstChar? chunk).bind fun r =>
      let rest := chunk.drop r.utf8Size
      if rest = [] then none else some (r, rest)
  match chunk with
  | [] => none
  | c :: rest => if c = 45 ∨ c = 93 then none else if c = 92 then escaped rest else escaped chunk

/-- The ranges of a class up to the bracket that closes it: whether the code point is in one of
them, and the chunk after the class. -/
def matchRanges (r : Char) : Nat → Bool → Nat → Str → Option (Bool × Str)
  | 0, _, _, _ => none
  | fuel + 1, found, nrange, chunk =>
    if chunk.head? = some 93 ∧ 0 < nrange then some (found, chunk.tail)
    else do
      let (lo, chunk) ← getEsc chunk
      let (hi, chunk) ← if chunk.head? = some 45 then getEsc chunk.tail else some (lo, chunk)
      matchRanges r fuel (found || (lo ≤ r && r ≤ hi)) (nrange + 1) chunk

/-- The code point a name begins with and the name after it; a stray byte reads as U+FFFD. -/
def decodeRune (s : Str) : Char × Str :=
  match firstChar? s with
  | some c => (c, s.drop c.utf8Size)
  | none => ('\uFFFD', s.tail)

/-- A chunk at the beginning of a name.  The name is `none` once the match has failed, and the
outer `none` is a malformed chunk. -/
def matchChunk : Nat → Str → Option Str → Option (Option Str)
  | _, [], s => some s
  | 0, _ :: _, _ => none
  | fuel + 1, c :: chunk, s =>
    let s := if s = some [] then none else s
    if c = 91 then do
      let negated := chunk.head? = some 94
      let r := (s.map fun s => (decodeRune s).1).getD '\x00'
      let (found, rest) ← matchRanges r chunk.length false 0 (if negated then chunk.tail else chunk)
      matchChunk fuel rest (if found = negated then none else s.map fun s => (decodeRune s).2)
    else if c = 63 then
      matchChunk fuel chunk
        (s.bind fun s => if s.head? = some 47 then none else some (decodeRune s).2)
    else if c = 92 then
      match chunk with
      | [] => none
      | d :: chunk => matchChunk fuel chunk (s.bind fun s => if s.head? = some d then some s.tail else none)
    else matchChunk fuel chunk (s.bind fun s => if s.head? = some c then some s.tail else none)

/-- Whether the rest of a pattern is well formed. -/
def validPattern : Nat → Str → Bool
  | _, [] => true
  | 0, _ :: _ => false
  | fuel + 1, c :: pattern =>
    let (_, chunk, rest) := scanChunk (c :: pattern)
    (matchChunk chunk.length chunk (some [])).isSome && validPattern fuel rest

/-- The names a starred chunk may be matched at, after the one it stands at: those up to the
first slash. -/
def skips : Str → List Str
  | [] => []
  | c :: s => if c = 47 then [] else s :: skips s

/-- The first of several names a chunk matches; the last chunk has to match all of the name. -/
def firstMatch (chunk : Str) (last : Bool) : List Str → Option (Option Str)
  | [] => some none
  | s :: names => do
    match ← matchChunk chunk.length chunk (some s) with
    | some t => if last ∧ t ≠ [] then firstMatch chunk last names else some (some t)
    | none => firstMatch chunk last names

/-- The loop over the chunks of a pattern; `none` for a malformed pattern. -/
def matchFrom : Nat → Str → Str → Option Bool
  | _, [], name => some name.isEmpty
  | 0, _ :: _, _ => none
  | fuel + 1, c :: pattern, name =>
    let (star, chunk, rest) := scanChunk (c :: pattern)
    if star ∧ chunk = [] then some (!name.contains 47)
    else do
      match ← firstMatch chunk rest.isEmpty (name :: if star then skips name else []) with
      | some t => matchFrom fuel rest t
      | none => if validPattern rest.length rest then some false else none

/-- Whether a name is of a pattern; `none` for a malformed pattern. -/
def pathMatch (pattern name : Str) : Option Bool := matchFrom pattern.length pattern name

example : pathMatch (str "edge-*") (str "edge-01") = some true := by decide

example : pathMatch (str "[a-") (str "a") = none := by decide

end Go
