import BpfCompat.Go.Collections
import BpfCompat.Go.Strings

/-!
# Durations

A duration is written as numbers with units, such as `1h15m30.5s`, and held as a number of
nanoseconds.  What a decimal fraction of a unit amounts to is computed in floating point; it
is a parameter here.  A text that is accepted has no white space in it
(`trimSpace_of_parseDuration`).
-/

namespace Go

/-- The nanoseconds in a fraction of a unit: the digits after the point as a number, how many
there are, and the unit. -/
class Fractions where
  nanoseconds : (digits scale unit : Nat) → Nat

/-- Fractions without rounding errors. -/
@[reducible] def exactFractions : Fractions where
  nanoseconds digits scale unit := digits * unit / 10 ^ scale

/-- The units, in nanoseconds.  There are two spellings of micro. -/
def durationUnits : List (Str × Nat) :=
  [(str "ns", 1), (str "us", 1000), (str "µs", 1000), (str "μs", 1000), (str "ms", 1000000),
    (str "s", 1000000000), (str "m", 60000000000), (str "h", 3600000000000)]

/-- A text between quotes, as the messages about durations show it. -/
def quoteDuration (s : Str) : Str :=
  str "\"" ++ s.flatMap (fun b =>
    if 128 ≤ b ∨ b < 32 then [92, 120, hexDigit (b.toNat / 16), hexDigit (b.toNat % 16)]
    else if b = 34 ∨ b = 92 then [92, b]
    else [b]) ++ str "\""

/-- The digits after the point.  Those that would overflow are passed over. -/
def leadingFraction (s : Str) : Nat × Nat × Str :=
  let (digits, scale, _) := (s.takeWhile isDecimal).foldl
    (fun (digits, scale, overflow) b =>
      let next := 10 * digits + (b.toNat - 48)
      if overflow = true ∨ (2 ^ 63 - 1) / 10 < digits ∨ 2 ^ 63 < next then (digits, scale, true)
      else (next, scale + 1, false))
    (0, 0, false)
  (digits, scale, s.dropWhile isDecimal)

/-- A byte of the name of a unit. -/
def isUnitByte (b : UInt8) : Bool := !(b = 46 || isDecimal b)

/-- A number at the beginning of a text: its digits before the point, those after it as a number
with their count, whether there are any, and the rest of the text. -/
structure DurationNumber where
  whole : Str
  fraction : Nat := 0
  scale : Nat := 0
  post : Bool := false
  rest : Str

def durationNumber (s : Str) : DurationNumber :=
  match s.dropWhile isDecimal with
  | [] => { whole := s.takeWhile isDecimal, rest := [] }
  | b :: rest =>
    if b = 46 then
      { whole := s.takeWhile isDecimal
        fraction := (leadingFraction rest).1
        scale := (leadingFraction rest).2.1
        post := rest.takeWhile isDecimal ≠ []
        rest := (leadingFraction rest).2.2 }
    else { whole := s.takeWhile isDecimal, rest := b :: rest }

section

variable [Fractions]

/-- The nanoseconds of a number of units.  Too many are refused. -/
def durationValue (n : DurationNumber) (unit : Nat) : Option Nat :=
  let value := decimalValue n.whole * unit
    + (if 0 < n.fraction then Fractions.nanoseconds n.fraction n.scale unit else 0)
  if 2 ^ 63 / unit < decimalValue n.whole ∨ 2 ^ 63 < value then none else some value

/-- One number with its unit at the beginning of a text: its nanoseconds and the rest. -/
def durationPart (orig s : Str) : Except Str (Nat × Str) :=
  let invalid := str "time: invalid duration " ++ quoteDuration orig
  let n := durationNumber s
  let unitName := n.rest.takeWhile isUnitByte
  if s.head?.any isUnitByte ∨ 2 ^ 63 < decimalValue n.whole ∨ (n.whole = [] ∧ n.post = false) then
    .error invalid
  else if unitName = [] then .error (str "time: missing unit in duration " ++ quoteDuration orig)
  else
    match durationUnits.lookup unitName with
    | none => .error (str "time: unknown unit " ++ quoteDuration unitName ++ str " in duration "
        ++ quoteDuration orig)
    | some unit =>
      match durationValue n unit with
      | none => .error invalid
      | some value => .ok (value, n.rest.dropWhile isUnitByte)

/-- The parts of a duration added up, in 64 bits.  Each takes something of the text, so that as
many steps as the text has bytes are enough. -/
def durationParts (orig : Str) : (steps sum : Nat) → Str → Except Str Nat
  | _, sum, [] => .ok sum
  | 0, _, _ :: _ => .error (str "time: invalid duration " ++ quoteDuration orig)
  | steps + 1, sum, b :: s => do
    let (value, rest) ← durationPart orig (b :: s)
    let sum := (sum + value) % 2 ^ 64
    if 2 ^ 63 < sum then .error (str "time: invalid duration " ++ quoteDuration orig)
    else durationParts orig steps sum rest

def parseDuration (s : Str) : Except Str Int :=
  let (negative, body) := splitSign s
  if body = str "0" then .ok 0
  else if body = [] then .error (str "time: invalid duration " ++ quoteDuration s)
  else do
    let sum ← durationParts s body.length 0 body
    if negative then .ok (-sum)
    else if 2 ^ 63 ≤ sum then .error (str "time: invalid duration " ++ quoteDuration s)
    else .ok sum

end

/-! ### What is accepted -/

/-- A text without stray bytes and without white space. -/
def Spaceless (s : Str) : Prop := toValidUTF8 s = s ∧ ∀ r ∈ runes s, isSpace r.value = false

theorem Spaceless.append {s t : Str} (hs : Spaceless s) (ht : Spaceless t) :
  Spaceless (s ++ t)
  := by
  constructor
  · rw [toValidUTF8_append_of_valid hs.1, ht.1]
  · rw [runes_append_of_valid hs.1]
    intro r hr
    rcases List.mem_append.mp hr with hr | hr
    · exact hs.2 r hr
    · exact ht.2 r hr

theorem Spaceless.trimSpace {s : Str} (h : Spaceless s) :
  trimSpace s = s
  := by
  rw [Go.trimSpace, trimBoth_of_forall_not h.2, ofRunes_runes]

theorem spaceless_of_graphic {s : Str} (h : ∀ b ∈ s, 32 < b ∧ b < 127) :
  Spaceless s
  := by
  have hascii : ∀ b ∈ s, b < 128 := fun b hb => lt_trans (h b hb).2 (by decide)
  constructor
  · exact (toValidUTF8_eq_iff hascii).mpr rfl
  · rw [runes_of_ascii hascii, List.forall_mem_map]
    intro b hb
    exact isSpace_asciiChar (h b hb).1 (h b hb).2

theorem graphic_of_isDecimal {b : UInt8} (h : isDecimal b = true) :
  32 < b ∧ b < 127
  := by
  revert h b
  decide +kernel

theorem spaceless_takeWhile_isDecimal (s : Str) :
  Spaceless (s.takeWhile isDecimal)
  := spaceless_of_graphic fun _ hb => graphic_of_isDecimal (List.mem_takeWhile_imp hb)

theorem spaceless_unit {unitName : Str} {unit : Nat} (h : durationUnits.lookup unitName = some unit) :
  Spaceless unitName
  := by
  have hall : ∀ entry ∈ durationUnits, toValidUTF8 entry.1 = entry.1
      ∧ ∀ r ∈ runes entry.1, isSpace r.value = false := by
    decide
  obtain ⟨before, after, hsplit, -⟩ := List.lookup_eq_some_iff.mp h
  apply hall (unitName, unit)
  rw [hsplit]
  simp

/-- The text of a number has no white space. -/
theorem durationNumber_spaceless (s : Str) :
  ∃ text, s = text ++ (durationNumber s).rest ∧ Spaceless text
  := by
  have hwhole := spaceless_takeWhile_isDecimal s
  have hsplit := (List.takeWhile_append_dropWhile (p := isDecimal) (l := s)).symm
  rw [durationNumber]
  rcases hrest : s.dropWhile isDecimal with - | ⟨b, rest⟩
  · rw [hrest] at hsplit
    exact ⟨_, hsplit, hwhole⟩
  · rw [hrest] at hsplit
    by_cases hpoint : b = 46
    · have hdot : Spaceless [b] := by
        rw [hpoint]
        exact spaceless_of_graphic (by decide)
      refine ⟨s.takeWhile isDecimal ++ [b] ++ rest.takeWhile isDecimal, ?_,
        (hwhole.append hdot).append (spaceless_takeWhile_isDecimal rest)⟩
      simp only [if_pos hpoint]
      rw [leadingFraction, List.append_assoc, List.takeWhile_append_dropWhile, ← List.append_cons]
      exact hsplit
    · simp only [if_neg hpoint]
      exact ⟨_, hsplit, hwhole⟩

/-- The sign in front of a number, if there is one. -/
theorem splitSign_append (s : Str) :
  ∃ sign, s = sign ++ (splitSign s).2 ∧ ∀ b ∈ sign, 32 < b ∧ b < 127
  := by
  rcases s with - | ⟨b, s⟩
  · exact ⟨[], rfl, by simp⟩
  · rw [splitSign]
    split_ifs with hminus hplus
    · refine ⟨[b], rfl, ?_⟩
      rw [eq_of_beq hminus]
      decide
    · refine ⟨[b], rfl, ?_⟩
      rw [eq_of_beq hplus]
      decide
    · exact ⟨[], rfl, by simp⟩

section

variable [Fractions] {orig s : Str}

theorem durationPart_spaceless {value : Nat} {rest : Str}
    (h : durationPart orig s = .ok (value, rest)) :
  ∃ text, s = text ++ rest ∧ Spaceless text
  := by
  obtain ⟨number, hnumber, hspaceless⟩ := durationNumber_spaceless s
  simp only [durationPart] at h
  rw [refuse_if_eq_ok_iff, refuse_if_eq_ok_iff] at h
  obtain ⟨-, -, h⟩ := h
  cases hunit : durationUnits.lookup ((durationNumber s).rest.takeWhile isUnitByte) with
  | none =>
      rw [hunit] at h
      contradiction
  | some unit =>
      simp only [hunit] at h
      cases hvalue : durationValue (durationNumber s) unit with
      | none =>
          rw [hvalue] at h
          contradiction
      | some nanoseconds =>
          rw [hvalue] at h
          cases h
          refine ⟨_, ?_, hspaceless.append (spaceless_unit hunit)⟩
          rw [List.append_assoc, List.takeWhile_append_dropWhile]
          exact hnumber

theorem durationParts_spaceless {steps sum total : Nat}
    (h : durationParts orig steps sum s = .ok total) :
  Spaceless s
  := by
  induction steps generalizing sum s with
  | zero =>
      rcases s with - | ⟨b, s⟩
      · exact spaceless_of_graphic (by simp)
      · contradiction
  | succ steps ih =>
      rcases s with - | ⟨b, s⟩
      · exact spaceless_of_graphic (by simp)
      · rw [durationParts, bind_eq_ok_iff] at h
        obtain ⟨⟨value, rest⟩, hpart, h⟩ := h
        simp only [refuse_if_eq_ok_iff] at h
        obtain ⟨text, htext, hspaceless⟩ := durationPart_spaceless hpart
        rw [htext]
        exact hspaceless.append (ih h.2)

/-- A duration that is accepted has no white space around it. -/
theorem trimSpace_of_parseDuration {d : Int} (h : parseDuration s = .ok d) :
  trimSpace s = s
  := by
  obtain ⟨sign, hsign, hgraphic⟩ := splitSign_append s
  have hbody : Spaceless (splitSign s).2 := by
    simp only [parseDuration] at h
    by_cases hzero : (splitSign s).2 = str "0"
    · rw [hzero]
      exact spaceless_of_graphic (by decide)
    · rw [if_neg hzero, refuse_if_eq_ok_iff, bind_eq_ok_iff] at h
      obtain ⟨-, sum, hparts, -⟩ := h
      exact durationParts_spaceless hparts
  rw [hsign]
  exact ((spaceless_of_graphic hgraphic).append hbody).trimSpace

end

end Go
