import BpfCompat.Go.Strings

/-!
# Texts and numbers in C

A string is modelled by its bytes before the terminating null byte.  The functions of the
standard library that the validator reads its input with: searching for a byte, copying
into a buffer of a given size, and reading decimal numbers.
-/

namespace C

open Go

/-! ### Bytes and buffers -/

/-- The text before the first occurrence of a byte and the text after it. -/
def strchr (b : UInt8) (s : Str) : Option (Str × Str) :=
  if b ∈ s then some (s.takeWhile (· ≠ b), (s.dropWhile (· ≠ b)).tail) else none

/-- A text printed into a buffer of some size, with its terminating null byte. -/
def snprintf (size : Nat) (s : Str) : Str := s.take (size - 1)

theorem takeWhile_append_cons {b : UInt8} {s : Str} (h : b ∉ s) (t : Str) :
  (s ++ b :: t).takeWhile (· ≠ b) = s
  := by
  rw [List.takeWhile_append_of_pos, List.takeWhile_cons_of_neg, List.append_nil]
  · simp
  · intro a ha
    rw [decide_eq_true_eq]
    rintro rfl
    exact h ha

theorem dropWhile_append_cons {b : UInt8} {s : Str} (h : b ∉ s) (t : Str) :
  (s ++ b :: t).dropWhile (· ≠ b) = b :: t
  := by
  rw [List.dropWhile_append_of_pos, List.dropWhile_cons_of_neg]
  · simp
  · intro a ha
    rw [decide_eq_true_eq]
    rintro rfl
    exact h ha

theorem strchr_append_cons {b : UInt8} {s : Str} (h : b ∉ s) (t : Str) :
  strchr b (s ++ b :: t) = some (s, t)
  := by
  rw [strchr, if_pos (List.mem_append_right s List.mem_cons_self), takeWhile_append_cons h,
    dropWhile_append_cons h, List.tail_cons]

theorem strchr_of_notMem {b : UInt8} {s : Str} (h : b ∉ s) :
  strchr b s = none
  := if_neg h

theorem snprintf_of_lt {size : Nat} {s : Str} (h : s.length < size) :
  snprintf size s = s
  := List.take_of_length_le (by omega)

/-- A text that does not fit is cut off. -/
theorem snprintf_eq_self_iff {size : Nat} (hsize : 0 < size) {s : Str} :
  snprintf size s = s ↔ s.length < size
  := by
  rw [snprintf, List.take_eq_self_iff]
  omega

/-! ### Arrays of fixed capacity -/

/-- Filling an array.  If each item has to fit and takes a free place, all of them are put there
exactly when they fit and there is room for all. -/
theorem fill_ok_iff {σ α β ε : Type} {run : σ → List α → Except ε σ} {put : List β → σ}
    {read : α → β} {capacity : Nat} {good : List β → List α → Prop} {fits : α → Prop}
    (hnil : ∀ s, run s [] = .ok s)
    (hcons : ∀ {bs a l t}, good bs (a :: l) → (run (put bs) (a :: l) = .ok t
      ↔ fits a ∧ bs.length < capacity ∧ run (put (bs ++ [read a])) l = .ok t))
    (hgood : ∀ {bs a l}, good bs (a :: l) → good (bs ++ [read a]) l)
    {l : List α} {bs : List β} {t : σ} (h : good bs l) (hroom : bs.length ≤ capacity) :
  run (put bs) l = .ok t
    ↔ (∀ a ∈ l, fits a) ∧ bs.length + l.length ≤ capacity ∧ t = put (bs ++ l.map read)
  := by
  induction l generalizing bs with
  | nil =>
      rw [hnil, Except.ok.injEq, List.map_nil, List.append_nil, List.length_nil]
      simp only [List.not_mem_nil, false_implies, implies_true, true_and]
      exact ⟨fun ht => ⟨hroom, ht.symm⟩, fun ht => ht.2.symm⟩
  | cons a l ih =>
      have hlength : (bs ++ [read a]).length = bs.length + 1 := List.length_append
      rw [hcons h, List.map_cons, List.append_cons bs (read a) (l.map read), List.length_cons,
        List.forall_mem_cons]
      constructor
      · rintro ⟨hfits, hfree, hrest⟩
        obtain ⟨hothers, hall, ht⟩ := (ih (hgood h) (by omega)).mp hrest
        exact ⟨⟨hfits, hothers⟩, by omega, ht⟩
      · rintro ⟨⟨hfits, hothers⟩, hall, ht⟩
        exact ⟨hfits, by omega, (ih (hgood h) (by omega)).mpr ⟨hothers, by omega, ht⟩⟩

/-! ### Decimal numbers -/

def isspace (b : UInt8) : Bool := b = 32 || (9 ≤ b && b ≤ 13)

/-- The number a text begins with, after white space and a sign, and the rest of the text.  A number
of more than 64 bits is taken for the largest; without digits nothing is read. -/
def strtoul (s : Str) : Nat × Str :=
  let (negative, digits) := splitSign (s.dropWhile isspace)
  let number := decimalValue (digits.takeWhile isDecimal)
  if digits.takeWhile isDecimal = [] then (0, s)
  else if 2 ^ 64 ≤ number then (2 ^ 64 - 1, digits.dropWhile isDecimal)
  else (if negative then (2 ^ 64 - number) % 2 ^ 64 else number, digits.dropWhile isDecimal)

/-- The conversion `%u` of `sscanf`: the number, in 32 bits, and the rest of the text. -/
def scanUInt (s : Str) : Option (UInt32 × Str) :=
  let (number, rest) := strtoul s
  if rest.length = s.length then none else some (UInt32.ofNat number, rest)

/-- The number a text begins with, in 64 bits with a sign, and then in 32. -/
def atoi (s : Str) : Int :=
  let (negative, digits) := splitSign (s.dropWhile isspace)
  let number : Int := decimalValue (digits.takeWhile isDecimal)
  let long := if negative then max (-number) (-2 ^ 63) else min number (2 ^ 63 - 1)
  long.bmod (2 ^ 32)

section

variable {digits rest : Str}

theorem isspace_of_isDecimal {b : UInt8} (h : isDecimal b = true) :
  isspace b = false
  := by
  revert h b
  decide +kernel

theorem not_sign_of_isDecimal {b : UInt8} (h : isDecimal b = true) :
  (b == '-'.toUInt8) = false ∧ (b == '+'.toUInt8) = false
  := by
  revert h b
  decide +kernel

theorem takeWhile_digits (hdigits : ∀ b ∈ digits, isDecimal b = true)
    (hrest : ∀ b ∈ rest.head?, isDecimal b = false) :
  (digits ++ rest).takeWhile isDecimal = digits ∧ (digits ++ rest).dropWhile isDecimal = rest
  := by
  rw [List.takeWhile_append_of_pos hdigits, List.dropWhile_append_of_pos hdigits]
  rcases rest with - | ⟨b, rest⟩
  · simp
  · have hb := hrest b rfl
    simp [hb]

/-- Digits are read where they stand. -/
theorem splitSign_digits (hdigits : ∀ b ∈ digits, isDecimal b = true) (hne : digits ≠ []) :
  splitSign ((digits ++ rest).dropWhile isspace) = (false, digits ++ rest)
  := by
  obtain ⟨b, digits, rfl⟩ := List.exists_cons_of_ne_nil hne
  have hb := hdigits b List.mem_cons_self
  obtain ⟨hminus, hplus⟩ := not_sign_of_isDecimal hb
  rw [List.cons_append, List.dropWhile_cons_of_neg (by simp [isspace_of_isDecimal hb]), splitSign,
    hminus, hplus]
  rfl

theorem strtoul_digits (hdigits : ∀ b ∈ digits, isDecimal b = true) (hne : digits ≠ [])
    (hvalue : decimalValue digits < 2 ^ 64) (hrest : ∀ b ∈ rest.head?, isDecimal b = false) :
  strtoul (digits ++ rest) = (decimalValue digits, rest)
  := by
  obtain ⟨htake, hdrop⟩ := takeWhile_digits hdigits hrest
  rw [strtoul, splitSign_digits hdigits hne]
  simp only [htake, hdrop, if_neg hne, if_neg (Nat.not_le.mpr hvalue)]
  rfl

theorem decimal_digits (n : Nat) :
  (∀ b ∈ decimal n, isDecimal b = true) ∧ decimal n ≠ []
  := by
  refine ⟨fun b hb => isDecimal_of_mem_decimal hb, ?_⟩
  rw [decimal]
  split_ifs with hn
  · exact List.cons_ne_nil _ _
  · simp [Nat.digits_ne_nil_iff_ne_zero.mpr hn]

/-- A number that was printed is read back. -/
theorem strtoul_decimal {n : Nat} (hn : n < 2 ^ 64) (hrest : ∀ b ∈ rest.head?, isDecimal b = false) :
  strtoul (decimal n ++ rest) = (n, rest)
  := by
  rw [strtoul_digits (decimal_digits n).1 (decimal_digits n).2 _ hrest, decimalValue_decimal]
  rwa [decimalValue_decimal]

theorem scanUInt_decimal (n : UInt32) (hrest : ∀ b ∈ rest.head?, isDecimal b = false) :
  scanUInt (decimal n.toNat ++ rest) = some (n, rest)
  := by
  have hn := n.toNat_lt
  have hlength := List.length_pos_of_ne_nil (decimal_digits n.toNat).2
  rw [scanUInt, strtoul_decimal (by omega) hrest]
  simp only
  rw [if_neg, UInt32.ofNat_toNat]
  rw [List.length_append]
  omega

theorem atoi_decimal {n : Nat} (hn : n < 2 ^ 31) :
  atoi (decimal n) = n
  := by
  obtain ⟨hdigits, hne⟩ := decimal_digits n
  have hsign := @splitSign_digits _ [] hdigits hne
  have htake := (@takeWhile_digits _ [] hdigits (by simp)).1
  rw [List.append_nil] at hsign htake
  rw [atoi, hsign]
  simp only [htake, decimalValue_decimal, Bool.false_eq_true, if_false]
  rw [min_eq_left (by omega), Int.bmod_eq_of_le (by omega) (by omega)]

end

end C
