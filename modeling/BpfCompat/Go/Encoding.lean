import BpfCompat.Go.Strings

/-!
# Hexadecimal and base64

The packages `encoding/hex` and `encoding/base64`: how bytes are written as text and read
back.  Both texts are ASCII without white space.
-/

namespace Go

/-! ### Hexadecimal -/

/-- Two lower-case hexadecimal digits for each byte. -/
def hexEncode (s : Str) : Str :=
  s.flatMap fun b => [hexDigit (b.toNat / 16), hexDigit (b.toNat % 16)]

/-- The value of a hexadecimal digit. -/
def fromHexChar (b : UInt8) : Option Nat :=
  if 48 ≤ b ∧ b ≤ 57 then some (b.toNat - 48)
  else if 97 ≤ b ∧ b ≤ 102 then some (b.toNat - 87)
  else if 65 ≤ b ∧ b ≤ 70 then some (b.toNat - 55)
  else none

/-- The bytes a text of hexadecimal digits denotes. -/
def hexDecode : Str → Option Str
  | [] => some []
  | [_] => none
  | a :: b :: s => do
    let high ← fromHexChar a
    let low ← fromHexChar b
    let rest ← hexDecode s
    return UInt8.ofNat (16 * high + low) :: rest

theorem fromHexChar_hexDigit {n : Nat} (h : n < 16) :
  fromHexChar (hexDigit n) = some n
  := by
  have key : ∀ n < 16, fromHexChar (hexDigit n) = some n := by decide
  exact key n h

theorem hexDecode_hexEncode (s : Str) :
  hexDecode (hexEncode s) = some s
  := by
  induction s with
  | nil => rfl
  | cons b s ih =>
      have hlt := b.toNat_lt
      have hsum : 16 * (b.toNat / 16) + b.toNat % 16 = b.toNat := Nat.div_add_mod _ _
      rw [hexEncode] at ih ⊢
      rw [List.flatMap_cons]
      simp only [List.cons_append, List.nil_append, hexDecode, ih]
      rw [fromHexChar_hexDigit (by omega), fromHexChar_hexDigit (by omega)]
      simp only [Option.bind_eq_bind, Option.bind_some, hsum, UInt8.ofNat_toNat]
      rfl

theorem hexEncode_injective :
  Function.Injective hexEncode
  := by
  intro s t h
  have hdecode := hexDecode_hexEncode s
  rw [h, hexDecode_hexEncode] at hdecode
  exact (Option.some.inj hdecode).symm

theorem hexDigit_graphic {n : Nat} (h : n < 16) :
  32 < hexDigit n ∧ hexDigit n < 127
  := by
  have key : ∀ n < 16, 32 < hexDigit n ∧ hexDigit n < 127 := by decide
  exact key n h

theorem mem_hexEncode {s : Str} {b : UInt8} (h : b ∈ hexEncode s) :
  ∃ n < 16, b = hexDigit n
  := by
  obtain ⟨c, -, hc⟩ := List.mem_flatMap.mp h
  have hlt := c.toNat_lt
  rw [List.mem_pair] at hc
  obtain rfl | rfl := hc
  · exact ⟨_, by omega, rfl⟩
  · exact ⟨_, by omega, rfl⟩

theorem hexEncode_graphic (s : Str) :
  ∀ b ∈ hexEncode s, 32 < b ∧ b < 127
  := by
  intro b hb
  obtain ⟨n, hn, rfl⟩ := mem_hexEncode hb
  exact hexDigit_graphic hn

theorem length_hexEncode (s : Str) :
  (hexEncode s).length = 2 * s.length
  := by
  simp [hexEncode, List.length_flatMap, mul_comm]

/-! ### Base64 -/

/-- The character of a number below sixty-four. -/
def base64Char (n : Nat) : UInt8 :=
  if n < 26 then UInt8.ofNat (65 + n)
  else if n < 52 then UInt8.ofNat (71 + n)
  else if n < 62 then UInt8.ofNat (n - 4)
  else if n = 62 then 43
  else 47

/-- The number a character of the alphabet stands for. -/
def base64Value (b : UInt8) : Option Nat :=
  if 65 ≤ b ∧ b ≤ 90 then some (b.toNat - 65)
  else if 97 ≤ b ∧ b ≤ 122 then some (b.toNat - 71)
  else if 48 ≤ b ∧ b ≤ 57 then some (b.toNat + 4)
  else if b = 43 then some 62
  else if b = 47 then some 63
  else none

/-- Four characters for every three bytes; the last group is padded with `=`. -/
def base64Encode : Str → Str
  | [] => []
  | [a] => [base64Char (a.toNat / 4), base64Char (a.toNat % 4 * 16), 61, 61]
  | [a, b] =>
    [base64Char (a.toNat / 4), base64Char (a.toNat % 4 * 16 + b.toNat / 16),
      base64Char (b.toNat % 16 * 4), 61]
  | a :: b :: c :: s =>
    base64Char (a.toNat / 4) :: base64Char (a.toNat % 4 * 16 + b.toNat / 16) ::
      base64Char (b.toNat % 16 * 4 + c.toNat / 64) :: base64Char (c.toNat % 64) :: base64Encode s

/-- The bytes of a text in groups of four characters.  Only the last group may be padded;
what the padding cuts off is ignored. -/
def base64Groups : Str → Option Str
  | [] => some []
  | a :: b :: c :: d :: s => do
    let x ← base64Value a
    let y ← base64Value b
    let first := UInt8.ofNat (x * 4 + y / 16)
    if d = 61 then
      if s ≠ [] then none
      else if c = 61 then return [first]
      else
        let z ← base64Value c
        return [first, UInt8.ofNat (y % 16 * 16 + z / 4)]
    else
      let z ← base64Value c
      let w ← base64Value d
      let rest ← base64Groups s
      return first :: UInt8.ofNat (y % 16 * 16 + z / 4) :: UInt8.ofNat (z % 4 * 64 + w) :: rest
  | _ => none

/-- The bytes a text denotes; line breaks in it are skipped. -/
def base64Decode (s : Str) : Option Str :=
  base64Groups (s.filter fun b => b ≠ 10 ∧ b ≠ 13)

theorem base64Char_spec {n : Nat} (h : n < 64) :
  base64Value (base64Char n) = some n ∧ base64Char n ≠ 61 ∧ 32 < base64Char n ∧
    base64Char n < 127
  := by
  have key : ∀ n < 64, base64Value (base64Char n) = some n ∧ base64Char n ≠ 61 ∧
    32 < base64Char n ∧ base64Char n < 127 := by decide
  exact key n h

/-- What holds of the characters of the alphabet and of the padding holds of every byte of an
encoded text. -/
theorem forall_mem_base64Encode {p : UInt8 → Prop} (hchar : ∀ n < 64, p (base64Char n))
    (hpad : p 61) (s : Str) :
  ∀ b ∈ base64Encode s, p b
  := by
  fun_induction base64Encode s with
  | case1 => simp
  | case2 a =>
      have ha := a.toNat_lt
      simp only [List.forall_mem_cons, List.not_mem_nil, false_imp_iff, implies_true, and_true]
      exact ⟨hchar _ (by omega), hchar _ (by omega), hpad, hpad⟩
  | case3 a b =>
      have ha := a.toNat_lt
      have hb := b.toNat_lt
      simp only [List.forall_mem_cons, List.not_mem_nil, false_imp_iff, implies_true, and_true]
      exact ⟨hchar _ (by omega), hchar _ (by omega), hchar _ (by omega), hpad⟩
  | case4 a b c s ih =>
      have ha := a.toNat_lt
      have hb := b.toNat_lt
      have hc := c.toNat_lt
      simp only [List.forall_mem_cons]
      exact ⟨hchar _ (by omega), hchar _ (by omega), hchar _ (by omega), hchar _ (by omega), ih⟩

theorem base64Encode_graphic (s : Str) :
  ∀ b ∈ base64Encode s, 32 < b ∧ b < 127
  := by
  apply forall_mem_base64Encode
  · exact fun n hn => (base64Char_spec hn).2.2
  · decide

theorem length_base64Encode (s : Str) :
  (base64Encode s).length = 4 * ((s.length + 2) / 3)
  := by
  fun_induction base64Encode s with
  | case1 => rfl
  | case2 a => simp
  | case3 a b => simp
  | case4 a b c s ih =>
      simp only [List.length_cons, ih]
      omega

theorem base64Groups_base64Encode (s : Str) :
  base64Groups (base64Encode s) = some s
  := by
  fun_induction base64Encode s with
  | case1 => rfl
  | case2 a =>
      have ha := a.toNat_lt
      obtain ⟨h₁, -⟩ := base64Char_spec (n := a.toNat / 4) (by omega)
      obtain ⟨h₂, -⟩ := base64Char_spec (n := a.toNat % 4 * 16) (by omega)
      have hfirst : a.toNat / 4 * 4 + a.toNat % 4 * 16 / 16 = a.toNat := by omega
      simp only [base64Groups, h₁, h₂, Option.bind_eq_bind, Option.bind_some, hfirst,
        UInt8.ofNat_toNat]
      rfl
  | case3 a b =>
      have ha := a.toNat_lt
      have hb := b.toNat_lt
      obtain ⟨h₁, -⟩ := base64Char_spec (n := a.toNat / 4) (by omega)
      obtain ⟨h₂, -⟩ := base64Char_spec (n := a.toNat % 4 * 16 + b.toNat / 16) (by omega)
      obtain ⟨h₃, hpad, -⟩ := base64Char_spec (n := b.toNat % 16 * 4) (by omega)
      have hfirst : a.toNat / 4 * 4 + (a.toNat % 4 * 16 + b.toNat / 16) / 16 = a.toNat := by omega
      have hsecond : (a.toNat % 4 * 16 + b.toNat / 16) % 16 * 16 + b.toNat % 16 * 4 / 4
          = b.toNat := by omega
      simp only [base64Groups, h₁, h₂, h₃, hpad, Option.bind_eq_bind, Option.bind_some, hfirst,
        hsecond, UInt8.ofNat_toNat]
      rfl
  | case4 a b c s ih =>
      have ha := a.toNat_lt
      have hb := b.toNat_lt
      have hc := c.toNat_lt
      obtain ⟨h₁, -⟩ := base64Char_spec (n := a.toNat / 4) (by omega)
      obtain ⟨h₂, -⟩ := base64Char_spec (n := a.toNat % 4 * 16 + b.toNat / 16) (by omega)
      obtain ⟨h₃, -⟩ := base64Char_spec (n := b.toNat % 16 * 4 + c.toNat / 64) (by omega)
      obtain ⟨h₄, hpad, -⟩ := base64Char_spec (n := c.toNat % 64) (by omega)
      have hfirst : a.toNat / 4 * 4 + (a.toNat % 4 * 16 + b.toNat / 16) / 16 = a.toNat := by omega
      have hsecond : (a.toNat % 4 * 16 + b.toNat / 16) % 16 * 16
          + (b.toNat % 16 * 4 + c.toNat / 64) / 4 = b.toNat := by omega
      have hthird : (b.toNat % 16 * 4 + c.toNat / 64) % 4 * 64 + c.toNat % 64 = c.toNat := by omega
      simp only [base64Groups, h₁, h₂, h₃, h₄, hpad, ih, Option.bind_eq_bind, Option.bind_some,
        hfirst, hsecond, hthird, UInt8.ofNat_toNat]
      rfl

/-- What was written is read back. -/
theorem base64Decode_base64Encode (s : Str) :
  base64Decode (base64Encode s) = some s
  := by
  have hfilter : (base64Encode s).filter (fun b => b ≠ 10 ∧ b ≠ 13) = base64Encode s := by
    rw [List.filter_eq_self]
    intro b hb
    have hgt := (base64Encode_graphic s b hb).1
    have hne : b ≠ 10 ∧ b ≠ 13 := by
      constructor
      · rintro rfl
        exact absurd hgt (by decide)
      · rintro rfl
        exact absurd hgt (by decide)
    exact decide_eq_true hne
  rw [base64Decode, hfilter, base64Groups_base64Encode]

theorem take_base64Encode (s : Str) (j : Nat) :
  (base64Encode s).take (4 * j) = base64Encode (s.take (3 * j))
  := by
  fun_induction base64Encode s generalizing j with
  | case1 => rw [List.take_nil, List.take_nil, base64Encode]
  | case2 a =>
      rcases j with - | j
      · rfl
      · rw [List.take_of_length_le (by simp only [List.length_cons, List.length_nil]; omega),
          List.take_of_length_le (by simp only [List.length_cons, List.length_nil]; omega),
          base64Encode]
  | case3 a b =>
      rcases j with - | j
      · rfl
      · rw [List.take_of_length_le (by simp only [List.length_cons, List.length_nil]; omega),
          List.take_of_length_le (by simp only [List.length_cons, List.length_nil]; omega),
          base64Encode]
  | case4 a b c s ih =>
      rcases j with - | j
      · rfl
      · have hfour : 4 * (j + 1) = 4 * j + 1 + 1 + 1 + 1 := by omega
        have hthree : 3 * (j + 1) = 3 * j + 1 + 1 + 1 := by omega
        rw [hfour, hthree]
        simp only [List.take_succ_cons, ih]
        rw [base64Encode]

theorem length_of_base64Groups {t d : Str} (h : base64Groups t = some d) :
  t.length % 4 = 0 ∧ d.length ≤ 3 * (t.length / 4)
  := by
  fun_induction base64Groups t generalizing d with
  | case1 =>
      cases h
      simp
  | case2 a b c d' s ih =>
      simp only [Option.bind_eq_bind, Option.bind_eq_some_iff, Option.pure_def] at h
      obtain ⟨x, -, y, -, h⟩ := h
      split_ifs at h with hd hs hc
      · cases h
        simp [not_not.mp hs]
      · rw [Option.bind_eq_some_iff] at h
        obtain ⟨z, -, h⟩ := h
        cases h
        simp [not_not.mp hs]
      · simp only [Option.bind_eq_some_iff, Option.some.injEq] at h
        obtain ⟨z, -, w, -, rest, hrest, rfl⟩ := h
        obtain ⟨hmod, hlen⟩ := ih hrest
        simp only [List.length_cons]
        omega
  | case3 => cases h

theorem filter_take_base64Encode (s : Str) (k : Nat) :
  ((base64Encode s).take k).filter (fun b => b ≠ 10 ∧ b ≠ 13) = (base64Encode s).take k
  := by
  rw [List.filter_eq_self]
  intro b hb
  have hgt := (base64Encode_graphic s b (List.mem_of_mem_take hb)).1
  simp only [decide_eq_true_eq]
  constructor
  · rintro rfl
    exact absurd hgt (by decide)
  · rintro rfl
    exact absurd hgt (by decide)

/-- A text that was cut off denotes the bytes of its whole groups, or nothing. -/
theorem base64Decode_take {s : Str} {k : Nat} (hk : k < (base64Encode s).length) :
  base64Decode ((base64Encode s).take k) = if k % 4 = 0 then some (s.take (3 * (k / 4))) else none
  := by
  rw [base64Decode, filter_take_base64Encode]
  split_ifs with hmod
  · have hk4 : k = 4 * (k / 4) := by omega
    conv => lhs; rw [hk4]
    rw [take_base64Encode, base64Groups_base64Encode]
  · rw [Option.eq_none_iff_forall_not_mem]
    intro d hd
    have hlength := (length_of_base64Groups hd).1
    rw [List.length_take, Nat.min_eq_left hk.le] at hlength
    exact hmod hlength

end Go
