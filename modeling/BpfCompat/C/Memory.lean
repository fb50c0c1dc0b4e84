import BpfCompat.C

/-!
# Memory in C

The memory is a function from addresses to bytes, and an array is a block of it.  Sizes are numbers
of 64 bits, and so a sum of two sizes may wrap around; no block reaches beyond the address space,
so that the sizes of two blocks that are apart do not.

The functions of the standard library that copy within the memory, and the text in a block: the bytes
before its first null byte.
-/

namespace C

open Go

/-- The bytes of the memory by their addresses. -/
abbrev Memory := Nat → UInt8

/-- The bytes from an address on. -/
def bytesAt (m : Memory) (p n : Nat) : Str := (List.range n).map fun i => m (p + i)

/-! ### The standard library -/

/-- The assignment of a byte. -/
def store (m : Memory) (p : Nat) (b : UInt8) : Memory := Function.update m p b

/-- The memory after `n` bytes at `src` were copied to `dst`. -/
def copied (m : Memory) (dst src n : Nat) : Memory :=
  fun a => if dst ≤ a ∧ a < dst + n then m (src + (a - dst)) else m a

def memmove (m : Memory) (dst src : Nat) (n : UInt64) : Memory := copied m dst src n.toNat

/-- Copying between places that overlap is undefined. -/
def memcpy (m : Memory) (dst src : Nat) (n : UInt64) : Option Memory :=
  if dst + n.toNat ≤ src ∨ src + n.toNat ≤ dst then some (copied m dst src n.toNat) else none

/-- The number of bytes before the first null byte, which is looked for in the next `n` bytes. -/
def lengthWithin (m : Memory) (p : Nat) : Nat → Option Nat
  | 0 => none
  | n + 1 => if m p = 0 then some 0 else (lengthWithin m (p + 1) n).map (· + 1)

/-- The length of the text at an address.  There is none where no null byte follows in the address
space. -/
def strlen (m : Memory) (p : Nat) : Option UInt64 :=
  (lengthWithin m p (2 ^ 64 - p)).map UInt64.ofNat

/-! ### Blocks -/

/-- An array in the memory. -/
structure Block where
  address : Nat
  size : UInt64
  notNull : address ≠ 0
  fits : address + size.toNat ≤ 2 ^ 64

namespace Block

variable (b : Block)

/-- An address of the block. -/
def Contains (a : Nat) : Prop := b.address ≤ a ∧ a < b.address + b.size.toNat

instance (a : Nat) : Decidable (b.Contains a) := inferInstanceAs (Decidable (_ ∧ _))

/-- Two blocks have no address in common. -/
def Apart (c : Block) : Prop :=
  b.address + b.size.toNat ≤ c.address ∨ c.address + c.size.toNat ≤ b.address

def bytes (m : Memory) : Str := bytesAt m b.address b.size.toNat

/-- There is a null byte in the block. -/
def Terminated (m : Memory) : Prop := 0 ∈ b.bytes m

/-- The text in a block. -/
def text (m : Memory) : Str := (b.bytes m).takeWhile (· ≠ 0)

end Block

/-! ### Reading what was written -/

section

variable {m m' : Memory} {p n : Nat}

@[simp]
theorem length_bytesAt (m : Memory) (p n : Nat) :
  (bytesAt m p n).length = n
  := by
  simp [bytesAt]

theorem bytesAt_add (m : Memory) (p j k : Nat) :
  bytesAt m p (j + k) = bytesAt m p j ++ bytesAt m (p + j) k
  := by
  simp [bytesAt, List.range_add, Nat.add_assoc]

theorem bytesAt_eq_left {s t : Str} {j k : Nat} (h : bytesAt m p (j + k) = s ++ t)
    (hs : s.length = j) :
  bytesAt m p j = s
  := by
  rw [bytesAt_add] at h
  exact (List.append_inj h (by rw [length_bytesAt, hs])).1

@[simp]
theorem bytesAt_one (m : Memory) (p : Nat) :
  bytesAt m p 1 = [m p]
  := rfl

theorem bytesAt_congr (h : ∀ a, p ≤ a → a < p + n → m a = m' a) :
  bytesAt m p n = bytesAt m' p n
  := by
  apply List.map_congr_left
  intro i hi
  rw [List.mem_range] at hi
  apply h
  · omega
  · omega

theorem drop_bytesAt (m : Memory) (p n k : Nat) :
  (bytesAt m p n).drop k = bytesAt m (p + k) (n - k)
  := by
  obtain hk | hk := Nat.le_total k n
  · obtain ⟨j, rfl⟩ := Nat.exists_eq_add_of_le hk
    rw [bytesAt_add, List.drop_left' (length_bytesAt m p k), Nat.add_sub_cancel_left]
  · rw [Nat.sub_eq_zero_of_le hk]
    exact List.drop_eq_nil_of_le (by simpa using hk)

theorem store_self (m : Memory) (p : Nat) (b : UInt8) :
  store m p b p = b
  := by rw [store, Function.update_self]

theorem store_of_ne {a : Nat} (h : a ≠ p) (b : UInt8) :
  store m p b a = m a
  := by rw [store, Function.update_of_ne h]

theorem copied_of_not {dst src a : Nat} (h : ¬ (dst ≤ a ∧ a < dst + n)) :
  copied m dst src n a = m a
  := if_neg h

/-- The bytes that were copied are where they were copied to. -/
theorem bytesAt_copied (m : Memory) (dst src n : Nat) :
  bytesAt (copied m dst src n) dst n = bytesAt m src n
  := by
  apply List.map_congr_left
  intro i hi
  rw [List.mem_range] at hi
  rw [copied, if_pos ⟨by omega, by omega⟩, Nat.add_sub_cancel_left]

/-- The end of a text is moved to its front, and the null byte with it. -/
theorem bytesAt_copied_front {s : Str} {k : Nat} (hk : k ≤ s.length)
    (hbytes : bytesAt m p (s.length + 1) = s ++ [0]) :
  bytesAt (copied m p (p + k) (s.length - k + 1)) p (s.length - k) = s.drop k
  := by
  have hmoved : bytesAt (copied m p (p + k) (s.length - k + 1)) p (s.length - k + 1) =
      s.drop k ++ [0] := by
    rw [bytesAt_copied, ← Nat.sub_add_comm hk, ← drop_bytesAt, hbytes,
      List.drop_append_of_le_length hk]
  exact bytesAt_eq_left hmoved List.length_drop

theorem lengthWithin_eq_some {s : Str} (hs : 0 ∉ s) (hbytes : bytesAt m p (s.length + 1) = s ++ [0])
    (hn : s.length < n) :
  lengthWithin m p n = some s.length
  := by
  induction s generalizing p n with
  | nil =>
      obtain ⟨n, rfl⟩ := Nat.exists_eq_add_one_of_ne_zero (Nat.ne_of_gt hn)
      have hzero : m p = 0 := by simpa using hbytes
      rw [lengthWithin, if_pos hzero, List.length_nil]
  | cons c s ih =>
      rw [List.mem_cons, not_or] at hs
      obtain ⟨n, rfl⟩ := Nat.exists_eq_add_one_of_ne_zero (Nat.ne_of_gt (Nat.zero_lt_of_lt hn))
      rw [List.length_cons, Nat.add_comm (s.length + 1), bytesAt_add, bytesAt_one,
        List.singleton_append, List.cons_append, List.cons.injEq] at hbytes
      rw [List.length_cons] at hn
      rw [lengthWithin, if_neg, ih hs.2 hbytes.2 (by omega), Option.map_some, List.length_cons]
      rw [hbytes.1]
      exact fun hzero => hs.1 hzero.symm

end

/-- Sizes are subtracted without wrapping around, and one more fits if something was subtracted. -/
theorem toNat_sub_add_one {j k : UInt64} (hk : 0 < k.toNat) (h : k ≤ j) :
  (j - k + 1).toNat = j.toNat - k.toNat + 1
  := by
  have hj := j.toNat_lt
  rw [UInt64.toNat_add, UInt64.toNat_sub_of_le _ _ h, UInt64.toNat_one, Nat.mod_eq_of_lt (by omega)]

/-! ### Texts in blocks -/

namespace Block

variable {b : Block} {m : Memory}

/-- The sizes of blocks that are apart can be added. -/
theorem Apart.size_add_lt {c : Block} (h : b.Apart c) :
  b.size.toNat + c.size.toNat < 2 ^ 64
  := by
  have hb := b.fits
  have hc := c.fits
  have hbnull := b.notNull
  have hcnull := c.notNull
  obtain h | h := h
  · omega
  · omega

/-- The bytes a block begins with have its text in them if they have a null byte. -/
theorem text_of_bytesAt {n : Nat} {s : Str} (hn : n ≤ b.size.toNat)
    (hbytes : bytesAt m b.address n = s) (hzero : 0 ∈ s) :
  b.Terminated m ∧ b.text m = s.takeWhile (· ≠ 0)
  := by
  obtain ⟨k, hk⟩ := Nat.exists_eq_add_of_le hn
  obtain ⟨t, u, hs, ht⟩ := List.eq_append_cons_of_mem hzero
  have hall : b.bytes m = t ++ 0 :: (u ++ bytesAt m (b.address + n) k) := by
    rw [bytes, hk, bytesAt_add, hbytes, hs, List.append_assoc, List.cons_append]
  constructor
  · rw [Terminated, hall]
    exact List.mem_append_right t List.mem_cons_self
  · rw [text, hall, hs, takeWhile_append_cons ht, takeWhile_append_cons ht]

/-- A text ends in its block with a null byte. -/
theorem Terminated.bytesAt_text (h : b.Terminated m) :
  0 ∉ b.text m ∧ (b.text m).length < b.size.toNat ∧
    bytesAt m b.address ((b.text m).length + 1) = b.text m ++ [0]
  := by
  obtain ⟨t, u, hbytes, ht⟩ := List.eq_append_cons_of_mem h
  have htext : b.text m = t := by rw [text, hbytes, takeWhile_append_cons ht]
  have hsize : b.size.toNat = t.length + 1 + u.length := by
    rw [← length_bytesAt m b.address b.size.toNat, ← bytes, hbytes, List.length_append,
      List.length_cons]
    omega
  rw [bytes, hsize, List.append_cons] at hbytes
  rw [htext]
  exact ⟨ht, by omega, bytesAt_eq_left hbytes (by simp)⟩

theorem Terminated.strlen (h : b.Terminated m) :
  strlen m b.address = some (UInt64.ofNat (b.text m).length)
  := by
  obtain ⟨hnul, hroom, hbytes⟩ := h.bytesAt_text
  have hfits := b.fits
  rw [C.strlen, lengthWithin_eq_some hnul hbytes (by omega), Option.map_some]

/-- Bytes from elsewhere are copied behind those a block begins with, and a null byte behind them. -/
theorem exists_memcpy {kept : Str} {src : Nat} {n : UInt64}
    (hkept : bytesAt m b.address kept.length = kept) (hnul : 0 ∉ kept)
    (hroom : kept.length + n.toNat < b.size.toNat)
    (hapart : b.address + b.size.toNat ≤ src ∨ src + n.toNat ≤ b.address) :
  ∃ m', memcpy m (b.address + kept.length) src n = some m' ∧
    let m' := store m' (b.address + (kept.length + n.toNat)) 0
    b.Terminated m' ∧ b.text m' = kept ++ (bytesAt m src n.toNat).takeWhile (· ≠ 0) ∧
      ∀ a, ¬ b.Contains a → m' a = m a
  := by
  refine ⟨copied m (b.address + kept.length) src n.toNat, if_pos (by omega), ?_⟩
  intro m'
  have hend : m' (b.address + (kept.length + n.toNat)) = 0 := store_self _ _ 0
  have hother : ∀ a, a ≠ b.address + (kept.length + n.toNat) →
      m' a = copied m (b.address + kept.length) src n.toNat a := fun a ha => store_of_ne ha 0
  have hbytes : bytesAt m' b.address (kept.length + n.toNat + 1) =
      kept ++ (bytesAt m src n.toNat ++ [0]) := by
    have hbefore : bytesAt m' b.address kept.length = kept := by
      rw [← hkept, length_bytesAt]
      apply bytesAt_congr
      intro a _ ha
      rw [hother a (by omega), copied_of_not (by omega)]
    have hbehind : bytesAt m' (b.address + kept.length) n.toNat = bytesAt m src n.toNat := by
      rw [← bytesAt_copied m (b.address + kept.length) src n.toNat]
      apply bytesAt_congr
      intro a _ ha
      exact hother a (by omega)
    rw [bytesAt_add, bytesAt_add, hbefore, hbehind, bytesAt_one, hend, List.append_assoc]
  have hpos : ∀ c ∈ kept, decide (c ≠ 0) = true := by
    intro c hc
    rw [decide_eq_true_eq]
    rintro rfl
    exact hnul hc
  obtain ⟨hterminated, htext⟩ := text_of_bytesAt (by omega) hbytes (by simp)
  refine ⟨hterminated, ?_, ?_⟩
  · rw [htext, List.takeWhile_append_of_pos hpos, List.takeWhile_append]
    split_ifs with hlength
    · rw [List.takeWhile_cons_of_neg (by simp), List.append_nil,
        List.Sublist.eq_of_length (List.takeWhile_sublist _) hlength]
    · rfl
  · intro a ha
    rw [Contains] at ha
    rw [hother a (by omega), copied_of_not (by omega)]

end Block

end C
