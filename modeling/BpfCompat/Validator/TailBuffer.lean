import BpfCompat.C.Memory
import BpfCompat.Validator.Functional

/-!
# Tail buffers

The validator keeps the end of a stream in an array of fixed size.  Bytes that are appended take the
place of the first ones where there is no room: the text in the array is moved to the front, and the
new bytes are copied behind it.

The text in the array is the one of `appendTail` (`appendTail_text`), and so it is the end of all that
was appended (`tail_exact`).
-/

namespace Validator

namespace TailBuffer

open Go C

/-! ### The source -/

/-- The text is moved to the front as far as the new bytes need the room.  The length of what stays. -/
def makeRoom (m : Memory) (dst : Nat) (dstSize current srcLen : UInt64) : Memory × UInt64 :=
  if dstSize ≤ current + srcLen then
    let drop := current + srcLen - dstSize + 1
    if current ≤ drop then (store m dst 0, 0)
    else (memmove m dst (dst + drop.toNat) (current - drop + 1), current - drop)
  else (m, current)

def appendTail (m : Memory) (dst : Nat) (dstSize : UInt64) (src : Nat) (srcLen : UInt64) :
    Option Memory :=
  if dst = 0 ∨ dstSize = 0 ∨ src = 0 ∨ srcLen = 0 then some m
  else if dstSize ≤ srcLen then do
    let m ← memcpy m dst (src + (srcLen - dstSize + 1).toNat) (dstSize - 1)
    return store m (dst + (dstSize - 1).toNat) 0
  else do
    let current ← strlen m dst
    let (m, current) := makeRoom m dst dstSize current srcLen
    let m ← memcpy m (dst + current.toNat) src srcLen
    return store m (dst + (current + srcLen).toNat) 0

/-- Bytes are appended to a buffer.  What the memory outside of it has become since the last time does
not matter. -/
structure Call (dst : Block) where
  memory : Memory
  src : Block
  apart : dst.Apart src

section

variable {dst : Block}

/-- The bytes that are appended. -/
def Call.chunk (c : Call dst) : Str := c.src.bytes c.memory

/-- The memory as the call finds it. -/
def Call.before (c : Call dst) (m : Memory) : Memory :=
  fun a => if dst.Contains a then m a else c.memory a

def Call.run (m : Memory) (c : Call dst) : Option Memory :=
  appendTail (c.before m) dst.address dst.size c.src.address c.src.size

/-- All that is appended in some calls. -/
def appended (calls : List (Call dst)) : Str := (calls.map Call.chunk).flatten

end

/-! ### One call -/

/-- What stays of a text for which there is no room beside further bytes. -/
def kept (size : Nat) (text : Str) (n : Nat) : Str :=
  if size ≤ text.length + n then
    let dropped := text.length + n - size + 1
    if text.length ≤ dropped then [] else text.drop dropped
  else text

section

variable {dst src : Block} {m : Memory}

/-- What stays of the text is at the front, and nothing outside the buffer has changed. -/
theorem makeRoom_kept {current : UInt64} (hapart : dst.Apart src) (hterminated : dst.Terminated m)
    (hcurrent : current.toNat = (dst.text m).length) (hlt : src.size.toNat < dst.size.toNat) :
  ∃ m' length, makeRoom m dst.address dst.size current src.size = (m', length) ∧
    length.toNat = (kept dst.size.toNat (dst.text m) src.size.toNat).length ∧
    bytesAt m' dst.address length.toNat = kept dst.size.toNat (dst.text m) src.size.toNat ∧
    ∀ a, ¬ dst.Contains a → m' a = m a
  := by
  obtain ⟨hnul, hroom, hbytes⟩ := hterminated.bytesAt_text
  -- both lie in one address space, and so the sum does not wrap around
  have hsum := hapart.size_add_lt
  have hadd : (current + src.size).toNat = (dst.text m).length + src.size.toNat := by
    rw [UInt64.toNat_add, hcurrent, Nat.mod_eq_of_lt (by omega)]
  by_cases hfull : dst.size ≤ current + src.size
  · have hfull' := UInt64.le_iff_toNat_le.mp hfull
    have hdrop : (current + src.size - dst.size + 1).toNat =
        (dst.text m).length + src.size.toNat - dst.size.toNat + 1 := by
      rw [toNat_sub_add_one (by omega) hfull, hadd]
    rw [hadd] at hfull'
    rw [makeRoom, kept, if_pos hfull, if_pos hfull', ← hdrop]
    dsimp only
    generalize current + src.size - dst.size + 1 = drop at hdrop ⊢
    by_cases hall : current ≤ drop
    · -- the new bytes fill the buffer
      have hall' := UInt64.le_iff_toNat_le.mp hall
      rw [hcurrent] at hall'
      rw [if_pos hall, if_pos hall']
      refine ⟨_, _, rfl, rfl, rfl, ?_⟩
      intro a ha
      apply store_of_ne
      rintro rfl
      exact ha ⟨Nat.le_refl _, by omega⟩
    · have hall' := mt UInt64.le_iff_toNat_le.mpr hall
      rw [hcurrent] at hall'
      have hle : drop ≤ current := UInt64.le_iff_toNat_le.mpr (by omega)
      have hlength : (current - drop).toNat = (dst.text m).length - drop.toNat := by
        rw [UInt64.toNat_sub_of_le _ _ hle, hcurrent]
      have hmoved : (current - drop + 1).toNat = (dst.text m).length - drop.toNat + 1 := by
        rw [toNat_sub_add_one (by omega) hle, hcurrent]
      rw [if_neg hall, if_neg hall', memmove, hmoved]
      refine ⟨_, _, rfl, ?_, ?_, ?_⟩
      · rw [hlength, List.length_drop]
      · rw [hlength]
        exact bytesAt_copied_front (by omega) hbytes
      · intro a ha
        rw [Block.Contains] at ha
        exact copied_of_not (by omega)
  · have hfull' := mt UInt64.le_iff_toNat_le.mpr hfull
    rw [hadd] at hfull'
    rw [makeRoom, kept, if_neg hfull, if_neg hfull']
    exact ⟨_, _, rfl, hcurrent, hcurrent ▸ bytesAt_eq_left hbytes rfl, fun a _ => rfl⟩

/-- What stays has no null byte and leaves room for the new bytes. -/
theorem kept_room {size n : Nat} {text : Str} (hnul : 0 ∉ text) (hn : n < size) :
  0 ∉ kept size text n ∧ (kept size text n).length + n < size
  := by
  rw [kept]
  dsimp only
  split_ifs with hfull hall
  · exact ⟨List.not_mem_nil, by simpa using hn⟩
  · refine ⟨fun hzero => hnul (List.mem_of_mem_drop hzero), ?_⟩
    rw [List.length_drop]
    omega
  · exact ⟨hnul, by omega⟩

/-- There is something to append and a place for it. -/
theorem not_idle (hterminated : dst.Terminated m) (hempty : src.size ≠ 0) :
  ¬ (dst.address = 0 ∨ dst.size = 0 ∨ src.address = 0 ∨ src.size = 0)
  := by
  obtain ⟨-, hroom, -⟩ := hterminated.bytesAt_text
  have hsize : dst.size ≠ 0 := by
    intro hzero
    rw [hzero, UInt64.toNat_zero] at hroom
    omega
  simp [dst.notNull, src.notNull, hsize, hempty]

/-- Of more bytes than the buffer can hold, the last ones are kept. -/
theorem appendTail_long (hapart : dst.Apart src) (hterminated : dst.Terminated m)
    (hempty : src.size ≠ 0) (hlong : dst.size ≤ src.size) :
  ∃ m', appendTail m dst.address dst.size src.address src.size = some m' ∧ dst.Terminated m' ∧
    dst.text m' = cString ((src.bytes m).drop (src.size.toNat - dst.size.toNat + 1)) ∧
    ∀ a, ¬ dst.Contains a → m' a = m a
  := by
  obtain ⟨-, hroom, -⟩ := hterminated.bytesAt_text
  have hlong' := UInt64.le_iff_toNat_le.mp hlong
  have hone : 1 ≤ dst.size := by
    rw [UInt64.le_iff_toNat_le, UInt64.toNat_one]
    omega
  have hoffset := toNat_sub_add_one (Nat.zero_lt_of_lt hroom) hlong
  have hcount : (dst.size - 1).toNat = dst.size.toNat - 1 := by
    rw [UInt64.toNat_sub_of_le _ _ hone, UInt64.toNat_one]
  have hlast : bytesAt m (src.address + (src.size - dst.size + 1).toNat) (dst.size - 1).toNat =
      (src.bytes m).drop (src.size.toNat - dst.size.toNat + 1) := by
    rw [Block.bytes, drop_bytesAt, hoffset, hcount]
    congr 1
    omega
  obtain ⟨m', hcopy, hterminated', htext, hframe⟩ := @Block.exists_memcpy dst m []
    (src.address + (src.size - dst.size + 1).toNat) (dst.size - 1) rfl List.not_mem_nil
    (by rw [hcount, List.length_nil]; omega)
    (by rw [hoffset, hcount]; rw [Block.Apart] at hapart; omega)
  rw [List.length_nil, Nat.add_zero] at hcopy
  rw [List.length_nil, Nat.zero_add] at hterminated' htext hframe
  refine ⟨_, ?_, hterminated', ?_, hframe⟩
  · rw [appendTail, if_neg (not_idle hterminated hempty), if_pos hlong, hcopy]
    rfl
  · rw [htext, hlast, List.nil_append, cString]

/-- Of fewer bytes, all are kept, behind as much of the text as there is room for. -/
theorem appendTail_short (hapart : dst.Apart src) (hterminated : dst.Terminated m)
    (hempty : src.size ≠ 0) (hshort : ¬ dst.size ≤ src.size) :
  ∃ m', appendTail m dst.address dst.size src.address src.size = some m' ∧ dst.Terminated m' ∧
    dst.text m' = kept dst.size.toNat (dst.text m) src.size.toNat ++ cString (src.bytes m) ∧
    ∀ a, ¬ dst.Contains a → m' a = m a
  := by
  obtain ⟨hnul, hroom, -⟩ := hterminated.bytesAt_text
  have hlt := Nat.lt_of_not_le (mt UInt64.le_iff_toNat_le.mpr hshort)
  have hcurrent : (UInt64.ofNat (dst.text m).length).toNat = (dst.text m).length :=
    UInt64.toNat_ofNat_of_lt' (Nat.lt_trans hroom dst.size.toNat_lt)
  obtain ⟨m₁, length, hmade, hlength, hkept, hframe₁⟩ := makeRoom_kept hapart hterminated hcurrent hlt
  obtain ⟨hnul₁, hfits⟩ := kept_room hnul hlt
  rw [hlength] at hkept
  obtain ⟨m', hcopy, hterminated', htext, hframe⟩ := Block.exists_memcpy hkept hnul₁ hfits hapart
  have hsum : (length + src.size).toNat = length.toNat + src.size.toNat := by
    rw [UInt64.toNat_add, Nat.mod_eq_of_lt]
    have hsize := dst.size.toNat_lt
    omega
  have hsame : bytesAt m₁ src.address src.size.toNat = src.bytes m := by
    apply bytesAt_congr
    intro a _ _
    apply hframe₁
    rw [Block.Contains]
    rw [Block.Apart] at hapart
    omega
  rw [← hlength] at hcopy hterminated' htext hframe
  rw [← hsum] at hterminated' htext hframe
  refine ⟨_, ?_, hterminated', ?_, fun a ha => (hframe a ha).trans (hframe₁ a ha)⟩
  · rw [appendTail, if_neg (not_idle hterminated hempty), if_neg hshort, hterminated.strlen]
    simp only [Option.bind_eq_bind, Option.bind_some, hmade, hcopy]
    rfl
  · rw [htext, hsame, cString]

/-- Appending to a buffer appends to the text in it. -/
theorem appendTail_text (hapart : dst.Apart src) (hterminated : dst.Terminated m) :
  ∃ m', appendTail m dst.address dst.size src.address src.size = some m' ∧ dst.Terminated m' ∧
    dst.text m' = Validator.appendTail dst.size.toNat (dst.text m) (src.bytes m) ∧
    ∀ a, ¬ dst.Contains a → m' a = m a
  := by
  obtain ⟨-, hroom, -⟩ := hterminated.bytesAt_text
  have hlength : (src.bytes m).length = src.size.toNat := length_bytesAt m _ _
  by_cases hempty : src.size = 0
  · have hnil : src.bytes m = [] := by
      apply List.eq_nil_of_length_eq_zero
      rw [hlength, hempty, UInt64.toNat_zero]
    rw [appendTail, if_pos (by simp [hempty]), Validator.appendTail, if_pos (.inr hnil)]
    exact ⟨m, rfl, hterminated, rfl, fun a _ => rfl⟩
  have hcons : ¬ (dst.size.toNat = 0 ∨ src.bytes m = []) := by
    rw [not_or, ← List.length_eq_zero_iff, hlength]
    exact ⟨by omega, fun hzero => hempty (UInt64.toNat.inj hzero)⟩
  rw [Validator.appendTail, if_neg hcons, hlength]
  by_cases hlong : dst.size ≤ src.size
  · rw [if_pos (UInt64.le_iff_toNat_le.mp hlong)]
    exact appendTail_long hapart hterminated hempty hlong
  · rw [if_neg (mt UInt64.le_iff_toNat_le.mpr hlong)]
    exact appendTail_short hapart hterminated hempty hlong

end

/-! ### A sequence of calls -/

section

variable {dst : Block} {m : Memory}

/-- A call appends its bytes to the text in the buffer, and leaves the memory outside as it is. -/
theorem Call.run_text (c : Call dst) (hterminated : dst.Terminated m) :
  ∃ m', Call.run m c = some m' ∧ dst.Terminated m' ∧
    dst.text m' = Validator.appendTail dst.size.toNat (dst.text m) c.chunk ∧
    ∀ a, ¬ dst.Contains a → m' a = c.memory a
  := by
  have hdst : dst.bytes (c.before m) = dst.bytes m := by
    apply bytesAt_congr
    intro a hle hlt
    exact if_pos ⟨hle, hlt⟩
  have hsrc : c.src.bytes (c.before m) = c.chunk := by
    apply bytesAt_congr
    intro a hle hlt
    apply if_neg
    have hapart := c.apart
    rw [Block.Apart] at hapart
    rw [Block.Contains]
    omega
  have hbefore : dst.Terminated (c.before m) := by rwa [Block.Terminated, hdst]
  obtain ⟨m', hrun, hterminated', htext, hframe⟩ := appendTail_text c.apart hbefore
  have hsame : dst.text (c.before m) = dst.text m := by rw [Block.text, hdst, Block.text]
  rw [hsame, hsrc] at htext
  exact ⟨m', hrun, hterminated', htext, fun a ha => (hframe a ha).trans (if_neg ha)⟩

theorem foldlM_run_text (calls : List (Call dst)) (hterminated : dst.Terminated m) :
  ∃ m', calls.foldlM Call.run m = some m' ∧ dst.Terminated m' ∧
    dst.text m' = (calls.map Call.chunk).foldl (Validator.appendTail dst.size.toNat) (dst.text m)
  := by
  induction calls generalizing m with
  | nil => exact ⟨m, rfl, hterminated, rfl⟩
  | cons c calls ih =>
      obtain ⟨m₁, hrun, hterminated₁, htext₁, -⟩ := c.run_text hterminated
      obtain ⟨m', hcalls, hterminated', htext⟩ := ih hterminated₁
      refine ⟨m', ?_, hterminated', ?_⟩
      · rw [List.foldlM_cons, hrun]
        exact hcalls
      · rw [htext, htext₁]
        rfl

/-- Reading a pipe leaves in its buffer the text the wait loop has for it. -/
theorem readAvailableTail_text {pipe : Pipe} (hsize : dst.size.toNat = tailSize)
    (hterminated : dst.Terminated m) (hpipe : pipe.tail = dst.text m) (calls : List (Call dst))
    (last : PipeEnd) :
  ∃ m', calls.foldlM Call.run m = some m' ∧
    readAvailableTail pipe (.reads (calls.map Call.chunk) last) =
      some { «open» := last = .again, tail := dst.text m' }
  := by
  obtain ⟨m', hcalls, -, htext⟩ := foldlM_run_text calls hterminated
  refine ⟨m', hcalls, ?_⟩
  rw [readAvailableTail, htext, hsize, hpipe]

end

/-- A buffer that was empty holds, within its size, the last bytes of all that was appended, as many
as fit before the null byte. -/
theorem tail_exact (dst : Block) (hsize : 0 < dst.size) {m : Memory} (hempty : m dst.address = 0)
    (calls : List (Call dst)) (hnul : ∀ c ∈ calls, 0 ∉ c.chunk) :
  ∃ m', calls.foldlM Call.run m = some m' ∧ dst.Terminated m' ∧
    dst.text m' = (appended calls).rtake (min (appended calls).length (dst.size.toNat - 1))
  := by
  have hpos : 0 < dst.size.toNat := UInt64.lt_iff_toNat_lt.mp hsize
  have hfirst : bytesAt m dst.address 1 = [0] := by rw [bytesAt_one, hempty]
  obtain ⟨hterminated, htext⟩ := Block.text_of_bytesAt hpos hfirst List.mem_cons_self
  obtain ⟨m', hcalls, hterminated', htext'⟩ := foldlM_run_text calls hterminated
  refine ⟨m', hcalls, hterminated', ?_⟩
  have hflat : 0 ∉ (calls.map Call.chunk).flatten := by
    intro hzero
    obtain ⟨chunk, hchunk, hmem⟩ := List.mem_flatten.mp hzero
    obtain ⟨c, hc, rfl⟩ := List.mem_map.mp hchunk
    exact hnul c hc hmem
  have hall := foldl_appendTail hpos [] hflat
  rw [List.rtake_nil, List.nil_append, ← appended] at hall
  rw [htext', htext, List.takeWhile_cons_of_neg (by simp), hall, List.rtake, List.rtake]
  congr 1
  omega

/-- Four bytes of the memory. -/
def smallBuffer : Block where
  address := 4096
  size := 4
  notNull := by decide
  fits := by decide

/-- Bytes that stand elsewhere are appended. -/
def smallCall (chunk : Str) (h : chunk.length < 1000) : Call smallBuffer where
  memory a := chunk.getD (a - 8192) 0
  src :=
    { address := 8192
      size := UInt64.ofNat chunk.length
      notNull := by decide
      fits := by
        rw [UInt64.toNat_ofNat']
        omega }
  apart := .inl (show 4096 + 4 ≤ 8192 by decide)

/-- The text is moved to the front for the last byte. -/
theorem tail_exact_moved :
  ∃ m', [smallCall (str "ab") (by decide), smallCall (str "cde") (by decide),
      smallCall (str "f") (by decide)].foldlM Call.run (fun _ => 0) = some m' ∧
    smallBuffer.Terminated m' ∧ smallBuffer.text m' = str "def"
  := tail_exact smallBuffer (by decide) rfl _ (by decide)

end TailBuffer

end Validator
