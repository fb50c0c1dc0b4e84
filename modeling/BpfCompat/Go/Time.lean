import BpfCompat.Go.Strings

/-!
# The clock

A reading of the clock in UTC, to the second, and the two layouts in which it is written into
identifiers and reports.  The compact layout tells readings apart (`compact_injective`).
-/

namespace Go

/-- A number in decimal with at least the given number of digits. -/
def pad (width n : Nat) : Str := List.replicate (width - (decimal n).length) 48 ++ decimal n

/-- A reading of the clock, to the second. -/
structure Time where
  year : Nat
  month : Fin 12
  day : Fin 31
  hour : Fin 24
  minute : Fin 60
  second : Fin 60
deriving DecidableEq

/-- The layout `20060102T150405Z`. -/
def Time.compact (t : Time) : Str :=
  pad 4 t.year ++ pad 2 (t.month + 1) ++ pad 2 (t.day + 1) ++ str "T" ++ pad 2 t.hour ++
    pad 2 t.minute ++ pad 2 t.second ++ str "Z"

/-- The layout `2006-01-02T15:04:05Z`. -/
def Time.rfc3339 (t : Time) : Str :=
  pad 4 t.year ++ str "-" ++ pad 2 (t.month + 1) ++ str "-" ++ pad 2 (t.day + 1) ++ str "T" ++
    pad 2 t.hour ++ str ":" ++ pad 2 t.minute ++ str ":" ++ pad 2 t.second ++ str "Z"

theorem decimalValue_pad (width n : Nat) :
  decimalValue (pad width n) = n
  := by
  have hzeros : ∀ k, (List.replicate k (48 : UInt8)).foldl
      (fun n b => 10 * n + (b.toNat - 48)) 0 = 0 := by
    intro k
    induction k with
    | zero => rfl
    | succ k ih => exact ih
  rw [pad, decimalValue, List.foldl_append, hzeros]
  exact decimalValue_decimal n

theorem pad_injective (width : Nat) :
  Function.Injective (pad width)
  := by
  intro n m h
  rw [← decimalValue_pad width n, h, decimalValue_pad]

theorem length_pad_two {n : Nat} (h : n < 100) :
  (pad 2 n).length = 2
  := by
  have key : (decimal n).length ≤ 2 := by
    rw [decimal]
    split_ifs with hn
    · decide
    · rw [List.length_reverse, List.length_map]
      apply (Nat.digits_length_le_iff (by decide) n).mpr
      exact h
  rw [pad, List.length_append, List.length_replicate]
  omega

/-- Two digits in front of a text are determined by the whole. -/
theorem append_pad_two_inj {n m : Nat} (hn : n < 100) (hm : m < 100) {s t : Str} :
  s ++ pad 2 n = t ++ pad 2 m ↔ s = t ∧ n = m
  := by
  constructor
  · intro h
    have hlength : (pad 2 n).length = (pad 2 m).length := by
      rw [length_pad_two hn, length_pad_two hm]
    obtain ⟨hst, hnm⟩ := List.append_inj' h hlength
    exact ⟨hst, pad_injective 2 hnm⟩
  · rintro ⟨rfl, rfl⟩
    rfl

/-- The compact layout determines the reading. -/
theorem compact_injective :
  Function.Injective Time.compact
  := by
  rintro ⟨year, month, day, hour, minute, second⟩ ⟨year', month', day', hour', minute', second'⟩ h
  simp only [Time.compact] at h
  rw [List.append_cancel_right_eq, append_pad_two_inj (by omega) (by omega),
    append_pad_two_inj (by omega) (by omega), append_pad_two_inj (by omega) (by omega),
    List.append_cancel_right_eq, append_pad_two_inj (by omega) (by omega),
    append_pad_two_inj (by omega) (by omega)] at h
  obtain ⟨⟨⟨⟨⟨hyear, hmonth⟩, hday⟩, hhour⟩, hminute⟩, hsecond⟩ := h
  rw [Time.mk.injEq]
  refine ⟨pad_injective 4 hyear, ?_, ?_, ?_, ?_, ?_⟩
  all_goals
    apply Fin.ext
    omega

end Go
