import BpfCompat.Go.Strings

/-!
# Lines and fields

Reading a text line by line with a bounded buffer, and splitting a text around separators.
A text written one line at a time, each ended by a line break, is read back as these lines
(`scanLines_unlines`).
-/

namespace Go

/-! ### Lines -/

/-- A line without the carriage return it may end with. -/
def dropCR (line : Str) : Str := if line.getLast? = some 13 then line.dropLast else line

/-- The parts between line breaks; what follows the last one counts when it is not empty. -/
def lines (text : Str) : List Str :=
  let parts := text.splitOn 10
  if parts.getLast? = some [] then parts.dropLast else parts

/-- The lines a scanner delivers.  It gives up on a line that does not fit its buffer together
with the line break. -/
def scanLines (maxTokenSize : Nat) (text : Str) : Option (List Str) :=
  if (lines text).all (·.length < maxTokenSize) then some ((lines text).map dropCR) else none

/-- Lines, each ended by a line break. -/
def unlines (ls : List Str) : Str := ls.flatMap (· ++ [10])

theorem unlines_append (ls ls' : List Str) :
  unlines (ls ++ ls') = unlines ls ++ unlines ls'
  := List.flatMap_append

theorem unlines_singleton (l : Str) :
  unlines [l] = l ++ [10]
  := List.flatMap_singleton _ l

/-- No part of a text holds the byte it was split at. -/
theorem notMem_of_mem_splitOn {sep : UInt8} {s part : Str} (h : part ∈ s.splitOn sep) :
  sep ∉ part
  := by
  induction s generalizing part with
  | nil =>
      rw [List.splitOn_nil, List.mem_singleton] at h
      simp [h]
  | cons b s ih =>
      rw [List.splitOn_cons_eq_if_modifyHead] at h
      split_ifs at h with hb
      · rw [List.mem_cons] at h
        rcases h with rfl | h
        · apply List.not_mem_nil
        · apply ih h
      · obtain ⟨first, rest, hparts⟩ := List.exists_cons_of_ne_nil (List.splitOn_ne_nil sep s)
        rw [hparts] at h ih
        rw [List.modifyHead_cons, List.mem_cons] at h
        rcases h with rfl | h
        · rw [beq_iff_eq] at hb
          simp [Ne.symm hb, ih List.mem_cons_self]
        · apply ih (List.mem_cons_of_mem first h)

theorem splitOn_unlines {ls : List Str} (h : ∀ l ∈ ls, 10 ∉ l) :
  (unlines ls).splitOn 10 = ls ++ [[]]
  := by
  induction ls with
  | nil => rfl
  | cons l ls ih =>
      rw [List.forall_mem_cons] at h
      have hl : ∀ b ∈ l, (b == (10 : UInt8)) = false := by
        intro b hb
        rw [beq_eq_false_iff_ne]
        rintro rfl
        exact h.1 hb
      rw [unlines, List.flatMap_cons, List.append_assoc, List.singleton_append,
        List.splitOn_eq_splitOnP, List.splitOnP_append_cons_of_forall_mem hl _ rfl,
        ← List.splitOn_eq_splitOnP]
      rw [unlines] at ih
      rw [ih h.2, List.cons_append]

/-- The lines of a text are those it was put together from. -/
theorem lines_unlines {ls : List Str} (h : ∀ l ∈ ls, 10 ∉ l) :
  lines (unlines ls) = ls
  := by
  rw [lines, splitOn_unlines h]
  simp

theorem dropCR_of_notMem {line : Str} (h : 13 ∉ line) :
  dropCR line = line
  := by
  rw [dropCR, if_neg]
  intro hlast
  exact h (List.mem_of_getLast? hlast)

theorem scanLines_unlines {maxTokenSize : Nat} {ls : List Str} (h : ∀ l ∈ ls, 10 ∉ l)
    (hcr : ∀ l ∈ ls, 13 ∉ l) :
  scanLines maxTokenSize (unlines ls)
    = if ∀ l ∈ ls, l.length < maxTokenSize then some ls else none
  := by
  have hdrop : ls.map dropCR = ls := by
    have hid : ∀ l ∈ ls, dropCR l = id l := fun l hl => dropCR_of_notMem (hcr l hl)
    rw [List.map_congr_left hid, List.map_id]
  rw [scanLines, lines_unlines h, hdrop]
  simp

/-! ### White space at the end of a line -/

theorem trimBoth_concat {α : Type*} {p : α → Bool} {a : α} (ha : p a = true) (l : List α) :
  trimBoth p (l ++ [a]) = trimBoth p l
  := by
  rw [trimBoth, trimBoth, List.dropWhile_append]
  split_ifs with hl
  · rw [List.isEmpty_iff] at hl
    rw [hl, List.dropWhile_cons_of_pos ha, List.dropWhile_nil]
  · rw [List.reverse_append, List.reverse_singleton, List.singleton_append,
      List.dropWhile_cons_of_pos ha]

/-- No encoding of a code point is completed by an ASCII byte. -/
theorem firstChar?_concat_ascii {b : UInt8} (hb : b < 128) {s : Str} (hs : s ≠ [])
    (h : firstChar? s = none) :
  firstChar? (s ++ [b]) = none
  := by
  rw [Option.eq_none_iff_forall_ne_some]
  intro c hc
  rcases List.append_eq_append_iff.mp (eq_encode_append_of_firstChar? hc) with
    ⟨t, hencode, ht⟩ | ⟨t, rfl, -⟩
  · rcases t with - | ⟨x, t⟩
    · have hfirst := firstChar?_encode_append c []
      rw [List.append_nil, hencode, List.append_nil, h] at hfirst
      contradiction
    · -- the ASCII byte is in the encoding, which is then a single byte
      have hx : b = x := by simpa using (List.cons.inj ht).1
      have hmem : b ∈ String.utf8EncodeChar c := by simp [hencode, hx]
      have hc128 : c.toNat < 128 := by
        rcases mem_utf8EncodeChar hmem with heq | ⟨hge, -⟩
        · rw [← heq]
          exact hb
        · exact absurd hge (Nat.not_le.mpr hb)
      have hlen := congrArg List.length hencode
      have hone : c.utf8Size = 1 := by
        rw [Char.utf8Size_eq_one_iff, UInt32.le_iff_toNat_le]
        exact Nat.le_of_lt_succ hc128
      rw [String.length_utf8EncodeChar, hone, List.length_append, List.length_cons] at hlen
      have hpos := List.length_pos_of_ne_nil hs
      omega
  · rw [firstChar?_encode_append] at h
    contradiction

/-- An ASCII byte after a text is a rune of its own. -/
theorem runes_concat_ascii {b : UInt8} (hb : b < 128) (s : Str) :
  runes (s ++ [b]) = runes s ++ [.char (asciiChar b)]
  := by
  induction hn : s.length using Nat.strong_induction_on generalizing s with
  | _ n ih =>
      rcases str_cases s with rfl | ⟨c, t, rfl⟩ | ⟨x, t, rfl, hbad⟩
      · rw [List.nil_append, runes_ascii_cons hb]
        rfl
      · have hpos := c.utf8Size_pos
        have hlt : t.length < n := by
          rw [← hn, List.length_append, String.length_utf8EncodeChar]
          omega
        rw [List.append_assoc, runes_encode_append, runes_encode_append, ih _ hlt t rfl,
          List.cons_append]
      · have hlt : t.length < n := by
          rw [← hn, List.length_cons]
          omega
        have hnone := firstChar?_concat_ascii hb (List.cons_ne_nil x t) hbad
        rw [List.cons_append] at hnone ⊢
        rw [runes_bad_cons hnone, runes_bad_cons hbad, ih _ hlt t rfl, List.cons_append]

/-- White space at the end is trimmed with that before it. -/
theorem trimSpace_concat {b : UInt8} (hb : b < 128)
    (hspace : isSpace (Rune.char (asciiChar b)).value = true) (s : Str) :
  trimSpace (s ++ [b]) = trimSpace s
  := by
  rw [trimSpace, runes_concat_ascii hb,
    @trimBoth_concat _ (fun r : Rune => isSpace r.value) _ hspace, trimSpace]

theorem trimSpace_concat_lf (s : Str) :
  trimSpace (s ++ [10]) = trimSpace s
  := trimSpace_concat (by decide) (by decide) s

/-- Lines written one after the other and lines joined by line breaks differ by a last line
break. -/
theorem unlines_eq_join {ls : List Str} (h : ls ≠ []) :
  unlines ls = join (str "\n") ls ++ [10]
  := by
  induction ls with
  | nil => contradiction
  | cons l ls ih =>
      rcases ls with - | ⟨l', ls⟩
      · simp [unlines, join]
      · have hrest := ih (List.cons_ne_nil l' ls)
        rw [unlines, List.flatMap_cons, ← unlines, hrest, show ([10] : Str) = str "\n" from rfl]
        simp [join]

theorem trimSpace_join (ls : List Str) :
  trimSpace (join (str "\n") ls) = trimSpace (unlines ls)
  := by
  rcases ls with - | ⟨l, ls⟩
  · rfl
  · rw [unlines_eq_join (List.cons_ne_nil l ls), trimSpace_concat_lf]

/-! ### Fields -/

/-- The parts of a text between the code points of a kind, without the empty ones. -/
def fieldsFunc (p : Char → Bool) (s : Str) : List Str :=
  (((runes s).splitOnP fun r => p r.value).filter (· ≠ [])).map ofRunes

/-- The parts of a text between white space. -/
def fields (s : Str) : List Str := fieldsFunc isSpace s

theorem runes_ne_nil {s : Str} (h : s ≠ []) :
  runes s ≠ []
  := by
  intro hnil
  apply h
  rw [← ofRunes_runes s, hnil]
  rfl

section

variable {s t : Str} (hs : ∀ b ∈ s, 32 < b ∧ b < 127) (ht : ∀ b ∈ t, 32 < b ∧ b < 127)

include hs

theorem ascii_of_graphic :
  ∀ b ∈ s, b < 128
  := fun b hb => lt_trans (hs b hb).2 (by decide)

theorem isSpace_of_mem_runes :
  ∀ r ∈ runes s, isSpace r.value = false
  := by
  rw [runes_of_ascii (ascii_of_graphic hs), List.forall_mem_map]
  intro b hb
  apply isSpace_asciiChar (hs b hb).1 (hs b hb).2

/-- A text without white space is a word. -/
theorem fields_word (hs' : s ≠ []) :
  fields s = [s]
  := by
  rw [fields, fieldsFunc, List.splitOnP_eq_singleton (isSpace_of_mem_runes hs)]
  simp [runes_ne_nil hs', ofRunes_runes]

include ht

theorem runes_pair :
  runes (s ++ 32 :: t) = runes s ++ .char ' ' :: runes t
  := by
  have hs' := ascii_of_graphic hs
  have ht' := ascii_of_graphic ht
  rw [runes_of_ascii hs', runes_of_ascii ht', runes_of_ascii]
  · rw [List.map_append, List.map_cons]
    rfl
  · rw [List.forall_mem_append, List.forall_mem_cons]
    exact ⟨hs', by decide, ht'⟩

/-- Two words with a space between them. -/
theorem fields_pair (hs' : s ≠ []) (ht' : t ≠ []) :
  fields (s ++ 32 :: t) = [s, t]
  := by
  rw [fields, fieldsFunc, runes_pair hs ht,
    List.splitOnP_append_cons_of_forall_mem (isSpace_of_mem_runes hs) _ rfl,
    List.splitOnP_eq_singleton (isSpace_of_mem_runes ht)]
  simp [runes_ne_nil hs', runes_ne_nil ht', ofRunes_runes]

/-- They have no white space around them. -/
theorem trimSpace_pair (hs' : s ≠ []) (ht' : t ≠ []) :
  trimSpace (s ++ 32 :: t) = s ++ 32 :: t
  := by
  have hfirst := isSpace_of_mem_runes hs
  have hlast := isSpace_of_mem_runes ht
  apply runes_injective
  rw [runes_trimSpace, runes_pair hs ht]
  obtain ⟨a, l, hl⟩ := List.exists_cons_of_ne_nil (runes_ne_nil hs')
  obtain ⟨m, b, hm⟩ := (List.eq_nil_or_concat (runes t)).resolve_left (runes_ne_nil ht')
  have ha : isSpace a.value = false := hfirst a (by simp [hl])
  have hb : isSpace b.value = false := hlast b (by simp [hm])
  simp [trimBoth, hl, hm, ha, hb]

end

end Go
