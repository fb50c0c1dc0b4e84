import BpfCompat.Go.Json.Marshal
import BpfCompat.Go.Lines

/-!
# Values on lines of their own

A file of lines, each of them the text of a value.  A value of a struct is written on one line without
white space around it, so that the lines of such a file are the texts of the values, and a scanner
delivers them all exactly if each of them fits its buffer.
-/

namespace Go.Json

variable [UnicodeTables] {α : Type}

instance marshalsBool : Marshals bool where
  raw := .bool
  clean_raw _ := rfl

section

variable (c : Codec α) [Marshals c]

theorem lf_notMem_marshal (x : α) :
  10 ∉ marshal c x
  := by
  intro h
  have hle := (lineText_compact (printable_raw c x)).le_of_mem h
  exact absurd hle (by decide)

theorem cr_notMem_marshal (x : α) :
  13 ∉ marshal c x
  := by
  intro h
  have hle := (lineText_compact (printable_raw c x)).le_of_mem h
  exact absurd hle (by decide)

theorem marshal_ne_nil (hc : c.depth ≤ maxNestingDepth) (x : α) :
  marshal c x ≠ []
  := by
  have h := decode_marshal c hc x
  intro hnil
  rw [hnil] at h
  cases h

/-- The lines of a file that was written line by line. -/
theorem lines_unlines_marshal (xs : List α) :
  lines (unlines (xs.map (marshal c))) = xs.map (marshal c)
  := by
  apply lines_unlines
  rw [List.forall_mem_map]
  exact fun x _ => lf_notMem_marshal c x

theorem dropCR_marshal (x : α) :
  dropCR (marshal c x) = marshal c x
  := dropCR_of_notMem (cr_notMem_marshal c x)

/-- A scanner delivers the texts of the values if each of them fits its buffer. -/
theorem scanLines_unlines_marshal (maxTokenSize : Nat) (xs : List α) :
  scanLines maxTokenSize (unlines (xs.map (marshal c)))
    = if ∀ x ∈ xs, (marshal c x).length < maxTokenSize then some (xs.map (marshal c)) else none
  := by
  have hlf : ∀ l ∈ xs.map (marshal c), 10 ∉ l := by
    rw [List.forall_mem_map]
    exact fun x _ => lf_notMem_marshal c x
  have hcr : ∀ l ∈ xs.map (marshal c), 13 ∉ l := by
    rw [List.forall_mem_map]
    exact fun x _ => cr_notMem_marshal c x
  rw [scanLines_unlines hlf hcr]
  simp only [List.forall_mem_map]

end

omit [UnicodeTables] in
/-- Texts without stray bytes survive. -/
theorem map_toValidUTF8_eq_iff {ss : List Str} :
  ss.map toValidUTF8 = ss ↔ ∀ s ∈ ss, toValidUTF8 s = s
  := by
  conv_lhs => rw [← List.map_id ss, List.map_map, List.map_inj_left]
  rfl

theorem trimSpace_marshal_struct {β : Type} (f : Fields β) [MarshalsFields f] (e : α ≃ β)
    (h : f.names.Nodup) (x : α) :
  trimSpace (marshal (struct f e h) x) = marshal (struct f e h) x
  := trimSpace_compact_object (printable_raw (struct f e h) x)

omit [UnicodeTables] in
/-- A scanner stops early if one of the lines does not fit. -/
theorem length_takeWhile_lt_iff {p : α → Prop} [DecidablePred p] {l : List α} :
  (l.takeWhile (decide <| p ·)).length < l.length ↔ ¬ ∀ a ∈ l, p a
  := by
  have hpre : l.takeWhile (decide <| p ·) <+: l := List.takeWhile_prefix _
  rw [hpre.length_le.lt_iff_ne, Ne, not_iff_not]
  constructor
  · intro hlength a ha
    rw [← hpre.eq_of_length hlength] at ha
    have hp := List.mem_takeWhile_imp ha
    simpa using hp
  · intro hall
    rw [List.takeWhile_eq_self_iff.mpr]
    simpa using hall

end Go.Json
