import BpfCompat.Go.Json.Marshal
import BpfCompat.Go.Json.Narrow

/-!
# Documents written by hand

A program that prints a document piece by piece need not follow the layout of the encoder, nor the
order in which the reader names its fields.  What it prints is related to a value part by part
(`Writes.array`, `Writes.object`), and the value is read field by field, wherever the members stand
and whatever other members there are (`Keyed.readField`).
-/

namespace Go.Json

/-! ### Layouts -/

/-- The parts of an array or object follow one another on a line, or stand on lines of their own,
indented for the given depth. -/
inductive Layout where
  | line
  | lines (depth : Nat)

namespace Layout

/-- What is printed before a part. -/
def lead : Layout → Str
  | .line => []
  | .lines depth => newline (depth + 1)

/-- What is printed before the closing bracket. -/
def trail : Layout → Str
  | .line => []
  | .lines depth => newline depth

/-- What is printed between a colon and a value. -/
def gap : Layout → Str
  | .line => []
  | .lines _ => str " "

/-- The parts after the first one. -/
def following (l : Layout) : List Str → Str
  | [] => []
  | text :: texts => str "," ++ l.lead ++ text ++ l.following texts

def parts (l : Layout) : List Str → Str
  | [] => []
  | text :: texts => l.lead ++ text ++ l.following texts

def array (l : Layout) (texts : List Str) : Str := str "[" ++ l.parts texts ++ l.trail ++ str "]"

def member (l : Layout) (m : String × Str) : Str :=
  (34 :: (str m.1 ++ [34])) ++ str ":" ++ l.gap ++ m.2

def object (l : Layout) (ms : List (String × Str)) : Str :=
  str "\x7b" ++ l.parts (ms.map l.member) ++ l.trail ++ str "\x7d"

end Layout

section

variable (l : Layout) (rest : Str)

theorem lexemes_lead :
  lexemes (l.lead ++ rest) = lexemes rest
  := by
  cases l with
  | line => rfl
  | lines depth => apply lexemes_newline

theorem lexemes_trail :
  lexemes (l.trail ++ rest) = lexemes rest
  := by
  cases l with
  | line => rfl
  | lines depth => apply lexemes_newline

theorem lexemes_gap :
  lexemes (l.gap ++ rest) = lexemes rest
  := by
  cases l with
  | line => rfl
  | lines depth => apply lexemes_space

/-- Where a part may end: at a comma, or at the end of the array or object. -/
theorem delimited_following {b : UInt8} (hb : b = 93 ∨ b = 125) (texts : List Str) :
  Delimited (l.following texts ++ (l.trail ++ b :: rest))
  := by
  cases texts with
  | nil =>
      cases l with
      | line =>
          intro b' hb'
          obtain rfl := Option.mem_some.mp hb'
          apply Or.inr (Or.inr hb)
      | lines depth => apply Delimited.newline
  | cons text texts =>
      have hcomma : str "," = [44] := by decide
      intro b' hb'
      rw [Layout.following, hcomma] at hb'
      obtain rfl := Option.mem_some.mp hb'
      apply Or.inr (Or.inl rfl)

end

/-! ### Line breaks -/

/-- A line break is followed by an indentation or a closing bracket, and there is no carriage return:
the lines of the text are those of its layout. -/
structure Tidy (text : Str) : Prop where
  chain : text.IsChain fun a b => a = 10 → b = 32 ∨ b = 93 ∨ b = 125
  last : ∀ b ∈ text.getLast?, b ≠ 10
  noCR : 13 ∉ text

theorem Tidy.append {s t : Str} (hs : Tidy s) (ht : Tidy t) :
  Tidy (s ++ t)
  := by
  refine ⟨?_, ?_, ?_⟩
  · rw [List.isChain_append]
    refine ⟨hs.chain, ht.chain, ?_⟩
    intro a ha b _ heq
    exact absurd heq (hs.last a ha)
  · intro b hb
    rw [List.getLast?_append] at hb
    cases hlast : t.getLast? with
    | none =>
        rw [hlast, Option.none_or] at hb
        apply hs.last b hb
    | some c =>
        rw [hlast, Option.some_or] at hb
        apply ht.last b
        rw [hlast]
        apply hb
  · rw [List.mem_append, not_or]
    exact ⟨hs.noCR, ht.noCR⟩

/-- A text without line breaks. -/
theorem tidy_of_notMem {s : Str} (hlf : 10 ∉ s) (hcr : 13 ∉ s) :
  Tidy s
  := by
  refine ⟨?_, ?_, hcr⟩
  · apply List.Pairwise.isChain
    apply List.pairwise_of_forall_mem_list
    intro a ha b _ heq
    rw [heq] at ha
    contradiction
  · intro b hb heq
    rw [heq] at hb
    apply hlf (List.mem_of_getLast? hb)

/-- A line break before a line that is indented, or before a closing bracket. -/
theorem tidy_newline {d : Nat} {b : UInt8} (hb : b = 32 ∨ b = 93 ∨ b = 125) :
  Tidy (newline d ++ [b])
  := by
  have hspaces : Tidy (List.replicate (2 * d) 32 ++ [b]) := by
    apply Tidy.append
    · apply tidy_of_notMem
      · simp
      · simp
    · apply tidy_of_notMem
      · rcases hb with rfl | rfl | rfl <;> decide
      · rcases hb with rfl | rfl | rfl <;> decide
  rw [newline, List.cons_append]
  refine ⟨?_, ?_, ?_⟩
  · rw [List.isChain_cons]
    refine ⟨?_, hspaces.chain⟩
    intro c hc _
    cases d with
    | zero =>
        obtain rfl := Option.mem_some.mp hc
        apply hb
    | succ d =>
        obtain rfl := Option.mem_some.mp hc
        apply Or.inl rfl
  · intro c hc
    rw [← List.cons_append, List.getLast?_append, List.getLast?_singleton, Option.some_or] at hc
    obtain rfl := Option.mem_some.mp hc
    rcases hb with rfl | rfl | rfl <;> decide
  · rw [List.mem_cons, not_or]
    exact ⟨by decide, hspaces.noCR⟩

theorem tidy_lead (l : Layout) :
  Tidy l.lead
  := by
  cases l with
  | line => apply tidy_of_notMem <;> apply List.not_mem_nil
  | lines depth =>
      have hnewline : newline (depth + 1) = newline depth ++ [32] ++ [32] := by
        simp [newline, Nat.mul_add, List.replicate_add]
      rw [Layout.lead, hnewline]
      apply (tidy_newline (.inl rfl)).append
      apply tidy_of_notMem <;> decide

theorem tidy_trail (l : Layout) {b : UInt8} (hb : b = 93 ∨ b = 125) :
  Tidy (l.trail ++ [b])
  := by
  cases l with
  | line =>
      rcases hb with rfl | rfl
      · apply tidy_of_notMem <;> decide
      · apply tidy_of_notMem <;> decide
  | lines depth => apply tidy_newline (.inr hb)

theorem tidy_following (l : Layout) {texts : List Str} (h : ∀ text ∈ texts, Tidy text) :
  Tidy (l.following texts)
  := by
  induction texts with
  | nil => apply tidy_of_notMem <;> apply List.not_mem_nil
  | cons text texts ih =>
      rw [List.forall_mem_cons] at h
      rw [Layout.following]
      apply Tidy.append _ (ih h.2)
      apply Tidy.append _ h.1
      apply Tidy.append _ (tidy_lead l)
      apply tidy_of_notMem <;> decide

theorem tidy_parts (l : Layout) {texts : List Str} (h : ∀ text ∈ texts, Tidy text) :
  Tidy (l.parts texts)
  := by
  cases texts with
  | nil => apply tidy_of_notMem <;> apply List.not_mem_nil
  | cons text texts =>
      rw [List.forall_mem_cons] at h
      rw [Layout.parts]
      apply Tidy.append _ (tidy_following l h.2)
      apply (tidy_lead l).append h.1

/-! ### What a text is the text of -/

/-- The text is read as the value, which nests at most that deep. -/
structure Writes (n : Nat) (text : Str) (v : Value) : Prop where
  printable : Printable n v
  tidy : Tidy text
  lexemes (rest : Str) (h : Delimited rest) : lexemes (text ++ rest) = v.lexemes ++ lexemes rest

theorem Writes.mono {n k : Nat} {text : Str} {v : Value} (h : Writes n text v) (hk : n ≤ k) :
  Writes k text v
  := ⟨h.printable.mono hk, h.tidy, h.lexemes⟩

theorem writes_bool (b : Bool) :
  Writes 0 (formatBool b) (.bool b)
  := by
  refine ⟨.bool b, ?_, fun rest _ => lexemes_formatBool b rest⟩
  cases b with
  | true => apply tidy_of_notMem <;> decide
  | false => apply tidy_of_notMem <;> decide

theorem writes_int (k : Int) :
  Writes 0 (itoa k) (.number (itoa k))
  := by
  have hmem : ∀ b ∈ itoa k, isDecimal b = true ∨ b = 45 := by
    intro b hb
    rw [itoa] at hb
    split_ifs at hb
    · rw [List.mem_cons] at hb
      exact hb.elim .inr fun hb => .inl (isDecimal_of_mem_decimal hb)
    · apply Or.inl (isDecimal_of_mem_decimal hb)
  refine ⟨.number k, ?_, fun _ hrest => lexemes_itoa k hrest⟩
  apply tidy_of_notMem
  · intro hb
    exact absurd (hmem 10 hb) (by decide)
  · intro hb
    exact absurd (hmem 13 hb) (by decide)

theorem lexemes_followingElements (l : Layout) {n : Nat} {texts : List Str} {vs : List Value}
    (h : List.Forall₂ (Writes n) texts vs) (rest : Str) :
  lexemes (l.following texts ++ (l.trail ++ 93 :: rest)) = elementLexemes vs ++ lexemes rest
  := by
  have hclose : str "]" = [93] := by decide
  induction h with
  | nil =>
      have hbracket := lexemes_rightBracket rest
      rw [hclose, List.singleton_append] at hbracket
      rw [Layout.following, List.nil_append, lexemes_trail, hbracket]
      rfl
  | @cons text v texts vs htext _ ih =>
      simp only [Layout.following, List.append_assoc]
      rw [lexemes_comma, lexemes_lead, htext.lexemes _ (delimited_following l rest (.inl rfl) texts),
        ih, elementLexemes, List.cons_append, List.append_assoc]

/-- An array is read element by element. -/
theorem Writes.array (l : Layout) {n : Nat} {texts : List Str} {vs : List Value}
    (h : List.Forall₂ (Writes n) texts vs) :
  Writes (n + 1) (l.array texts) (.array vs)
  := by
  have hclose : str "]" = [93] := by decide
  constructor
  · apply Printable.array
    intro v hv
    obtain ⟨i, hi, rfl⟩ := List.mem_iff_getElem.mp hv
    have hlength := h.length_eq
    apply (h.get (by omega) hi).printable
  · rw [Layout.array, hclose, List.append_assoc, List.append_assoc]
    apply Tidy.append
    · apply tidy_of_notMem <;> decide
    apply Tidy.append _ (tidy_trail l (.inl rfl))
    apply tidy_parts
    intro text htext
    obtain ⟨i, hi, rfl⟩ := List.mem_iff_getElem.mp htext
    have hlength := h.length_eq
    apply (h.get hi (by omega)).tidy
  · intro rest _
    simp only [Layout.array, List.append_assoc, hclose, List.singleton_append]
    rw [lexemes_leftBracket]
    cases h with
    | nil =>
        have hend := lexemes_followingElements l (n := n) .nil rest
        rw [Layout.parts]
        rw [Layout.following] at hend
        rw [hend]
        rfl
    | @cons text v texts vs htext htexts =>
        simp only [Layout.parts, List.append_assoc]
        rw [lexemes_lead, htext.lexemes _ (delimited_following l rest (.inl rfl) texts),
          lexemes_followingElements l htexts, Value.lexemes, List.cons_append, List.append_assoc]

/-- A plain text needs no escapes. -/
theorem quoted_of_isPlain {s : Str} (h : s.all isPlain = true) :
  quoted s = 34 :: (s ++ [34])
  := by
  have hascii : ∀ b ∈ s, b < 128 := by
    intro b hb
    have hplain := List.all_eq_true.mp h b hb
    simp only [isPlain, Bool.and_eq_true, decide_eq_true_eq] at hplain
    apply lt_trans hplain.1.1.1.1.1.2 (by decide)
  have hescape : ((runes s).flatMap escapeRune).map .char = runes s := by
    rw [runes_of_ascii hascii, List.flatMap_map]
    clear hascii
    induction s with
    | nil => rfl
    | cons b s ih =>
        rw [List.all_cons, Bool.and_eq_true] at h
        rw [List.flatMap_cons, escapeRune, escapeChar_of_isPlain h.1, List.singleton_append,
          List.map_cons, ih h.2, List.map_cons]
  rw [quoted, hescape, ofRunes_runes]

theorem tidy_quoted_plain {s : Str} (h : s.all isPlain = true) :
  Tidy (34 :: (s ++ [34]))
  := by
  rw [List.all_eq_true] at h
  have hmem : ∀ b, isPlain b = false → b ≠ 34 → b ∉ 34 :: (s ++ [34]) := by
    intro b hb hquote hmem
    rw [List.mem_cons, List.mem_append, List.mem_singleton] at hmem
    rcases hmem with hmem | hmem | hmem
    · contradiction
    · rw [h b hmem] at hb
      cases hb
    · contradiction
  apply tidy_of_notMem
  · apply hmem 10 (by decide) (by decide)
  · apply hmem 13 (by decide) (by decide)

theorem writes_plain {s : Str} (h : s.all isPlain = true) (hs : ValidText s) :
  Writes 0 (34 :: (s ++ [34])) (.string s)
  := by
  refine ⟨.string hs, ?_, ?_⟩
  · apply tidy_quoted_plain h
  · intro rest _
    rw [← quoted_of_isPlain h]
    apply lexemes_quoted_text hs

/-- The text of a member, whose name needs no escapes. -/
structure WritesMember (n : Nat) (m : String × Str) (w : Str × Value) : Prop where
  plain : (str m.1).all isPlain = true
  name : str m.1 = w.1
  value : Writes n m.2 w.2

theorem WritesMember.mono {n k : Nat} {m : String × Str} {w : Str × Value}
    (h : WritesMember n m w) (hk : n ≤ k) :
  WritesMember k m w
  := ⟨h.plain, h.name, h.value.mono hk⟩

theorem WritesMember.tidy {l : Layout} {n : Nat} {m : String × Str} {w : Str × Value}
    (h : WritesMember n m w) :
  Tidy (l.member m)
  := by
  have hgap : Tidy l.gap := by
    cases l with
    | line => apply tidy_of_notMem <;> apply List.not_mem_nil
    | lines depth =>
        rw [Layout.gap]
        apply tidy_of_notMem <;> decide
  rw [Layout.member]
  apply Tidy.append _ h.value.tidy
  apply Tidy.append _ hgap
  apply (tidy_quoted_plain h.plain).append
  apply tidy_of_notMem <;> decide

theorem WritesMember.lexemes (l : Layout) {n : Nat} {m : String × Str} {w : Str × Value}
    (h : WritesMember n m w) {rest : Str} (hrest : Delimited rest) :
  Json.lexemes (l.member m ++ rest)
    = .string w.1 :: .colon :: (w.2.lexemes ++ Json.lexemes rest)
  := by
  rw [Layout.member, ← quoted_of_isPlain h.plain]
  simp only [List.append_assoc]
  rw [lexemes_quoted_text (validText_str m.1), lexemes_colon, lexemes_gap, h.value.lexemes _ hrest,
    h.name]

theorem lexemes_followingMembers (l : Layout) {n : Nat} {ms : List (String × Str)}
    {ws : List (Str × Value)} (h : List.Forall₂ (WritesMember n) ms ws) (rest : Str) :
  lexemes (l.following (ms.map l.member) ++ (l.trail ++ 125 :: rest))
    = memberLexemes ws ++ lexemes rest
  := by
  have hclose : str "\x7d" = [125] := by decide
  induction h with
  | nil =>
      have hbrace := lexemes_rightBrace rest
      rw [hclose, List.singleton_append] at hbrace
      rw [List.map_nil, Layout.following, List.nil_append, lexemes_trail, hbrace]
      rfl
  | @cons m w ms ws hm _ ih =>
      simp only [List.map_cons, Layout.following, List.append_assoc]
      rw [lexemes_comma, lexemes_lead,
        hm.lexemes l (delimited_following l rest (.inr rfl) _), ih, memberLexemes]
      simp

/-- An object is read member by member. -/
theorem Writes.object (l : Layout) {n : Nat} {ms : List (String × Str)} {ws : List (Str × Value)}
    (h : List.Forall₂ (WritesMember n) ms ws) :
  Writes (n + 1) (l.object ms) (.object ws)
  := by
  have hclose : str "\x7d" = [125] := by decide
  have hmem : ∀ w ∈ ws, ∃ m, WritesMember n m w := by
    intro w hw
    obtain ⟨i, hi, rfl⟩ := List.mem_iff_getElem.mp hw
    have hlength := h.length_eq
    exact ⟨_, h.get (by omega) hi⟩
  constructor
  · apply Printable.object
    · intro w hw
      obtain ⟨m, hm⟩ := hmem w hw
      rw [← hm.name]
      apply validText_str
    · intro w hw
      obtain ⟨m, hm⟩ := hmem w hw
      apply hm.value.printable
  · rw [Layout.object, hclose, List.append_assoc, List.append_assoc]
    apply Tidy.append
    · apply tidy_of_notMem <;> decide
    apply Tidy.append _ (tidy_trail l (.inr rfl))
    apply tidy_parts
    rw [List.forall_mem_map]
    intro m hm
    obtain ⟨i, hi, rfl⟩ := List.mem_iff_getElem.mp hm
    have hlength := h.length_eq
    apply (h.get hi (by omega)).tidy
  · intro rest _
    simp only [Layout.object, List.append_assoc, hclose, List.singleton_append]
    rw [lexemes_leftBrace]
    cases h with
    | nil =>
        have hend := lexemes_followingMembers l (n := n) .nil rest
        rw [List.map_nil, Layout.following] at hend
        rw [List.map_nil, Layout.parts, hend]
        rfl
    | @cons m w ms ws hm hms =>
        simp only [List.map_cons, Layout.parts, List.append_assoc]
        rw [lexemes_lead, hm.lexemes l (delimited_following l rest (.inr rfl) _),
          lexemes_followingMembers l hms, Value.lexemes]
        simp

/-- A document is parsed as the value it is the text of, also if nothing but a line break follows. -/
theorem Writes.parseDocument {n : Nat} {text : Str} {v : Value} (h : Writes n text v)
    (hn : n ≤ maxNestingDepth) {rest : Str} (hrest : rest = [] ∨ rest = [10]) :
  Json.parseDocument (Json.lexemes (text ++ rest)) = some v
  := by
  have hend : Json.lexemes rest = [] := by
    rcases hrest with rfl | rfl <;> rfl
  have hdelimited : Delimited rest := by
    intro b hb
    rcases hrest with rfl | rfl
    · cases hb
    · obtain rfl := Option.mem_some.mp hb
      apply Or.inl rfl
  have hparse := parses h.printable 0 v.lexemes.length [] (by omega) le_rfl
  rw [List.append_nil] at hparse
  rw [h.lexemes _ hdelimited, hend, List.append_nil, Json.parseDocument, decodeFirst, hparse]

/-! ### Reading the fields -/

section

variable [UnicodeTables]

/-- Every member is one of the named fields, or none; and no key occurs twice. -/
structure Keyed (names : List Str) (ms : List (Str × Value)) : Prop where
  known : ∀ m ∈ ms, m.1 ∈ names ∨ bindsTo names m.1 = none
  nodup : (ms.map Prod.fst).Nodup

/-- For ASCII keys, what they bind to does not depend on the Unicode tables. -/
theorem keyed_of_ascii {names : List Str} {ms : List (Str × Value)} (keys : List Str)
    (hkeys : ms.map Prod.fst = keys) (hnodup : keys.Nodup) (hascii : ∀ k ∈ keys, ∀ b ∈ k, b < 128)
    (hnames : ∀ k ∈ names, ∀ b ∈ k, b < 128)
    (hknown : ∀ k ∈ keys, k ∈ names ∨ @bindsTo asciiTables names k = none) :
  Keyed names ms
  := by
  subst hkeys
  refine ⟨?_, hnodup⟩
  intro m hm
  have hkey := List.mem_map_of_mem (f := Prod.fst) hm
  rw [bindsTo_ascii (hascii _ hkey) hnames]
  apply hknown _ hkey

/-- A field is read from the member of its name. -/
theorem Keyed.readField {names : List Str} {ms : List (Str × Value)} (h : Keyed names ms)
    {name : Str} {v : Value} (hv : (name, v) ∈ ms) (hname : name ∈ names) {α : Type}
    (read : Reader α) (x : α) :
  Json.readField names ms name read x = read v x
  := by
  obtain ⟨before, after, rfl⟩ := List.append_of_mem hv
  have hnodup := h.nodup
  rw [List.map_append, List.map_cons, List.nodup_middle, List.nodup_cons, ← List.map_append]
    at hnodup
  have hother : ∀ m ∈ before ++ after, bindsTo names m.1 ≠ some name := by
    intro m hm heq
    have hmem : m ∈ before ++ (name, v) :: after := by
      rw [List.mem_append] at hm
      rw [List.mem_append, List.mem_cons]
      tauto
    obtain hin | hnone := h.known m hmem
    · rw [Fields.bindsTo_of_mem hin, Option.some.injEq] at heq
      apply hnodup.1
      rw [← heq]
      apply List.mem_map_of_mem hm
    · rw [hnone] at heq
      cases heq
  have hskip : ∀ l : List (Str × Value), (∀ m ∈ l, bindsTo names m.1 ≠ some name) →
      Json.readField names l name read = some := by
    intro l hl
    induction l with
    | nil => rfl
    | cons m l ih =>
        rw [List.forall_mem_cons] at hl
        rw [readField_skip hl.1, ih hl.2]
  rw [List.forall_mem_append] at hother
  rw [Fields.readField_append, hskip before hother.1, Option.bind_some, readField_cons,
    Fields.bindsTo_of_mem hname, if_pos rfl, hskip after hother.2, Option.bind_fun_some]

theorem Keyed.field {names : List Str} {ms : List (Str × Value)} (h : Keyed names ms) {α : Type}
    {name : String} {c : Codec α} {v : Value} {x y : α} (hv : (str name, v) ∈ ms)
    (hname : str name ∈ names) (hread : c.read v x = some y) :
  (Fields.field name c).read names ms x = some y
  := by
  rw [Fields.field_read, h.readField hv hname, hread]

theorem Keyed.omitempty {names : List Str} {ms : List (Str × Value)} (h : Keyed names ms)
    {α : Type} {name : String} {c : Codec α} {v : Value} {x y : α} (hv : (str name, v) ∈ ms)
    (hname : str name ∈ names) (hread : c.read v x = some y) :
  (Fields.omitempty name c).read names ms x = some y
  := by
  rw [Fields.omitempty_read, h.readField hv hname, hread]

/-- A structure is read from an object if its fields are. -/
theorem struct_read_object {α β : Type} {f : Fields β} {e : α ≃ β} {hf : f.names.Nodup}
    {names : List Str} (hnames : f.names = names) {ms : List (Str × Value)} {x y : α}
    (h : f.read names ms (e x) = some (e y)) :
  (struct f e hf).read (.object ms) x = some y
  := by
  simp only [struct, readObject]
  rw [hnames, h, Option.map_some, Equiv.symm_apply_apply]

/-- A structure survives if its fields do. -/
theorem struct_canon {α β : Type} {f : Fields β} {e : α ≃ β} {hf : f.names.Nodup} {x : α}
    (h : f.canon (e x) = e x) :
  (struct f e hf).canon x = x
  := by
  simp only [struct, h, Equiv.symm_apply_apply]

theorem pair_canon {α β : Type} {f : Fields α} {g : Fields β} {x : α × β} (hf : f.canon x.1 = x.1)
    (hg : g.canon x.2 = x.2) :
  (f.pair g).canon x = x
  := Prod.ext hf hg

theorem field_canon {α : Type} {name : String} {c : Codec α} {x : α} (h : c.canon x = x) :
  (Fields.field name c).canon x = x
  := h

end

end Go.Json
