import Mathlib.Data.List.Basic

/-!
# Words of a shell line

How a POSIX shell cuts a command line into words and operators, and which characters of a
word are left for an expansion to see.  The scanner reads one byte at a time and keeps the
quoting state between bytes.  What it does not follow are the nested forms (command
substitution, braced parameters): a line that opens one has no reading here.
-/

namespace Shell

/-- A character of a word, by what the shell may still do with it. -/
inductive Part where
  /-- A character outside quotes, open to patterns, tildes, assignments and keywords. -/
  | bare (b : UInt8)
  /-- A character that stands for itself. -/
  | quoted (b : UInt8)
  /-- The dollar sign of a parameter expansion. -/
  | dollar
deriving DecidableEq

/-- A token of a line. -/
inductive Token where
  | word (parts : List Part)
  | operator (b : UInt8)
deriving DecidableEq

/-- The quoting state. -/
inductive Mode where
  | bare
  | single
  | double
  | escape (inDouble : Bool)
  | dollar (inDouble : Bool)
  | comment
deriving DecidableEq

/-- The tokens read so far, the word under construction and the quoting state. -/
structure Scan where
  tokens : List Token := []
  word : Option (List Part) := none
  mode : Mode := .bare
deriving DecidableEq

namespace Scan

/-- The scan with a word under construction, a new one if there was none. -/
def begin (s : Scan) : Scan := { s with word := some (s.word.getD []) }

/-- The scan with a further character in its word. -/
def push (s : Scan) (p : Part) : Scan := { s with word := some (s.word.getD [] ++ [p]) }

/-- The scan with its word, if there is one, among the tokens. -/
def close (s : Scan) : Scan :=
  { s with tokens := s.tokens ++ (s.word.map Token.word).toList, word := none }

/-- The scan with its word closed and an operator after it. -/
def operator (s : Scan) (b : UInt8) : Scan :=
  { s.close with tokens := s.close.tokens ++ [.operator b] }

/-- The scan with further characters in its word. -/
def extend (s : Scan) (parts : List Part) : Scan := { s with word := some (s.word.getD [] ++ parts) }

/-- The scan with further tokens before those it has read. -/
def after (s : Scan) (before : List Token) : Scan := { s with tokens := before ++ s.tokens }

def within (s : Scan) (m : Mode) : Scan := { s with mode := m }

end Scan

/-- The characters operators are made of, the line break among them. -/
def operators : List UInt8 := [10, 38, 40, 41, 59, 60, 62, 124]

/-- A byte outside quotes. -/
def stepBare (s : Scan) (b : UInt8) : Option Scan :=
  if b = 39 then some (s.begin.within .single)
  else if b = 34 then some (s.begin.within .double)
  else if b = 92 then some (s.within (.escape false))
  else if b = 36 then some ((s.push .dollar).within (.dollar false))
  else if b = 96 then none
  else if b = 32 ∨ b = 9 then some (s.close.within .bare)
  else if b ∈ operators then some ((s.operator b).within .bare)
  else if b = 35 ∧ s.word = none then some (s.within .comment)
  else some ((s.push (.bare b)).within .bare)

/-- A byte between double quotes. -/
def stepDouble (s : Scan) (b : UInt8) : Option Scan :=
  if b = 34 then some (s.within .bare)
  else if b = 92 then some (s.within (.escape true))
  else if b = 36 then some ((s.push .dollar).within (.dollar true))
  else if b = 96 then none
  else some ((s.push (.quoted b)).within .double)

/-- A byte after a backslash.  Between double quotes the backslash is kept before a byte it
does not escape; before a line break it joins the two lines. -/
def stepEscape (s : Scan) (inDouble : Bool) (b : UInt8) : Option Scan :=
  let back := s.within (if inDouble then .double else .bare)
  if b = 10 then some back
  else if inDouble = false ∨ b ∈ [36, 96, 34, 92] then some (back.push (.quoted b))
  else some ((back.push (.quoted 92)).push (.quoted b))

/-- A byte after a dollar sign, which may open a nested form. -/
def stepDollar (s : Scan) (inDouble : Bool) (b : UInt8) : Option Scan :=
  if b = 40 ∨ b = 123 then none
  else if inDouble then stepDouble s b
  else if b = 39 ∨ b = 34 then none
  else stepBare s b

/-- One byte of the line.  No line holds a null byte. -/
def step (s : Scan) (b : UInt8) : Option Scan :=
  if b = 0 then none
  else
    match s.mode with
    | .bare => stepBare s b
    | .single => some (if b = 39 then s.within .bare else s.push (.quoted b))
    | .double => stepDouble s b
    | .escape inDouble => stepEscape s inDouble b
    | .dollar inDouble => stepDollar s inDouble b
    | .comment => some (if b = 10 then (s.operator b).within .bare else s)

/-- The scan after some further bytes. -/
def run : Scan → List UInt8 → Option Scan
  | s, [] => some s
  | s, b :: rest => (step s b).bind (run · rest)

/-- The tokens at the end of a line; there are none when a quote is still open. -/
def finish (s : Scan) : Option (List Token) :=
  match s.mode with
  | .bare => some s.close.tokens
  | .dollar false => some s.close.tokens
  | .comment => some s.tokens
  | _ => none

/-- The tokens of a line. -/
def split (line : List UInt8) : Option (List Token) := (run {} line).bind finish

/-- The character a part stands for, when no expansion can see it. -/
def Part.literal? : Part → Option UInt8
  | .quoted b => some b
  | _ => none

/-- The text of a word none of whose characters is seen by an expansion, quotes removed. -/
def Token.literal? : Token → Option (List UInt8)
  | .word parts => parts.mapM Part.literal?
  | .operator _ => none

/-- The word every character of which stands for itself. -/
def quotedWord (v : List UInt8) : Token := .word (v.map .quoted)

/-- The word written without quotes. -/
def bareWord (v : List UInt8) : Token := .word (v.map .bare)

theorem literal_quotedWord (v : List UInt8) :
  (quotedWord v).literal? = some v
  := by
  simp only [quotedWord, Token.literal?]
  induction v with
  | nil => rfl
  | cons b v ih => simp [Part.literal?, ih]

theorem mapM_literal_quotedWord (vs : List (List UInt8)) :
  (vs.map quotedWord).mapM Token.literal? = some vs
  := by
  induction vs with
  | nil => rfl
  | cons v vs ih => simp [literal_quotedWord, ih]

/-! ### Runs -/

theorem run_append (s : Scan) (l m : List UInt8) :
  run s (l ++ m) = (run s l).bind (run · m)
  := by
  induction l generalizing s with
  | nil => rfl
  | cons b l ih =>
      simp only [List.cons_append, run, Option.bind_assoc]
      congr
      funext s'
      apply ih

theorem run_then {s t : Scan} {l : List UInt8} (h : run s l = some t) (m : List UInt8) :
  run s (l ++ m) = run t m
  := by
  rw [run_append, h, Option.bind_some]

theorem operator_after (s : Scan) (before : List Token) (b : UInt8) :
  (s.after before).operator b = (s.operator b).after before
  := by
  simp [Scan.operator, Scan.close, Scan.after]

theorem close_after (s : Scan) (before : List Token) :
  (s.after before).close = s.close.after before
  := by
  simp [Scan.close, Scan.after]

theorem stepBare_after (s : Scan) (before : List Token) (b : UInt8) :
  stepBare (s.after before) b = (stepBare s b).map (·.after before)
  := by
  simp only [stepBare, operator_after, close_after, apply_ite (Option.map _), Option.map_some,
    Option.map_none]
  rfl

theorem stepDouble_after (s : Scan) (before : List Token) (b : UInt8) :
  stepDouble (s.after before) b = (stepDouble s b).map (·.after before)
  := by
  simp only [stepDouble, apply_ite (Option.map _), Option.map_some, Option.map_none]
  rfl

theorem stepEscape_after (s : Scan) (before : List Token) (inDouble : Bool) (b : UInt8) :
  stepEscape (s.after before) inDouble b = (stepEscape s inDouble b).map (·.after before)
  := by
  simp only [stepEscape, apply_ite (Option.map _), Option.map_some]
  rfl

/-- The tokens read before have no part in what is read next. -/
theorem step_after (s : Scan) (before : List Token) (b : UInt8) :
  step (s.after before) b = (step s b).map (·.after before)
  := by
  have hmode : (s.after before).mode = s.mode := rfl
  rw [step, step, apply_ite (Option.map _), Option.map_none, hmode]
  congr 1
  cases s.mode with
  | bare => apply stepBare_after
  | single =>
      simp only [Option.map_some, apply_ite (Scan.after · before)]
      rfl
  | double => apply stepDouble_after
  | escape inDouble => apply stepEscape_after
  | dollar inDouble =>
      simp only [stepDollar, stepBare_after, stepDouble_after, apply_ite (Option.map _),
        Option.map_none]
  | comment =>
      simp only [Option.map_some, apply_ite (Scan.after · before), operator_after]
      rfl

theorem run_after (s : Scan) (before : List Token) (l : List UInt8) :
  run (s.after before) l = (run s l).map (·.after before)
  := by
  induction l generalizing s with
  | nil => rfl
  | cons b l ih =>
      rw [run, run, step_after]
      rcases step s b with - | s'
      · rfl
      · apply ih

/-- A text that begins with a blank or a semicolon is read like a line of its own. -/
theorem run_closing {s t : Scan} (hs : s.mode = .bare) {l : List UInt8}
    (hl : l.head? = some 32 ∨ l.head? = some 59) (h : run {} l = some t) :
  run s l = some (t.after s.close.tokens)
  := by
  rcases l with - | ⟨b, l⟩
  · simp at hl
  simp only [List.head?_cons, Option.some.injEq] at hl
  have hstep : step s b = (step {} b).map (·.after s.close.tokens) := by
    rcases hl with rfl | rfl
    · simp [step, stepBare, Scan.close, Scan.within, Scan.after, hs]
    · simp [step, stepBare, operators, Scan.operator, Scan.close, Scan.within, Scan.after, hs]
  rw [run] at h ⊢
  rw [hstep]
  rcases hnext : step {} b with - | s'
  · rw [hnext] at h
    contradiction
  · rw [hnext, Option.bind_some] at h
    rw [Option.map_some, Option.bind_some, run_after, h, Option.map_some]

/-- Inside single quotes nothing but the closing quote is special. -/
theorem step_single {s : Scan} (hs : s.mode = .single) {b : UInt8} (hb : b ≠ 0) (hquote : b ≠ 39) :
  step s b = some (s.push (.quoted b))
  := by
  simp [step, hs, hb, hquote]

/-- A single quote between double quotes stands for itself; here the single quotes around it
are closed before and opened again after. -/
theorem run_requote {s : Scan} (hs : s.mode = .single) :
  run s [39, 34, 39, 34, 39] = some (s.push (.quoted 39))
  := by
  simp [run, step, stepBare, stepDouble, Scan.begin, Scan.push, Scan.within, hs]

theorem step_open_single {s : Scan} (hs : s.mode = .bare) :
  step s 39 = some (s.begin.within .single)
  := by
  simp [step, stepBare, hs]

theorem step_close_single {s : Scan} (hs : s.mode = .single) :
  step s 39 = some (s.within .bare)
  := by
  simp [step, hs]

/-- The characters an unquoted word may be written with so that all of them are its own. -/
def Plain (b : UInt8) : Prop := b ∉ ([0, 39, 34, 92, 36, 96, 32, 9, 35] : List UInt8) ∧ b ∉ operators

instance (b : UInt8) : Decidable (Plain b) := inferInstanceAs (Decidable (_ ∧ _))

theorem step_plain {s : Scan} (hs : s.mode = .bare) {b : UInt8} (hb : Plain b) :
  step s b = some (s.push (.bare b))
  := by
  have hspecial := hb.1
  simp only [List.mem_cons, List.not_mem_nil, or_false, not_or] at hspecial
  obtain ⟨hnul, hsingle, hdouble, hback, hdollar, htick, hspace, htab, hhash⟩ := hspecial
  simp [step, stepBare, Scan.push, Scan.within, *, hb.2]

/-- A blank outside quotes ends the word before it. -/
theorem step_space {s : Scan} (hs : s.mode = .bare) :
  step s 32 = some s.close
  := by
  simp [step, stepBare, Scan.close, Scan.within, hs]

theorem extend_push (s : Scan) (p : Part) (parts : List Part) :
  (s.push p).extend parts = s.extend (p :: parts)
  := by
  simp [Scan.extend, Scan.push]

theorem run_plain {s : Scan} (hs : s.mode = .bare) {v : List UInt8} (hne : v ≠ [])
    (hv : ∀ b ∈ v, Plain b) :
  run s v = some (s.extend (v.map .bare))
  := by
  induction v generalizing s with
  | nil => contradiction
  | cons b v ih =>
      rw [run, step_plain hs (hv b List.mem_cons_self), Option.bind_some]
      rcases v with - | ⟨c, v⟩
      · rfl
      · rw [ih (s := s.push (.bare b)) hs (List.cons_ne_nil c v)
          fun x hx => hv x (List.mem_cons_of_mem b hx), extend_push]
        rfl

end Shell
