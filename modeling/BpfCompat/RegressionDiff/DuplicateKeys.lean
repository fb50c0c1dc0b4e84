import BpfCompat.Go.Collections
import BpfCompat.Go.Fold
import BpfCompat.Go.Json.Decode
import BpfCompat.Go.Json.Token

/-!
# Documents with ambiguous keys

Before a document is decoded, its token stream is scanned for an object with two keys that
the decoder can bind to the same field.  The scan goes token by token and gives up, without
a finding, where the stream stops making sense.

On the lexemes of a value the scan never gives up, and where it finds nothing no object of
the value is ambiguous (`scan_value`).  Since a document that decodes consists of the
lexemes of a value, giving up means that the document does not decode.
-/

namespace RegressionDiff

open Go Go.Json

/-- How deep a document may nest. -/
def maxJSONDepth : Nat := 64

/-- Why the scan stopped. -/
inductive ScanError where
  | malformed
  | tooDeep
  | repeatedKey (path : Str)
  | collidingKeys (first key : Str)
deriving DecidableEq

section

variable [UnicodeTables]

/-- The text of a finding. -/
def ScanError.text : ScanError → Str
  | .malformed => str "malformed JSON"
  | .tooDeep =>
    str "JSON nesting deeper than " ++ itoa maxJSONDepth ++
      str " is refused; a bpfcompat report is not shaped like this"
  | .repeatedKey path =>
    str "the JSON key " ++ quote path ++
      str " appears twice in the same object; which value the release decision would be made from is ambiguous"
  | .collidingKeys first key =>
    str "the JSON keys " ++ quote first ++ str " and " ++ quote key ++
      str " appear in the same object and decode to the same field (field matching is case-insensitive), so which value the release decision would be made from is ambiguous"

/-- A key in the form the decoder compares it in. -/
def foldKey (key : Str) : Str := ofRunes ((runes key).map fun r => .char (foldRune r.value))

/-- Two keys have one folded form exactly when the decoder cannot tell them apart. -/
theorem foldKey_eq_iff {a b : Str} :
  foldKey a = foldKey b ↔ equalFold a b = true
  := by
  have hchars : foldKey a = foldKey b ↔
      (runes a).map (fun r => foldRune r.value) = (runes b).map (fun r => foldRune r.value) := by
    constructor
    · intro h
      have h' := congrArg runes h
      have hform : ∀ s : Str, runes (foldKey s)
          = ((runes s).map fun r => foldRune r.value).map Rune.char := by
        intro s
        rw [← runes_ofRunes_char, List.map_map]
        rfl
      rw [hform, hform] at h'
      exact List.map_injective_iff.mpr (fun _ _ h => Rune.char.inj h) h'
    · intro h
      have h' := congrArg (List.map Rune.char) h
      rw [List.map_map, List.map_map] at h'
      exact congrArg ofRunes h'
  rw [hchars, equalFold, beq_iff_eq]
  generalize runes a = l
  generalize runes b = m
  induction l generalizing m with
  | nil => cases m <;> simp
  | cons r l ih =>
      cases m with
      | nil => simp
      | cons t m =>
          simp only [List.map_cons, List.cons.injEq, foldRune_eq_iff, ih]

/-! ### The scan -/

/-- The closing delimiter of an array or object. -/
def closeDelim (dec : Decoder) : Except ScanError Decoder :=
  match dec.token with
  | none => .error .malformed
  | some (_, dec) => .ok dec

mutual

/-- The scan of the next value; `path` says where it stands and `depth` how deep. -/
def scanForDuplicateKeys : Nat → Decoder → Str → Nat → Except ScanError Decoder
  | 0, _, _, _ => .error .malformed
  | fuel + 1, dec, path, depth =>
    if depth > maxJSONDepth then .error .tooDeep
    else
      match dec.token with
      | none => .error .malformed
      | some (.leftBrace, dec) => do
        let dec ← scanMembers fuel dec path depth ∅
        closeDelim dec
      | some (.leftBracket, dec) => do
        let dec ← scanElements fuel dec path depth 0
        closeDelim dec
      | some (.rightBrace, dec) => closeDelim dec
      | some (.rightBracket, dec) => closeDelim dec
      | some (_, dec) => .ok dec

/-- The loop over the members of an object; `seen` holds the spelling of every folded key
met so far. -/
def scanMembers : Nat → Decoder → Str → Nat → Map Str Str → Except ScanError Decoder
  | 0, _, _, _, _ => .error .malformed
  | fuel + 1, dec, path, depth, seen =>
    if !dec.more then .ok dec
    else
      match dec.token with
      | some (.string key, dec) =>
        let child := if path = [] then key else path ++ str "." ++ key
        match seen.lookup (foldKey key) with
        | some first =>
          if first = key then .error (.repeatedKey child) else .error (.collidingKeys first key)
        | none => do
          let dec ← scanForDuplicateKeys fuel dec child (depth + 1)
          scanMembers fuel dec path depth (seen.insert (foldKey key) key)
      | _ => .error .malformed

/-- The loop over the elements of an array from index `i` on. -/
def scanElements : Nat → Decoder → Str → Nat → Nat → Except ScanError Decoder
  | 0, _, _, _, _ => .error .malformed
  | fuel + 1, dec, path, depth, i =>
    if !dec.more then .ok dec
    else do
      let dec ← scanForDuplicateKeys fuel dec (path ++ str "[" ++ itoa i ++ str "]") (depth + 1)
      scanElements fuel dec path depth (i + 1)

end

/-- The scan of a document. -/
def scanDocument (ls : List Lexeme) : Except ScanError Decoder :=
  scanForDuplicateKeys (ls.length + 1) { rest := ls } [] 0

/-- A document with ambiguous keys is refused; one the scan cannot read is left to the
decoder. -/
def rejectDuplicateKeys (ls : List Lexeme) : Except ScanError Unit :=
  match scanDocument ls with
  | .ok _ => .ok ()
  | .error .malformed => .ok ()
  | .error e => .error e

/-! ### What the scan finds out about a value -/

theorem distinctKeys_of_foldKey {ms : List (Str × Value)}
    (h : ms.Pairwise fun m m' => foldKey m.1 ≠ foldKey m'.1) :
  DistinctKeys ms
  := by
  apply h.imp
  intro m m' hne
  rw [← Bool.not_eq_true, ← foldKey_eq_iff]
  exact hne

/-- The scan did not give up; where it found nothing, it read exactly the value, and `P`
holds. -/
def Outcome (P : Prop) (after : Decoder) : Except ScanError Decoder → Prop
  | .ok dec => dec = after ∧ P
  | .error e => e ≠ .malformed

omit [UnicodeTables] in
theorem Outcome.bind {P Q : Prop} {after after' : Decoder} {r : Except ScanError Decoder}
    {f : Decoder → Except ScanError Decoder} (h : Outcome P after r)
    (hf : P → Outcome Q after' (f after)) :
  Outcome Q after' (r >>= f)
  := by
  cases r with
  | error e => exact h
  | ok dec =>
      obtain ⟨rfl, hP⟩ := h
      exact hf hP

omit [UnicodeTables] in
theorem Outcome.mono {P Q : Prop} {after : Decoder} {r : Except ScanError Decoder}
    (h : Outcome P after r) (hPQ : P → Q) :
  Outcome Q after r
  := by
  cases r with
  | error e => exact h
  | ok dec => exact ⟨h.1, hPQ h.2⟩

omit [UnicodeTables] in
theorem length_elementLexemes_pos (vs : List Value) :
  0 < (elementLexemes vs).length
  := by
  cases vs <;> simp [elementLexemes]

omit [UnicodeTables] in
theorem length_memberLexemes_pos (ms : List (Str × Value)) :
  0 < (memberLexemes ms).length
  := by
  cases ms <;> simp [memberLexemes]

omit [UnicodeTables] in
/-- A value does not begin with a closing delimiter. -/
theorem more_lexemes (v : Value) (ls : List Lexeme) (state : TokenState)
    (stack : List TokenState) :
  Decoder.more ⟨v.lexemes ++ ls, state, stack⟩ = true
  := by
  cases v with
  | array vs => cases vs <;> rfl
  | object ms => cases ms <;> rfl
  | _ => rfl

/-- What the scan does on a value that stands where a value may. -/
def ScansValue (v : Value) : Prop :=
  ∀ fuel dec path depth state stack rest, v.lexemes.length ≤ fuel → state.valueAllowed = true →
    dec.token = tokenFrom state stack (v.lexemes ++ rest) →
    Outcome (Unambiguous v) ⟨rest, state.valueEnd, stack⟩ (scanForDuplicateKeys fuel dec path depth)

/-- What the loop does on the remaining elements of an array. -/
def ScansElements (vs : List Value) : Prop :=
  ∀ fuel path depth i stack rest, (elementLexemes vs).length ≤ fuel →
    Outcome (∀ v ∈ vs, Unambiguous v) ⟨.rightBracket :: rest, .arrayComma, stack⟩
      (scanElements fuel ⟨elementLexemes vs ++ rest, .arrayComma, stack⟩ path depth i)

/-- What the loop does on the remaining members of an object. -/
def ScansMembers (ms : List (Str × Value)) : Prop :=
  ∀ fuel path depth seen stack rest, (memberLexemes ms).length ≤ fuel →
    Outcome ((∀ m ∈ ms, Unambiguous m.2) ∧
        (ms.Pairwise fun m m' => foldKey m.1 ≠ foldKey m'.1) ∧ ∀ m ∈ ms, foldKey m.1 ∉ seen)
      ⟨.rightBrace :: rest, .objectComma, stack⟩
      (scanMembers fuel ⟨memberLexemes ms ++ rest, .objectComma, stack⟩ path depth seen)

/-- One element, wherever in the array it stands. -/
theorem scanElements_step {v : Value} {vs : List Value} (hv : ScansValue v)
    (hvs : ScansElements vs) (state : TokenState) {fuel : Nat} {dec : Decoder} {path : Str}
    {depth i : Nat} {stack : List TokenState} {rest : List Lexeme}
    (hfuel : v.lexemes.length + (elementLexemes vs).length ≤ fuel) (hmore : dec.more = true)
    (hallowed : state.valueAllowed = true) (hend : state.valueEnd = .arrayComma)
    (htoken : dec.token = tokenFrom state stack (v.lexemes ++ (elementLexemes vs ++ rest))) :
  Outcome (∀ w ∈ v :: vs, Unambiguous w) ⟨.rightBracket :: rest, .arrayComma, stack⟩
    (scanElements fuel dec path depth i)
  := by
  have hvpos := length_lexemes_pos v
  have hvspos := length_elementLexemes_pos vs
  obtain ⟨n, rfl⟩ : ∃ n, fuel = n + 1 := ⟨fuel - 1, by omega⟩
  rw [scanElements, hmore]
  simp only [Bool.not_true, Bool.false_eq_true, if_false]
  apply (hv n dec _ _ state stack _ (by omega) hallowed htoken).bind
  intro hunamb
  rw [hend]
  apply (hvs n path depth (i + 1) stack rest (by omega)).mono
  intro h
  rw [List.forall_mem_cons]
  use hunamb, h

theorem scansElements {vs : List Value} (h : ∀ v ∈ vs, ScansValue v) :
  ScansElements vs
  := by
  induction vs with
  | nil =>
      intro fuel path depth i stack rest hfuel
      obtain ⟨n, rfl⟩ : ∃ n, fuel = n + 1 := ⟨fuel - 1, by
        have := length_elementLexemes_pos []
        omega⟩
      rw [scanElements]
      use rfl
      simp
  | cons v vs ih =>
      rw [List.forall_mem_cons] at h
      intro fuel path depth i stack rest hfuel
      simp only [elementLexemes, List.length_cons, List.length_append] at hfuel
      apply scanElements_step h.1 (ih h.2) .arrayValue (by omega) rfl rfl rfl
      rw [Decoder.token, elementLexemes, List.cons_append, tokenFrom, List.append_assoc]
      rfl

/-- One member, wherever in the object it stands. -/
theorem scanMembers_step {key : Str} {v : Value} {ms : List (Str × Value)} (hv : ScansValue v)
    (hms : ScansMembers ms) {fuel : Nat} {dec : Decoder} {path : Str} {depth : Nat}
    {seen : Map Str Str} {stack : List TokenState} {rest : List Lexeme}
    (hfuel : v.lexemes.length + (memberLexemes ms).length ≤ fuel) (hmore : dec.more = true)
    (htoken : dec.token = some (.string key,
      ⟨.colon :: (v.lexemes ++ (memberLexemes ms ++ rest)), .objectColon, stack⟩)) :
  Outcome ((∀ m ∈ (key, v) :: ms, Unambiguous m.2) ∧
      (((key, v) :: ms).Pairwise fun m m' => foldKey m.1 ≠ foldKey m'.1) ∧
      ∀ m ∈ (key, v) :: ms, foldKey m.1 ∉ seen)
    ⟨.rightBrace :: rest, .objectComma, stack⟩ (scanMembers fuel dec path depth seen)
  := by
  have hvpos := length_lexemes_pos v
  have hmspos := length_memberLexemes_pos ms
  obtain ⟨n, rfl⟩ : ∃ n, fuel = n + 1 := ⟨fuel - 1, by omega⟩
  rw [scanMembers, hmore]
  simp only [Bool.not_true, Bool.false_eq_true, if_false, htoken]
  cases hseen : seen.lookup (foldKey key) with
  | some first =>
      simp only
      by_cases hfirst : first = key
      · rw [if_pos hfirst]
        intro h
        cases h
      · rw [if_neg hfirst]
        intro h
        cases h
  | none =>
      rw [AList.lookup_eq_none] at hseen
      simp only
      apply (hv n _ _ _ .objectValue stack (memberLexemes ms ++ rest) (by omega) rfl rfl).bind
      intro hunamb
      apply (hms n path depth (seen.insert (foldKey key) key) stack rest (by omega)).mono
      rintro ⟨hmembers, hdistinct, hnew⟩
      -- a later key is not this one, and was not met before it
      have hlater : ∀ m ∈ ms, foldKey key ≠ foldKey m.1 ∧ foldKey m.1 ∉ seen := by
        intro m hm
        have hins := hnew m hm
        rw [AList.mem_insert, not_or] at hins
        use Ne.symm hins.1, hins.2
      refine ⟨?_, ?_, ?_⟩
      · rw [List.forall_mem_cons]
        use hunamb, hmembers
      · rw [List.pairwise_cons]
        use fun m hm => (hlater m hm).1, hdistinct
      · rw [List.forall_mem_cons]
        use hseen, fun m hm => (hlater m hm).2

theorem scansMembers {ms : List (Str × Value)} (h : ∀ m ∈ ms, ScansValue m.2) :
  ScansMembers ms
  := by
  induction ms with
  | nil =>
      intro fuel path depth seen stack rest hfuel
      obtain ⟨n, rfl⟩ : ∃ n, fuel = n + 1 := ⟨fuel - 1, by
        have := length_memberLexemes_pos []
        omega⟩
      rw [scanMembers]
      use rfl
      simp
  | cons m ms ih =>
      obtain ⟨key, v⟩ := m
      rw [List.forall_mem_cons] at h
      intro fuel path depth seen stack rest hfuel
      simp only [memberLexemes, List.length_cons, List.length_append] at hfuel
      apply scanMembers_step (v := v) h.1 (ih h.2) (by omega) rfl
      rw [Decoder.token, memberLexemes, List.cons_append, tokenFrom, List.cons_append,
        List.cons_append, List.append_assoc]
      rfl

/-- Too deep a value is a finding; otherwise the scan goes by the next token. -/
theorem scanForDuplicateKeys_succ {P : Prop} {after : Decoder} {fuel : Nat} {dec : Decoder}
    {path : Str} {depth : Nat}
    (h : Outcome P after (match dec.token with
      | none => .error .malformed
      | some (.leftBrace, dec) => scanMembers fuel dec path depth ∅ >>= closeDelim
      | some (.leftBracket, dec) => scanElements fuel dec path depth 0 >>= closeDelim
      | some (.rightBrace, dec) => closeDelim dec
      | some (.rightBracket, dec) => closeDelim dec
      | some (_, dec) => .ok dec)) :
  Outcome P after (scanForDuplicateKeys (fuel + 1) dec path depth)
  := by
  rw [scanForDuplicateKeys]
  by_cases hdepth : depth > maxJSONDepth
  · rw [if_pos hdepth]
    intro he
    cases he
  · rw [if_neg hdepth]
    exact h

/-- A value of one lexeme is one token. -/
theorem scansValue_of_token {v : Value} (tok : Token) (hv : Unambiguous v)
    (hlex : ∀ state stack rest, state.valueAllowed = true →
      tokenFrom state stack (v.lexemes ++ rest) = some (tok, ⟨rest, state.valueEnd, stack⟩))
    (htok : tok ≠ .leftBrace ∧ tok ≠ .leftBracket ∧ tok ≠ .rightBrace ∧ tok ≠ .rightBracket) :
  ScansValue v
  := by
  intro fuel dec path depth state stack rest hfuel hallowed htoken
  have hpos := length_lexemes_pos v
  obtain ⟨n, rfl⟩ : ∃ n, fuel = n + 1 := ⟨fuel - 1, by omega⟩
  apply scanForDuplicateKeys_succ
  rw [htoken, hlex state stack rest hallowed]
  obtain ⟨h₁, h₂, h₃, h₄⟩ := htok
  cases tok with
  | leftBrace => contradiction
  | leftBracket => contradiction
  | rightBrace => contradiction
  | rightBracket => contradiction
  | _ => exact ⟨rfl, hv⟩

/-- On the lexemes of a value the scan does not give up, and where it finds nothing the
value is unambiguous. -/
theorem scan_value (v : Value) :
  ScansValue v
  := by
  induction v using Value.ind with
  | null =>
      apply scansValue_of_token .null .null _ (by simp)
      intro state stack rest hallowed
      simp [Value.lexemes, tokenFrom, hallowed]
  | bool b =>
      apply scansValue_of_token (.bool b) (.bool b) _ (by simp)
      intro state stack rest hallowed
      simp [Value.lexemes, tokenFrom, hallowed]
  | number text =>
      apply scansValue_of_token (.number text) (.number text) _ (by simp)
      intro state stack rest hallowed
      simp [Value.lexemes, tokenFrom, hallowed]
  | string s =>
      apply scansValue_of_token (.string s) (.string s) _ (by simp)
      intro state stack rest hallowed
      -- where a value may stand a string is no key
      have hkey : ¬ (state = .objectStart ∨ state = .objectKey) := by
        rintro (rfl | rfl)
        · cases hallowed
        · cases hallowed
      simp [Value.lexemes, tokenFrom, hallowed, hkey]
  | array vs ih =>
      intro fuel dec path depth state stack rest hfuel hallowed htoken
      have hpos := length_lexemes_pos (.array vs)
      obtain ⟨n, rfl⟩ : ∃ n, fuel = n + 1 := ⟨fuel - 1, by omega⟩
      apply scanForDuplicateKeys_succ
      cases vs with
      | nil =>
          simp only [Value.lexemes, List.length_cons, List.length_nil] at hfuel
          obtain ⟨m, rfl⟩ : ∃ m, n = m + 1 := ⟨n - 1, by omega⟩
          simp only [htoken, Value.lexemes, tokenFrom, List.cons_append, hallowed, if_true,
            scanElements, List.nil_append]
          use rfl
          exact .array [] (by simp)
      | cons v vs =>
          rw [List.forall_mem_cons] at ih
          simp only [Value.lexemes, List.length_cons, List.length_append] at hfuel
          simp only [htoken, Value.lexemes, tokenFrom, List.cons_append, hallowed, if_true,
            List.append_assoc]
          apply (scanElements_step ih.1 (scansElements ih.2) .arrayStart (by omega)
            (more_lexemes v _ _ _) rfl rfl rfl).bind
          intro h
          use rfl
          exact .array _ h
  | object ms ih =>
      intro fuel dec path depth state stack rest hfuel hallowed htoken
      have hpos := length_lexemes_pos (.object ms)
      obtain ⟨n, rfl⟩ : ∃ n, fuel = n + 1 := ⟨fuel - 1, by omega⟩
      apply scanForDuplicateKeys_succ
      cases ms with
      | nil =>
          simp only [Value.lexemes, List.length_cons, List.length_nil] at hfuel
          obtain ⟨m, rfl⟩ : ∃ m, n = m + 1 := ⟨n - 1, by omega⟩
          simp only [htoken, Value.lexemes, tokenFrom, List.cons_append, hallowed, if_true,
            scanMembers, List.nil_append]
          use rfl
          exact .object [] List.Pairwise.nil (by simp)
      | cons m ms =>
          obtain ⟨key, v⟩ := m
          rw [List.forall_mem_cons] at ih
          simp only [Value.lexemes, List.length_cons, List.length_append] at hfuel
          simp only [htoken, Value.lexemes, tokenFrom, List.cons_append, hallowed, if_true,
            List.append_assoc]
          apply (scanMembers_step (v := v) ih.1 (scansMembers ih.2) (by omega) rfl rfl).bind
          rintro ⟨hmembers, hdistinct, -⟩
          use rfl
          exact .object _ (distinctKeys_of_foldKey hdistinct) hmembers

/-! ### What the scan finds out about a document -/

/-- The scan of a document that decodes does not give up, and where it finds nothing the
document is unambiguous. -/
theorem scanDocument_outcome {ls : List Lexeme} {v : Value} (h : parseDocument ls = some v) :
  Outcome (Unambiguous v) ⟨[], .topValue, []⟩ (scanDocument ls)
  := by
  have hls := parseDocument_sound h
  apply scan_value v (ls.length + 1) ⟨ls, .topValue, []⟩ [] 0 .topValue [] []
  · rw [hls]
    exact Nat.le_succ _
  · rfl
  · rw [Decoder.token, hls, List.append_nil]

theorem unambiguous_of_not_rejected {ls : List Lexeme} {v : Value}
    (h : parseDocument ls = some v) (hscan : rejectDuplicateKeys ls = .ok ()) :
  Unambiguous v
  := by
  have houtcome := scanDocument_outcome h
  rw [rejectDuplicateKeys] at hscan
  cases hs : scanDocument ls with
  | ok dec =>
      rw [hs] at houtcome
      exact houtcome.2
  | error e =>
      rw [hs] at houtcome hscan
      cases e with
      | malformed => exact absurd rfl houtcome
      | tooDeep => cases hscan
      | repeatedKey path => cases hscan
      | collidingKeys first key => cases hscan

end

end RegressionDiff
