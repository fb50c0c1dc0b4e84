import BpfCompat.Validator.Document

/-!
# The result document is read back

A byte outside ASCII is printed as it is, so that a stray byte stays stray, whatever is escaped
around it (`runes_escaped`).  Part by part, what is printed is the text of what is reported, and what
is reported is what the runner reads (`document_round_trip`).
-/

namespace Validator

open Go Go.Json

/-! ### Strings of arbitrary bytes -/

theorem escapeByte_of_lt {p : UInt8} (h : p.toNat < 128) :
  ∃ b s, escapeByte p = b :: s ∧ b.toNat < 128
  := by
  have key : ∀ n : Fin 128,
      ((escapeByte (UInt8.ofNat n)).head?.any fun b => b.toNat < 128) = true := by
    decide +kernel
  have hp := key ⟨p.toNat, h⟩
  rw [UInt8.ofNat_toNat] at hp
  cases hs : escapeByte p with
  | nil =>
      rw [hs] at hp
      cases hp
  | cons b s =>
      rw [hs] at hp
      exact ⟨b, s, rfl, by simpa using hp⟩

/-- The bytes outside ASCII a text begins with are not changed by escapes. -/
theorem prefix_of_escaped {w t rest : Str} (hw : ∀ b ∈ w, 128 ≤ b.toNat)
    (h : w <+: t.flatMap escapeByte ++ 34 :: rest) :
  w <+: t
  := by
  induction w generalizing t with
  | nil => apply List.nil_prefix
  | cons b w ih =>
      rw [List.forall_mem_cons] at hw
      cases t with
      | nil =>
          rw [List.flatMap_nil, List.nil_append, List.cons_prefix_cons] at h
          have hb := hw.1
          rw [h.1] at hb
          exact absurd hb (by decide)
      | cons p t =>
          obtain hp | hp := Nat.lt_or_ge p.toNat 128
          · obtain ⟨c, s, hs, hc⟩ := escapeByte_of_lt hp
            rw [List.flatMap_cons, hs, List.cons_append, List.cons_append, List.cons_prefix_cons] at h
            have hb := hw.1
            rw [h.1] at hb
            omega
          · rw [List.flatMap_cons, escapeByte_of_le hp, List.cons_append, List.cons_append,
              List.nil_append, List.cons_prefix_cons] at h
            rw [h.1, List.cons_prefix_cons]
            exact ⟨rfl, ih hw.2 h.2⟩

/-- A stray byte stays one when what follows it is escaped. -/
theorem firstChar?_escaped {b : UInt8} {t : Str} (h : firstChar? (b :: t) = none) (rest : Str) :
  firstChar? (b :: (t.flatMap escapeByte ++ 34 :: rest)) = none
  := by
  cases hc : firstChar? (b :: (t.flatMap escapeByte ++ 34 :: rest)) with
  | none => rfl
  | some c =>
      exfalso
      have heq := eq_encode_append_of_firstChar? hc
      obtain ⟨p, w, hw⟩ : ∃ p w, String.utf8EncodeChar c = p :: w := by
        cases hw : String.utf8EncodeChar c with
        | nil =>
            have hlength := String.length_utf8EncodeChar c
            have hpos := c.utf8Size_pos
            rw [hw, List.length_nil] at hlength
            omega
        | cons p w => exact ⟨p, w, rfl⟩
      rw [hw, List.cons_append, List.cons.injEq] at heq
      obtain ⟨rfl, htail⟩ := heq
      -- the bytes of the code point are all outside ASCII, or it is a single byte
      have hprefix : w <+: t := by
        obtain hlow | hlow := Nat.lt_or_ge c.toNat 128
        · have hsize : (String.utf8EncodeChar c).length = 1 := by
            rw [String.length_utf8EncodeChar, Char.utf8Size_eq_one_iff, UInt32.le_iff_toNat_le]
            apply Nat.le_of_lt_succ hlow
          rw [hw, List.length_cons, Nat.add_eq_right, List.length_eq_zero_iff] at hsize
          rw [hsize]
          apply List.nil_prefix
        · have hhigh : ∀ q ∈ w, 128 ≤ q.toNat := by
            intro q hq
            obtain hq | hq := mem_utf8EncodeChar (c := c) (hw ▸ List.mem_cons_of_mem b hq)
            · omega
            · apply hq.1
          apply prefix_of_escaped hhigh ⟨_, htail.symm⟩
      obtain ⟨u, rfl⟩ := hprefix
      have hsome := firstChar?_encode_append c u
      rw [hw, List.cons_append, h] at hsome
      cases hsome

/-- A code point or stray byte as it stands between the quotes. -/
def writtenRune : Rune → List Rune
  | .char c => (writtenChar c).map .char
  | .bad b => [.bad b]

theorem runes_escaped (s rest : Str) :
  runes (s.flatMap escapeByte ++ 34 :: rest)
    = (runes s).flatMap writtenRune ++ .char '"' :: runes rest
  := by
  induction h : s.length using Nat.strong_induction_on generalizing s with
  | _ n ih =>
      obtain rfl | ⟨c, t, rfl⟩ | ⟨b, t, rfl, hb⟩ := str_cases s
      · rw [List.flatMap_nil, List.nil_append, runes_ascii_cons (by decide), runes_nil]
        rfl
      · have hlength : t.length < n := by
          have hpos := c.utf8Size_pos
          rw [List.length_append, String.length_utf8EncodeChar] at h
          omega
        rw [List.flatMap_append, flatMap_escapeByte_encode, List.append_assoc,
          runes_ofRunes_char_append, ih _ hlength t rfl, runes_encode_append, List.flatMap_cons,
          List.append_assoc, writtenRune]
      · have hbyte : escapeByte b = [b] := by
          apply escapeByte_of_le
          by_contra hlow
          have hascii : b < 128 := by
            rw [UInt8.lt_iff_toNat_lt]
            apply Nat.lt_of_not_le hlow
          have hchar := firstChar?_encode_append (asciiChar b) t
          rw [encode_asciiChar hascii, List.singleton_append, hb] at hchar
          cases hchar
        have hlength : t.length < n := by
          rw [List.length_cons] at h
          omega
        rw [List.flatMap_cons, hbyte, List.singleton_append, List.cons_append,
          runes_bad_cons (firstChar?_escaped hb rest), ih _ hlength t rfl, runes_bad_cons hb,
          List.flatMap_cons, writtenRune, List.singleton_append, List.cons_append]

theorem stringBody_writtenRune (r : Rune) (fuel : Nat) (rest : List Rune) :
  stringBody (fuel + 1) (writtenRune r ++ rest)
    = (stringBody fuel rest).map fun (s, rest) => (r.value :: s, rest)
  := by
  cases r with
  | bad b => rfl
  | char c =>
      rw [writtenRune]
      unfold writtenChar
      split
      · rename_i hc
        obtain rfl | rfl := hc
        · apply stringBody_escaped rfl (by decide)
        · apply stringBody_escaped rfl (by decide)
      rename_i hquote
      split
      · rename_i hc
        rw [hc]
        apply stringBody_escaped rfl (by decide)
      split
      · rename_i hc
        rw [hc]
        apply stringBody_escaped rfl (by decide)
      split
      · rename_i hc
        rw [hc]
        apply stringBody_escaped rfl (by decide)
      split
      · apply stringBody_unicodeEscape
        omega
      · rename_i hlow
        rw [not_or] at hquote
        simp only [List.map_cons, List.map_nil, List.cons_append, List.nil_append]
        rw [stringBody, if_neg hlow]
        · rfl
        · apply hquote.1
        · apply hquote.2

theorem stringBody_written (rs : List Rune) {fuel : Nat} (h : rs.length < fuel) (rest : List Rune) :
  stringBody fuel (rs.flatMap writtenRune ++ .char '"' :: rest) = some (rs.map Rune.value, rest)
  := by
  induction rs generalizing fuel with
  | nil =>
      obtain ⟨f, rfl⟩ : ∃ f, fuel = f + 1 := ⟨fuel - 1, by simp at h; omega⟩
      rfl
  | cons r rs ih =>
      obtain ⟨f, rfl⟩ : ∃ f, fuel = f + 1 := ⟨fuel - 1, by simp at h; omega⟩
      rw [List.flatMap_cons, List.append_assoc, stringBody_writtenRune,
        ih (by simp at h; omega)]
      rfl

theorem length_runes_le (s : Str) :
  (runes s).length ≤ s.length
  := by
  have h := length_le_ofRunes (runes s)
  rwa [ofRunes_runes] at h

theorem length_le_escaped (s : Str) :
  s.length ≤ (s.flatMap escapeByte).length
  := by
  induction s with
  | nil => apply le_rfl
  | cons b s ih =>
      have hb : 0 < (escapeByte b).length := by
        unfold escapeByte
        split_ifs <;> apply Nat.succ_pos
      rw [List.flatMap_cons, List.length_append, List.length_cons]
      omega

/-- What stands between the quotes is read as the string, its stray bytes replaced. -/
theorem lexemes_quote (s rest : Str) :
  lexemes (quote s ++ rest) = .string (shown s) :: lexemes rest
  := by
  have hquote : quote s ++ rest = 34 :: ((cString s).flatMap escapeByte ++ 34 :: rest) := by
    simp [quote, escapeJsonString, cString]
  rw [hquote, lexemes_cons]
  generalize ht : (cString s).flatMap escapeByte ++ 34 :: rest = t
  have hlength : (runes (cString s)).length < t.length + 1 := by
    have h₁ := length_runes_le (cString s)
    have h₂ := length_le_escaped (cString s)
    rw [← ht, List.length_append]
    omega
  have hbody := stringBody_written (runes (cString s)) hlength (runes rest)
  rw [← runes_escaped, ht] at hbody
  rw [nextLexeme_quote hbody, ofRunes_runes, List.map_map]
  rfl

/-- No escape has a line break in it. -/
theorem tidy_quote (s : Str) :
  Tidy (quote s)
  := by
  have hbyte : ∀ b : UInt8, 10 ∉ escapeByte b ∧ 13 ∉ escapeByte b := by
    intro b
    obtain hb | hb := Nat.lt_or_ge b.toNat 128
    · have key : ∀ n : Fin 128, 10 ∉ escapeByte (UInt8.ofNat n) ∧ 13 ∉ escapeByte (UInt8.ofNat n) := by
        decide +kernel
      have hn := key ⟨b.toNat, hb⟩
      rwa [UInt8.ofNat_toNat] at hn
    · rw [escapeByte_of_le hb, List.mem_singleton, List.mem_singleton]
      constructor
      · rintro rfl
        exact absurd hb (by decide)
      · rintro rfl
        exact absurd hb (by decide)
  have hmem : ∀ b, (∀ c : UInt8, b ∉ escapeByte c) → b ≠ 34 → b ∉ quote s := by
    intro b hb hquote hmem
    rw [quote, List.mem_cons, List.mem_append, List.mem_singleton] at hmem
    rcases hmem with hmem | hmem | hmem
    · apply hquote hmem
    · obtain ⟨c, -, hc⟩ := List.mem_flatMap.mp hmem
      apply hb c hc
    · apply hquote hmem
  apply tidy_of_notMem
  · apply hmem 10 (fun c => (hbyte c).1) (by decide)
  · apply hmem 13 (fun c => (hbyte c).2) (by decide)

/-! ### What is printed is what is reported -/

section

variable [UnicodeTables]

theorem write_shown (s : Str) :
  string.write (shown s) = .string (shown s)
  := by
  apply congrArg Value.string
  apply toValidUTF8_of_validText
  apply validText_toValidUTF8

theorem writes_quote (s : Str) :
  Writes 0 (quote s) (string.write (shown s))
  := by
  rw [write_shown]
  refine ⟨.string (validText_toValidUTF8 _), tidy_quote s, ?_⟩
  intro rest _
  apply lexemes_quote

theorem writes_verbatim {s : Str} (h : s.all isPlain = true) (hs : ValidText s) :
  Writes 0 (verbatim s) (string.write s)
  := by
  have hwrite : string.write s = .string s := congrArg Value.string (toValidUTF8_of_validText hs)
  rw [hwrite]
  apply writes_plain h hs

theorem writes_formatInt (n : Int32) :
  Writes 0 (formatInt n) (int64.write n.toInt64)
  := by
  have hwrite : int64.write n.toInt64 = .number (itoa n.toInt) := by
    simp only [int64, Int32.toInt_toInt64]
  rw [hwrite]
  apply writes_int

theorem writes_itoa {n : Int} (h : FitsInt n) :
  Writes 0 (itoa n) (int64.write (Int64.ofInt n))
  := by
  obtain ⟨hlow, hhigh⟩ := h
  have hwrite : int64.write (Int64.ofInt n) = .number (itoa n) := by
    simp only [int64]
    rw [Int64.toInt_ofInt_of_le (by omega) (by omega)]
  rw [hwrite]
  apply writes_int

theorem writes_unsigned (n : UInt32) :
  Writes 0 (formatUnsigned n.toNat) (uint32.write n)
  := writes_int n.toNat

theorem writes_ofNat {n : Nat} (h : n < 2 ^ 32) :
  Writes 0 (formatUnsigned n) (uint32.write (UInt32.ofNat n))
  := by
  have hn : (UInt32.ofNat n).toNat = n := UInt32.toNat_ofNat_of_lt' h
  have hwrites := writes_unsigned (UInt32.ofNat n)
  rwa [hn] at hwrites

theorem writes_formatBool (b : Bool) :
  Writes 0 (formatBool b) (bool.write b)
  := writes_bool b

/-- A list is printed element by element. -/
theorem writes_array {α β : Type} (l : Layout) {n : Nat} {print : α → Str} {c : Codec β}
    {report : α → β} {xs : List α} (h : ∀ x ∈ xs, Writes n (print x) (c.write (report x))) :
  Writes (n + 1) (l.array (xs.map print)) ((slice c).write (xs.map report))
  := by
  have hwrite : (slice c).write (xs.map report) = .array (xs.map fun x => c.write (report x)) := by
    simp only [slice, List.map_map]
    rfl
  rw [hwrite]
  apply Writes.array
  rw [List.forall₂_map_left_iff, List.forall₂_map_right_iff, List.forall₂_same]
  apply h

theorem writes_probeStatus (p : ProbeStatus) :
  Writes 1 (writeProbeStatusJson p) (Runner.probeStatusJSON.write (reportedProbe p))
  := by
  apply Writes.object
  refine .cons ⟨rfl, rfl, writes_quote _⟩ <| .cons ⟨rfl, rfl, writes_formatInt _⟩ <|
    .cons ⟨rfl, rfl, writes_quote _⟩ .nil

theorem writes_host (h : Utsname) :
  Writes 1 (hostText h) (Runner.hostResultJSON.write (reportedHost h))
  := by
  apply Writes.object
  refine .cons ⟨rfl, rfl, writes_quote _⟩ <| .cons ⟨rfl, rfl, writes_quote _⟩ <|
    .cons ⟨rfl, rfl, writes_quote _⟩ <| .cons ⟨rfl, rfl, writes_quote _⟩ <|
    .cons ⟨rfl, rfl, writes_quote _⟩ .nil

theorem writes_fixup (fx : FixupResult) :
  Writes 1 (fixupText fx) (Runner.mapFixupJSON.write (reportedFixup fx))
  := by
  apply Writes.object
  refine .cons ⟨rfl, rfl, writes_quote _⟩ <| .cons ⟨rfl, rfl, writes_quote _⟩ <|
    .cons ⟨rfl, rfl, writes_unsigned _⟩ <| .cons ⟨rfl, rfl, writes_ofNat fx.unsigned⟩ <|
    .cons ⟨rfl, rfl, writes_unsigned _⟩ <| .cons ⟨rfl, rfl, writes_unsigned _⟩ <|
    .cons ⟨rfl, rfl, writes_unsigned _⟩ <| .cons ⟨rfl, rfl, writes_quote _⟩ <|
    .cons ⟨rfl, rfl, writes_formatInt _⟩ <| .cons ⟨rfl, rfl, writes_unsigned _⟩ .nil

theorem writes_autosized (map : AutosizedMap) :
  Writes 1 (autosizedText map) (Runner.autoSizedMapJSON.write (reportedAutosized map))
  := by
  apply Writes.object
  refine .cons ⟨rfl, rfl, writes_quote _⟩ <| .cons ⟨rfl, rfl, writes_unsigned _⟩ <|
    .cons ⟨rfl, rfl, writes_unsigned _⟩ .nil

theorem writes_autotyped (prog : AutotypedProg) :
  Writes 1 (autotypedText prog) (Runner.autoTypedProgramJSON.write (reportedAutotyped prog))
  := by
  apply Writes.object
  refine .cons ⟨rfl, rfl, writes_quote _⟩ <| .cons ⟨rfl, rfl, writes_quote _⟩ <|
    .cons ⟨rfl, rfl, writes_unsigned _⟩ .nil

theorem writes_override (o : OverrideResult) :
  Writes 1 (overrideText o) (Runner.programTypeOverrideJSON.write (reportedOverride o))
  := by
  apply Writes.object
  refine .cons ⟨rfl, rfl, writes_quote _⟩ <| .cons ⟨rfl, rfl, writes_ofNat o.unsigned⟩ <|
    .cons ⟨rfl, rfl, writes_quote _⟩ .nil

theorem writes_variant (grp : VariantResult) :
  Writes 2 (variantText grp) (Runner.programVariantJSON.write (reportedVariant grp))
  := by
  have hdisabled : Writes 1 (Layout.line.array (grp.disabled.map quote))
      ((slice string).write (grp.disabled.map shown)) :=
    writes_array .line fun name _ => writes_quote name
  apply Writes.object
  refine .cons ⟨rfl, rfl, (writes_quote _).mono (by decide)⟩ <|
    .cons ⟨rfl, rfl, (writes_quote _).mono (by decide)⟩ <| .cons ⟨rfl, rfl, hdisabled⟩ .nil

theorem writes_test {test : FunctionalTest} (h : FitsTest test) :
  Writes 1 (testText test) (Runner.testResultJSON.write (reportedTest test))
  := by
  apply Writes.object
  refine .cons ⟨rfl, rfl, writes_quote _⟩ <| .cons ⟨rfl, rfl, writes_formatBool _⟩ <|
    .cons ⟨rfl, rfl, writes_quote _⟩ <| .cons ⟨rfl, rfl, writes_quote _⟩ <|
    .cons ⟨rfl, rfl, writes_itoa h.timeoutSeconds⟩ <|
    .cons ⟨rfl, rfl, writes_itoa h.expectExitCode⟩ <| .cons ⟨rfl, rfl, writes_itoa h.exitCode⟩ <|
    .cons ⟨rfl, rfl, writes_formatBool _⟩ <| .cons ⟨rfl, rfl, writes_quote _⟩ <|
    .cons ⟨rfl, rfl, writes_quote _⟩ <| .cons ⟨rfl, rfl, writes_quote _⟩ .nil

theorem writes_functional (res : Result) :
  Writes 3 (functionalText res) (Runner.functionalResultJSON.write (reported res).functional)
  := by
  have htests : Writes 2 ((Layout.lines 2).array (res.functionalTests.map testText))
      ((slice Runner.testResultJSON).write (res.functionalTests.map reportedTest)) :=
    writes_array _ fun test htest => writes_test (res.fits test htest)
  apply Writes.object
  refine .cons ⟨rfl, rfl, (writes_quote _).mono (by decide)⟩ <| .cons ⟨rfl, rfl, htests⟩ .nil

theorem writes_load (res : Result) :
  Writes 1 (loadText res) (Runner.probeStatusJSON.write (reported res).load)
  := by
  have hstatus : Writes 0 (verbatim (if res.loadOk then str "pass" else str "fail"))
      (string.write (if res.loadOk then str "pass" else str "fail")) := by
    cases res.loadOk with
    | true => apply writes_verbatim rfl (validText_str _)
    | false => apply writes_verbatim rfl (validText_str _)
  apply Writes.object
  refine .cons ⟨rfl, rfl, hstatus⟩ <| .cons ⟨rfl, rfl, writes_formatInt _⟩ <|
    .cons ⟨rfl, rfl, writes_quote _⟩ .nil

theorem writes_attach (res : Result) :
  Writes 1 (attachText res) (Runner.attachResultJSON.write (reported res).attach)
  := by
  apply Writes.object
  refine .cons ⟨rfl, rfl, writes_quote _⟩ <| .cons ⟨rfl, rfl, writes_quote _⟩ <|
    .cons ⟨rfl, rfl, writes_formatInt _⟩ <| .cons ⟨rfl, rfl, writes_formatInt _⟩ <|
    .cons ⟨rfl, rfl, writes_formatInt _⟩ .nil

theorem writes_logs (res : Result) :
  Writes 1 (logsText res) (Runner.logsJSON.write (reported res).logs)
  := by
  apply Writes.object
  apply List.Forall₂.cons ⟨rfl, rfl, writes_quote _⟩ .nil

theorem writes_mapTypes (res : Result) :
  Writes 2 (mapTypesText res) (Runner.mapTypesJSON.write (reported res).capabilities.mapTypes)
  := by
  apply Writes.object
  refine .cons ⟨rfl, rfl, writes_probeStatus _⟩ <| .cons ⟨rfl, rfl, writes_probeStatus _⟩ <|
    .cons ⟨rfl, rfl, writes_probeStatus _⟩ <| .cons ⟨rfl, rfl, writes_probeStatus _⟩ .nil

theorem writes_programTypes (res : Result) :
  Writes 2 (programTypesText res)
    (Runner.programTypesJSON.write (reported res).capabilities.programTypes)
  := by
  apply Writes.object
  refine .cons ⟨rfl, rfl, writes_probeStatus _⟩ <| .cons ⟨rfl, rfl, writes_probeStatus _⟩ <|
    .cons ⟨rfl, rfl, writes_probeStatus _⟩ <| .cons ⟨rfl, rfl, writes_probeStatus _⟩ .nil

theorem writes_present (available : Bool) :
  Writes 0 (verbatim (present available)) (string.write (present available))
  := by
  cases available with
  | true => apply writes_verbatim rfl (validText_str _)
  | false => apply writes_verbatim rfl (validText_str _)

theorem writes_attachPrereqs (res : Result) :
  Writes 1 (attachPrereqsText res)
    (Runner.attachPrereqsJSON.write (reported res).capabilities.attachPrereqs)
  := by
  apply Writes.object
  refine .cons ⟨rfl, rfl, writes_present _⟩ <| .cons ⟨rfl, rfl, writes_present _⟩ <|
    .cons ⟨rfl, rfl, writes_present _⟩ .nil

theorem writes_capabilities (res : Result) :
  Writes 3 (capabilitiesText res) (Runner.capabilitiesJSON.write (reported res).capabilities)
  := by
  apply Writes.object
  refine .cons ⟨rfl, rfl, (writes_formatBool _).mono (by decide)⟩ <|
    .cons ⟨rfl, rfl, (writes_formatBool _).mono (by decide)⟩ <|
    .cons ⟨rfl, rfl, (writes_quote _).mono (by decide)⟩ <|
    .cons ⟨rfl, rfl, writes_mapTypes res⟩ <| .cons ⟨rfl, rfl, writes_programTypes res⟩ <|
    .cons ⟨rfl, rfl, (writes_attachPrereqs res).mono (by decide)⟩ .nil

/-! ### Objects with further members -/

/-- The members of a program; none of them is left out, whatever its value. -/
def programMembers (prog : Runner.DiscoveredProgram) : List (Str × Value) :=
  [(str "name", string.write prog.name), (str "section", string.write prog.section),
    (str "attach_status", string.write prog.attachStatus),
    (str "attach_error", string.write prog.attachError),
    (str "load_status", string.write prog.loadStatus),
    (str "load_errno", int64.write prog.loadErrno), (str "load_log", string.write prog.loadLog)]

theorem writes_program (prog : DiscoveredProgram) :
  Writes 1 (programText prog) (.object (programMembers (reportedProgram prog)))
  := by
  apply Writes.object
  refine .cons ⟨rfl, rfl, writes_quote _⟩ <| .cons ⟨rfl, rfl, writes_quote _⟩ <|
    .cons ⟨rfl, rfl, writes_quote _⟩ <| .cons ⟨rfl, rfl, writes_quote _⟩ <|
    .cons ⟨rfl, rfl, writes_quote _⟩ <| .cons ⟨rfl, rfl, writes_formatInt _⟩ <|
    .cons ⟨rfl, rfl, writes_quote _⟩ .nil

def btfMembers (res : Result) : List (Str × Value) :=
  [(str "kernel_btf_available", bool.write res.kernelBTFAvailable),
    (str "kernel_btf_path", string.write (str "/sys/kernel/btf/vmlinux")),
    (str "kernel_btf_size", .number (itoa res.kernelBTFSize.toInt)),
    (str "artifact_has_btf", bool.write res.artifactHasBTF),
    (str "artifact_has_btf_ext", bool.write res.artifactHasBTFExt)]

theorem writes_btf (res : Result) :
  Writes 1 (btfText res) (.object (btfMembers res))
  := by
  apply Writes.object
  refine .cons ⟨rfl, rfl, writes_formatBool _⟩ <|
    .cons ⟨rfl, rfl, writes_verbatim rfl (validText_str _)⟩ <| .cons ⟨rfl, rfl, writes_int _⟩ <|
    .cons ⟨rfl, rfl, writes_formatBool _⟩ <| .cons ⟨rfl, rfl, writes_formatBool _⟩ .nil

def discoveryMembers (res : Result) : List (Str × Value) :=
  [(str "program_count", int64.write res.programCount.toInt64),
    (str "map_count", int64.write res.mapCount.toInt64),
    (str "programs",
      .array (res.listedPrograms.map fun prog => .object (programMembers (reportedProgram prog))))]

theorem writes_discovery (res : Result) :
  Writes 3 (discoveryText res) (.object (discoveryMembers res))
  := by
  have hprograms : Writes 2 ((Layout.lines 2).array (res.listedPrograms.map programText))
      (.array (res.listedPrograms.map fun prog => .object (programMembers (reportedProgram prog)))) := by
    apply Writes.array
    rw [List.forall₂_map_left_iff, List.forall₂_map_right_iff, List.forall₂_same]
    intro prog _
    apply writes_program
  apply Writes.object
  refine .cons ⟨rfl, rfl, (writes_formatInt _).mono (by decide)⟩ <|
    .cons ⟨rfl, rfl, (writes_formatInt _).mono (by decide)⟩ <| .cons ⟨rfl, rfl, hprograms⟩ .nil

def inputMembers (opts : Options) : List (Str × Value) :=
  [(str "artifact", string.write (shown (opts.artifact.getD []))),
    (str "manifest", string.write (shown (opts.manifest.getD []))),
    (str "functional_plan", string.write (shown (opts.functionalPlan.getD []))),
    (str "attach_mode", string.write (shown opts.attachMode)),
    (str "probe_features", bool.write opts.probeFeatures)]

theorem writes_input (opts : Options) :
  Writes 1 (inputText opts) (.object (inputMembers opts))
  := by
  apply Writes.object
  refine .cons ⟨rfl, rfl, writes_quote _⟩ <| .cons ⟨rfl, rfl, writes_quote _⟩ <|
    .cons ⟨rfl, rfl, writes_quote _⟩ <| .cons ⟨rfl, rfl, writes_quote _⟩ <|
    .cons ⟨rfl, rfl, writes_formatBool _⟩ .nil

/-- The members of the document, in the order in which they are printed. -/
def documentMembers (res : Result) : List (Str × Value) :=
  let r := reported res
  [(str "schema_version", string.write r.schemaVersion),
    (str "timestamp", string.write (shown res.timestamp)),
    (str "status", string.write r.status),
    (str "host", Runner.hostResultJSON.write r.host),
    (str "input", .object (inputMembers res.opts)),
    (str "map_fixups", (slice Runner.mapFixupJSON).write r.mapFixups),
    (str "auto_sized_maps", (slice Runner.autoSizedMapJSON).write r.autoSizedMaps),
    (str "auto_typed_programs", (slice Runner.autoTypedProgramJSON).write r.autoTypedPrograms),
    (str "program_type_overrides",
      (slice Runner.programTypeOverrideJSON).write r.programTypeOverrides),
    (str "program_variants", (slice Runner.programVariantJSON).write r.programVariants),
    (str "btf", .object (btfMembers res)),
    (str "capabilities", Runner.capabilitiesJSON.write r.capabilities),
    (str "discovery", .object (discoveryMembers res)),
    (str "load", Runner.probeStatusJSON.write r.load),
    (str "attach", Runner.attachResultJSON.write r.attach),
    (str "functional", Runner.functionalResultJSON.write r.functional),
    (str "logs", Runner.logsJSON.write r.logs)]

omit [UnicodeTables] in
theorem overallStatus_cases (res : Result) :
  res.overallStatus = str "pass" ∨ res.overallStatus = str "fail"
  := by
  rw [Result.overallStatus, Validator.overallStatus]
  split_ifs <;> simp

theorem writes_overallStatus (res : Result) :
  Writes 0 (verbatim res.overallStatus) (string.write res.overallStatus)
  := by
  obtain h | h := overallStatus_cases res
  · rw [h]
    apply writes_verbatim rfl (validText_str _)
  · rw [h]
    apply writes_verbatim rfl (validText_str _)

/-- The document is the text of its members. -/
theorem writes_document (res : Result) :
  ∃ text, writeResultJson res = text ++ [10] ∧ Writes 4 text (.object (documentMembers res))
  := by
  refine ⟨_, rfl, ?_⟩
  apply Writes.object
  refine .cons ⟨rfl, rfl, (writes_verbatim rfl (validText_str _)).mono (by decide)⟩ <|
    .cons ⟨rfl, rfl, (writes_quote _).mono (by decide)⟩ <|
    .cons ⟨rfl, rfl, (writes_overallStatus res).mono (by decide)⟩ <|
    .cons ⟨rfl, rfl, (writes_host res.host).mono (by decide)⟩ <|
    .cons ⟨rfl, rfl, (writes_input res.opts).mono (by decide)⟩ <|
    .cons ⟨rfl, rfl, (writes_array .line fun fx _ => writes_fixup fx).mono (by decide)⟩ <|
    .cons ⟨rfl, rfl, (writes_array .line fun map _ => writes_autosized map).mono (by decide)⟩ <|
    .cons ⟨rfl, rfl, (writes_array .line fun prog _ => writes_autotyped prog).mono (by decide)⟩ <|
    .cons ⟨rfl, rfl, (writes_array .line fun o _ => writes_override o).mono (by decide)⟩ <|
    .cons ⟨rfl, rfl, writes_array .line fun grp _ => writes_variant grp⟩ <|
    .cons ⟨rfl, rfl, (writes_btf res).mono (by decide)⟩ <|
    .cons ⟨rfl, rfl, writes_capabilities res⟩ <|
    .cons ⟨rfl, rfl, writes_discovery res⟩ <|
    .cons ⟨rfl, rfl, (writes_load res).mono (by decide)⟩ <|
    .cons ⟨rfl, rfl, (writes_attach res).mono (by decide)⟩ <|
    .cons ⟨rfl, rfl, writes_functional res⟩ <|
    .cons ⟨rfl, rfl, (writes_logs res).mono (by decide)⟩ .nil

/-! ### What is reported is read -/

theorem read_string {s : Str} (h : toValidUTF8 s = s) (x : Str) :
  string.read (string.write s) x = some s
  := congrArg some h

omit [UnicodeTables] in
@[simp]
theorem toValidUTF8_shown (s : Str) :
  toValidUTF8 (shown s) = shown s
  := toValidUTF8_of_validText (validText_toValidUTF8 _)

/-- The fields of a program in the runner's result. -/
def programNames : List Str :=
  [str "name", str "section", str "attach_status", str "attach_error", str "load_status",
    str "load_errno", str "load_log"]

theorem read_program (prog : DiscoveredProgram) :
  Runner.discoveredProgramJSON.read (.object (programMembers (reportedProgram prog)))
      Runner.discoveredProgramJSON.zero
    = some (reportedProgram prog)
  := by
  have hkeyed : Keyed programNames (programMembers (reportedProgram prog)) :=
    keyed_of_ascii programNames rfl (by decide) (by decide) (by decide) (by decide)
  apply struct_read_object (show _ = programNames from rfl)
  simp only [Fields.pair_read_eq_some_iff]
  refine ⟨hkeyed.field (List.mem_of_getElem? (i := 0) rfl) (by decide) ?_,
    hkeyed.field (List.mem_of_getElem? (i := 1) rfl) (by decide) ?_,
    hkeyed.omitempty (List.mem_of_getElem? (i := 2) rfl) (by decide) ?_,
    hkeyed.omitempty (List.mem_of_getElem? (i := 3) rfl) (by decide) ?_,
    hkeyed.omitempty (List.mem_of_getElem? (i := 4) rfl) (by decide) ?_,
    hkeyed.omitempty (List.mem_of_getElem? (i := 5) rfl) (by decide) ?_,
    hkeyed.omitempty (List.mem_of_getElem? (i := 6) rfl) (by decide) ?_⟩
  · apply read_string (toValidUTF8_shown _)
  · apply read_string (toValidUTF8_shown _)
  · apply read_string (toValidUTF8_shown _)
  · apply read_string (toValidUTF8_shown _)
  · apply read_string (toValidUTF8_shown _)
  · apply int64.read_write
  · apply read_string (toValidUTF8_shown _)

/-- The fields of the type information in the runner's result. -/
def btfNames : List Str :=
  [str "kernel_btf_available", str "artifact_has_btf", str "artifact_has_btf_ext"]

theorem read_btf (res : Result) :
  Runner.btfResultJSON.read (.object (btfMembers res)) Runner.btfResultJSON.zero
    = some (reported res).btf
  := by
  have hkeyed : Keyed btfNames (btfMembers res) :=
    keyed_of_ascii
      [str "kernel_btf_available", str "kernel_btf_path", str "kernel_btf_size",
        str "artifact_has_btf", str "artifact_has_btf_ext"]
      rfl (by decide) (by decide) (by decide) (by decide +kernel)
  apply struct_read_object rfl
  simp only [Fields.pair_read_eq_some_iff]
  refine ⟨hkeyed.field (List.mem_of_getElem? (i := 0) rfl) (by decide) ?_,
    hkeyed.field (List.mem_of_getElem? (i := 3) rfl) (by decide) ?_,
    hkeyed.field (List.mem_of_getElem? (i := 4) rfl) (by decide) ?_⟩
  · apply bool.read_write
  · apply bool.read_write
  · apply bool.read_write

theorem read_discovery (res : Result) :
  Runner.discoveryJSON.read (.object (discoveryMembers res)) Runner.discoveryJSON.zero
    = some (reported res).discovery
  := by
  have hkeyed : Keyed [str "programs"] (discoveryMembers res) :=
    keyed_of_ascii [str "program_count", str "map_count", str "programs"] rfl (by decide) (by decide)
      (by decide) (by decide +kernel)
  apply struct_read_object rfl
  apply hkeyed.field (List.mem_of_getElem? (i := 2) rfl) (by decide)
  apply readElements_map read_program

/-- A list is read back if what is reported of each element survives. -/
theorem read_slice {α β : Type} {c : Codec β} {report : α → β}
    (h : ∀ x, c.canon (report x) = report x) (xs : List α) :
  (slice c).read ((slice c).write (xs.map report)) (slice c).zero = some (xs.map report)
  := by
  have hcanon : (slice c).canon (xs.map report) = xs.map report := by
    simp only [slice, List.map_map]
    apply List.map_congr_left
    intro x _
    apply h
  rw [(slice c).read_write, hcanon]

section

variable (res : Result)

theorem shown_canon {name : String} (s : Str) :
  (Fields.field name string).canon (shown s) = shown s
  := toValidUTF8_shown s

theorem canon_host (h : Utsname) :
  Runner.hostResultJSON.canon (reportedHost h) = reportedHost h
  := by
  apply struct_canon
  exact pair_canon (shown_canon _) <| pair_canon (shown_canon _) <|
    pair_canon (shown_canon _) <| pair_canon (shown_canon _) (shown_canon _)

theorem canon_probe (p : ProbeStatus) :
  Runner.probeStatusJSON.canon (reportedProbe p) = reportedProbe p
  := by
  apply struct_canon
  exact pair_canon (shown_canon _) <| pair_canon rfl (shown_canon _)

theorem canon_fixup (fx : FixupResult) :
  Runner.mapFixupJSON.canon (reportedFixup fx) = reportedFixup fx
  := by
  apply struct_canon
  exact pair_canon (shown_canon _) <| pair_canon (shown_canon _) <| pair_canon rfl <|
    pair_canon rfl <| pair_canon rfl <| pair_canon rfl <| pair_canon rfl <|
    pair_canon (shown_canon _) rfl

theorem canon_autosized (map : AutosizedMap) :
  Runner.autoSizedMapJSON.canon (reportedAutosized map) = reportedAutosized map
  := by
  apply struct_canon
  exact pair_canon (shown_canon _) rfl

theorem canon_autotyped (prog : AutotypedProg) :
  Runner.autoTypedProgramJSON.canon (reportedAutotyped prog) = reportedAutotyped prog
  := by
  apply struct_canon
  exact pair_canon (shown_canon _) <| pair_canon (shown_canon _) rfl

theorem canon_override (o : OverrideResult) :
  Runner.programTypeOverrideJSON.canon (reportedOverride o) = reportedOverride o
  := by
  apply struct_canon
  exact pair_canon (shown_canon _) <| pair_canon rfl (shown_canon _)

theorem canon_variant (grp : VariantResult) :
  Runner.programVariantJSON.canon (reportedVariant grp) = reportedVariant grp
  := by
  have hdisabled : (slice string).canon (grp.disabled.map shown) = grp.disabled.map shown := by
    simp [slice, string]
  apply struct_canon
  exact pair_canon (shown_canon _) <| pair_canon (shown_canon _) hdisabled

theorem canon_test (test : FunctionalTest) :
  Runner.testResultJSON.canon (reportedTest test) = reportedTest test
  := by
  apply struct_canon
  exact pair_canon (shown_canon _) <| pair_canon rfl <| pair_canon (shown_canon _) <|
    pair_canon (shown_canon _) <| pair_canon rfl <| pair_canon rfl <| pair_canon rfl <|
    pair_canon rfl <| pair_canon (shown_canon _) <|
    pair_canon (shown_canon _) (shown_canon _)

theorem canon_load :
  Runner.probeStatusJSON.canon (reported res).load = (reported res).load
  := by
  have hstatus : toValidUTF8 (if res.loadOk then str "pass" else str "fail")
      = if res.loadOk then str "pass" else str "fail" := by
    split_ifs
    · apply toValidUTF8_of_validText (validText_str _)
    · apply toValidUTF8_of_validText (validText_str _)
  apply struct_canon
  exact pair_canon hstatus <| pair_canon rfl (shown_canon _)

theorem canon_attach :
  Runner.attachResultJSON.canon (reported res).attach = (reported res).attach
  := by
  apply struct_canon
  exact pair_canon (shown_canon _) <| pair_canon (shown_canon _) rfl

theorem canon_functional :
  Runner.functionalResultJSON.canon (reported res).functional = (reported res).functional
  := by
  have htests : (slice Runner.testResultJSON).canon (res.functionalTests.map reportedTest)
      = res.functionalTests.map reportedTest := by
    simp [slice, canon_test]
  apply struct_canon
  exact pair_canon (shown_canon _) htests

theorem canon_logs :
  Runner.logsJSON.canon (reported res).logs = (reported res).logs
  := by
  apply struct_canon
  apply shown_canon

omit [UnicodeTables] in
theorem toValidUTF8_present (available : Bool) :
  toValidUTF8 (present available) = present available
  := by
  cases available with
  | true => apply toValidUTF8_of_validText (validText_str _)
  | false => apply toValidUTF8_of_validText (validText_str _)

theorem canon_capabilities :
  Runner.capabilitiesJSON.canon (reported res).capabilities = (reported res).capabilities
  := by
  have hmaps : Runner.mapTypesJSON.canon (reported res).capabilities.mapTypes
      = (reported res).capabilities.mapTypes := by
    apply struct_canon
    exact pair_canon (canon_probe _) <| pair_canon (canon_probe _) <|
      pair_canon (canon_probe _) (canon_probe _)
  have hprograms : Runner.programTypesJSON.canon (reported res).capabilities.programTypes
      = (reported res).capabilities.programTypes := by
    apply struct_canon
    exact pair_canon (canon_probe _) <| pair_canon (canon_probe _) <|
      pair_canon (canon_probe _) (canon_probe _)
  have hprereqs : Runner.attachPrereqsJSON.canon (reported res).capabilities.attachPrereqs
      = (reported res).capabilities.attachPrereqs := by
    apply struct_canon
    exact pair_canon (toValidUTF8_present _) <|
      pair_canon (toValidUTF8_present _) (toValidUTF8_present _)
  apply struct_canon
  exact pair_canon rfl <| pair_canon rfl <| pair_canon (shown_canon _) <| pair_canon hmaps <|
    pair_canon hprograms hprereqs

/-- The fields of the runner's result. -/
def documentNames : List Str :=
  [str "schema_version", str "status", str "host", str "load", str "attach", str "functional",
    str "btf", str "capabilities", str "program_variants", str "map_fixups", str "auto_sized_maps",
    str "auto_typed_programs", str "program_type_overrides", str "discovery", str "logs"]

theorem keyed_document :
  Keyed documentNames (documentMembers res)
  := keyed_of_ascii
    [str "schema_version", str "timestamp", str "status", str "host", str "input",
      str "map_fixups", str "auto_sized_maps", str "auto_typed_programs",
      str "program_type_overrides", str "program_variants", str "btf", str "capabilities",
      str "discovery", str "load", str "attach", str "functional", str "logs"]
    rfl (by decide) (by decide) (by decide) (by decide +kernel)

theorem decode_document :
  Runner.validatorResultJSON.decode (.object (documentMembers res)) = some (reported res)
  := by
  have h := keyed_document res
  have hstatus : toValidUTF8 res.overallStatus = res.overallStatus := by
    obtain h | h := overallStatus_cases res
    · rw [h]
      apply toValidUTF8_of_validText (validText_str _)
    · rw [h]
      apply toValidUTF8_of_validText (validText_str _)
  apply struct_read_object (show _ = documentNames from rfl)
  simp only [Fields.pair_read_eq_some_iff]
  refine ⟨h.field (List.mem_of_getElem? (i := 0) rfl) (by decide) ?_,
    h.field (List.mem_of_getElem? (i := 2) rfl) (by decide) ?_,
    h.field (List.mem_of_getElem? (i := 3) rfl) (by decide) ?_,
    h.field (List.mem_of_getElem? (i := 13) rfl) (by decide) ?_,
    h.field (List.mem_of_getElem? (i := 14) rfl) (by decide) ?_,
    h.field (List.mem_of_getElem? (i := 15) rfl) (by decide) ?_,
    h.field (List.mem_of_getElem? (i := 10) rfl) (by decide) ?_,
    h.field (List.mem_of_getElem? (i := 11) rfl) (by decide) ?_,
    h.field (List.mem_of_getElem? (i := 9) rfl) (by decide) ?_,
    h.field (List.mem_of_getElem? (i := 5) rfl) (by decide) ?_,
    h.field (List.mem_of_getElem? (i := 6) rfl) (by decide) ?_,
    h.field (List.mem_of_getElem? (i := 7) rfl) (by decide) ?_,
    h.field (List.mem_of_getElem? (i := 8) rfl) (by decide) ?_,
    h.field (List.mem_of_getElem? (i := 12) rfl) (by decide) ?_,
    h.field (List.mem_of_getElem? (i := 16) rfl) (by decide) ?_⟩
  · apply read_string (toValidUTF8_of_validText (validText_str _))
  · apply read_string hstatus
  · apply (Codec.read_write _ _).trans (congrArg some (canon_host _))
  · apply (Codec.read_write _ _).trans (congrArg some (canon_load res))
  · apply (Codec.read_write _ _).trans (congrArg some (canon_attach res))
  · apply (Codec.read_write _ _).trans (congrArg some (canon_functional res))
  · apply read_btf
  · apply (Codec.read_write _ _).trans (congrArg some (canon_capabilities res))
  · apply read_slice canon_variant
  · apply read_slice canon_fixup
  · apply read_slice canon_autosized
  · apply read_slice canon_autotyped
  · apply read_slice canon_override
  · apply read_discovery
  · apply (Codec.read_write _ _).trans (congrArg some (canon_logs res))

end

/-- The document is read as what is to be reported, with the line break it ends with or without. -/
theorem parse_document {res : Result} {text rest : Str}
    (h : Writes 4 text (.object (documentMembers res))) (hrest : rest = [] ∨ rest = [10]) :
  Runner.parseValidatorResult (text ++ rest) = some (reported res)
  := by
  rw [Runner.parseValidatorResult, h.parseDocument (by decide) hrest, Option.bind_some,
    decode_document]

omit [UnicodeTables] in
/-- The exit code of a validator that could write its result. -/
theorem exitCode_eq_zero_iff (res : Result) :
  (finish true res).1 = 0 ↔ res.overallStatus = str "pass"
  := by
  simp only [finish, if_true]
  split_ifs with h
  · exact iff_of_true rfl h
  · exact iff_of_false (by decide) h

/-- Whatever bytes the validator holds, the runner can read the document it writes, and reads what is
to be reported.  The document says pass exactly if the exit code is zero. -/
theorem document_round_trip (res : Result) :
  Runner.parseValidatorResult (writeResultJson res) = some (reported res)
    ∧ ((finish true res).1 = 0 ↔ (reported res).status = str "pass")
  := by
  obtain ⟨text, htext, hwrites⟩ := writes_document res
  constructor
  · rw [htext]
    apply parse_document hwrites (.inr rfl)
  · apply exitCode_eq_zero_iff

end

end Validator
