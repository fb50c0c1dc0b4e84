import Mathlib.Data.Prod.Lex
import BpfCompat.Api.GuardPolicy

/-!
# Kernel bounds

The policy of an agent and the guard of the execute endpoint both bound the kernel of the host, and
each reads versions in its own way: the agent takes the first three runs of digits of a text,
wherever they stand, and the guard takes the numbers at its start.  They read a text alike unless it
has no patch number and a number other than zero stands further on, as in `5.15-91-generic`.

A text that is not read alike makes them decide differently for some bounds, and bounds and releases
that are all read alike never do (`kernel_bounds_iff`).
-/

namespace Agent

open Go

/-! ### Runs of digits -/

theorem digitRuns_skip {before s : Str} (h : ∀ b ∈ before, isDecimal b = false) (n : Nat) :
  digitRuns n (before ++ s) = digitRuns n s
  := by
  cases n with
  | zero => rfl
  | succ n =>
      rw [digitRuns, digitRuns, List.dropWhile_append_of_pos fun b hb => by rw [h b hb, Bool.not_false]]

theorem digitRuns_dot (n : Nat) (s : Str) :
  digitRuns n (46 :: s) = digitRuns n s
  := by
  have hdot : ∀ b ∈ ([46] : Str), isDecimal b = false := by decide
  exact digitRuns_skip hdot n

theorem digitRuns_of_forall_not {s : Str} (h : ∀ b ∈ s, isDecimal b = false) (n : Nat) :
  digitRuns n s = []
  := by
  have hskip := digitRuns_skip h (s := []) n
  rw [List.append_nil] at hskip
  rw [hskip]
  cases n with
  | zero => rfl
  | succ n => rfl

/-- The text does not begin with a digit. -/
def StartsOutside (s : Str) : Prop := ∀ b ∈ s.head?, isDecimal b = false

theorem takeWhile_run {run rest : Str} (hrun : ∀ b ∈ run, isDecimal b = true)
    (hrest : StartsOutside rest) :
  (run ++ rest).takeWhile isDecimal = run ∧ (run ++ rest).dropWhile isDecimal = rest
  := by
  rw [List.takeWhile_append_of_pos hrun, List.dropWhile_append_of_pos hrun]
  cases rest with
  | nil => simp
  | cons b rest =>
      have hb := hrest b rfl
      simp [hb]

/-- A run of digits at the start of a text is the first one. -/
theorem digitRuns_run {run rest : Str} (hne : run ≠ []) (hrun : ∀ b ∈ run, isDecimal b = true)
    (hrest : StartsOutside rest) (n : Nat) :
  digitRuns (n + 1) (run ++ rest) = run :: digitRuns n rest
  := by
  obtain ⟨htake, hdrop⟩ := takeWhile_run hrun hrest
  have hstart : (run ++ rest).dropWhile (fun b => !isDecimal b) = run ++ rest := by
    obtain ⟨d, run, rfl⟩ := List.exists_cons_of_ne_nil hne
    rw [List.cons_append, List.dropWhile_cons_of_neg]
    rw [hrun d List.mem_cons_self]
    decide
  rw [digitRuns, hstart, htake, hdrop, if_neg]
  exact List.append_ne_nil_of_left_ne_nil hne rest

/-- The digits at the start of a text and what follows them. -/
theorem takeWhile_spec (s : Str) :
  s = s.takeWhile isDecimal ++ s.dropWhile isDecimal ∧
    (∀ b ∈ s.takeWhile isDecimal, isDecimal b = true) ∧ StartsOutside (s.dropWhile isDecimal)
  := by
  refine ⟨List.takeWhile_append_dropWhile.symm, fun b hb => List.mem_takeWhile_imp hb, ?_⟩
  intro b hb
  have hnot := List.head?_dropWhile_not isDecimal s
  rw [Option.mem_def.mp hb] at hnot
  simpa using hnot

theorem digitRuns_append {after : Str} (h : ∀ b ∈ after, isDecimal b = false) (n : Nat) (s : Str) :
  digitRuns n (s ++ after) = digitRuns n s
  := by
  induction n generalizing s with
  | zero => rfl
  | succ n ih =>
      -- what stands before the first digit is skipped
      obtain ⟨before, t, hs, hbefore, ht⟩ : ∃ before t, s = before ++ t ∧
          (∀ b ∈ before, isDecimal b = false) ∧ (t = [] ∨ t.takeWhile isDecimal ≠ []) := by
        refine ⟨s.takeWhile fun b => !isDecimal b, s.dropWhile fun b => !isDecimal b,
          List.takeWhile_append_dropWhile.symm, ?_, ?_⟩
        · intro b hb
          simpa using List.mem_takeWhile_imp hb
        · cases hdrop : s.dropWhile fun b => !isDecimal b with
          | nil => exact .inl rfl
          | cons b t =>
              have hnot := List.head?_dropWhile_not (fun b => !isDecimal b) s
              rw [hdrop, List.head?_cons] at hnot
              have hb : isDecimal b = true := by simpa using hnot
              right
              rw [List.takeWhile_cons, if_pos hb]
              exact List.cons_ne_nil _ _
      rw [hs, List.append_assoc, digitRuns_skip hbefore, digitRuns_skip hbefore]
      rcases ht with rfl | hrun
      · rw [List.nil_append, digitRuns_of_forall_not h]
        rfl
      · obtain ⟨hsplit, hdigits, hrest⟩ := takeWhile_spec t
        have hrest' : StartsOutside (t.dropWhile isDecimal ++ after) := by
          cases htail : t.dropWhile isDecimal with
          | nil =>
              intro b hb
              exact h b (List.mem_of_mem_head? hb)
          | cons c tail =>
              rw [htail] at hrest
              exact hrest
        rw [hsplit, List.append_assoc, digitRuns_run hrun hdigits hrest',
          digitRuns_run hrun hdigits hrest, ih]

theorem digitRuns_trimSpace (n : Nat) (s : Str) :
  digitRuns n (trimSpace s) = digitRuns n s
  := by
  have hdigit : ∀ b : UInt8, b < 33 ∨ 128 ≤ b → isDecimal b = false := by decide +kernel
  obtain ⟨before, after, hs, hspace⟩ := trimSpace_split s
  conv_rhs => rw [hs]
  rw [digitRuns_skip fun b hb => hdigit b (hspace b (List.mem_append_left _ hb)),
    digitRuns_append fun b hb => hdigit b (hspace b (List.mem_append_right _ hb))]

/-- A run of digits denotes a number if an `int` holds it. -/
theorem atoi_run {run : Str} (hne : run ≠ []) (hrun : ∀ b ∈ run, isDecimal b = true) :
  atoi run = if decimalValue run < 2 ^ 63 then some (decimalValue run : Int) else none
  := by
  have hall : run.all isDecimal = true := List.all_eq_true.mpr hrun
  have hempty : run.isEmpty = false := by
    rw [List.isEmpty_eq_false_iff]
    exact hne
  simp [atoi, splitSign_of_isDecimal hrun, hall, hempty]

end Agent

namespace Api

open Go Registry Runtime Agent

/-! ### The numbers of a text -/

def majorOf (text : Str) : Str := (trimSpace text).takeWhile isDecimal

def minorOf (text : Str) : Str :=
  ((trimSpace text).dropWhile isDecimal).tail.takeWhile isDecimal

/-- What follows the two first numbers. -/
def afterMinor (text : Str) : Str :=
  ((trimSpace text).dropWhile isDecimal).tail.dropWhile isDecimal

/-- The third number, where it follows a dot. -/
def patchOf (text : Str) : Str :=
  if (afterMinor text).head? = some 46 then (afterMinor text).tail.takeWhile isDecimal else []

/-- The version at the start of a text; a patch that is missing counts as zero. -/
def leading (text : Str) : Nat ×ₗ Nat ×ₗ Nat :=
  toLex (decimalValue (majorOf text), toLex (decimalValue (minorOf text),
    decimalValue (patchOf text)))

/-- The third run of digits of a text as a number. -/
def thirdNumber (text : Str) : Nat :=
  ((digitRuns 1 (afterMinor text)).head?.map decimalValue).getD 0

/-- The version the agent makes of a text. -/
def scattered (text : Str) : Nat ×ₗ Nat ×ₗ Nat :=
  toLex (decimalValue (majorOf text), toLex (decimalValue (minorOf text), thirdNumber text))

/-- A text has a patch, or no number other than zero follows the two first ones. -/
def ReadAlike (text : Str) : Prop :=
  patchOf text ≠ [] ∨ ∀ run ∈ digitRuns 1 (afterMinor text), decimalValue run = 0

/-- A text begins with two numbers and a dot between them. -/
structure Versioned (text : Str) : Prop where
  major : majorOf text ≠ []
  minor : minorOf text ≠ []
  split : trimSpace text = majorOf text ++ 46 :: (minorOf text ++ afterMinor text)

theorem parseKernelVersion_eq (text : Str) :
  parseKernelVersion text =
    if majorOf text = [] ∨ ((trimSpace text).dropWhile isDecimal).head? ≠ some 46 ∨
        minorOf text = [] then none
    else
      some {
        major := digitsValue (majorOf text)
        minor := digitsValue (minorOf text)
        patch := if patchOf text = [] then 0 else digitsValue (patchOf text) }
  := rfl

theorem versioned_of_parse {text : Str} (h : (parseKernelVersion text).isSome = true) :
  Versioned text ∧ parseKernelVersion text = some {
    major := digitsValue (majorOf text)
    minor := digitsValue (minorOf text)
    patch := if patchOf text = [] then 0 else digitsValue (patchOf text) }
  := by
  rw [parseKernelVersion_eq] at h ⊢
  by_cases hshape : majorOf text = [] ∨
      ((trimSpace text).dropWhile isDecimal).head? ≠ some 46 ∨ minorOf text = []
  · rw [if_pos hshape] at h
    cases h
  rw [if_neg hshape, and_iff_left rfl]
  rw [not_or, not_or, not_not] at hshape
  obtain ⟨hmajor, hdot, hminor⟩ := hshape
  obtain ⟨hsplit, -, -⟩ := takeWhile_spec (trimSpace text)
  obtain ⟨hsplit', -, -⟩ := takeWhile_spec ((trimSpace text).dropWhile isDecimal).tail
  have htail : (trimSpace text).dropWhile isDecimal
      = 46 :: ((trimSpace text).dropWhile isDecimal).tail := by
    rw [List.head?_eq_some_iff] at hdot
    obtain ⟨rest, hrest⟩ := hdot
    rw [hrest, List.tail_cons]
  refine ⟨hmajor, hminor, ?_⟩
  rw [minorOf, afterMinor, ← hsplit', ← htail]
  exact hsplit

section

variable {text : Str} (h : Versioned text)

include h

theorem Versioned.digitRuns_eq :
  digitRuns 3 text = majorOf text :: minorOf text :: digitRuns 1 (afterMinor text)
  := by
  have hdigits : ∀ s : Str, ∀ b ∈ s.takeWhile isDecimal, isDecimal b = true :=
    fun s => (takeWhile_spec s).2.1
  have hdot : StartsOutside (46 :: (minorOf text ++ afterMinor text)) := by
    intro b hb
    cases hb
    decide
  have hrest : StartsOutside (afterMinor text) := (takeWhile_spec _).2.2
  rw [← digitRuns_trimSpace, h.split, digitRuns_run h.major (hdigits _) hdot, digitRuns_dot,
    digitRuns_run h.minor (hdigits _) hrest]

omit h in
/-- A patch is the third run of digits. -/
theorem digitRuns_patch (hpatch : patchOf text ≠ []) :
  digitRuns 1 (afterMinor text) = [patchOf text]
  := by
  rw [patchOf] at hpatch ⊢
  split_ifs at hpatch ⊢ with hdot
  · rw [List.head?_eq_some_iff] at hdot
    obtain ⟨rest, hrest⟩ := hdot
    rw [hrest, List.tail_cons] at hpatch ⊢
    obtain ⟨hsplit, hdigits, houtside⟩ := takeWhile_spec rest
    rw [digitRuns_dot]
    conv_lhs => rw [hsplit]
    rw [digitRuns_run hpatch hdigits houtside]
    rfl
  · exact absurd rfl hpatch

omit h in
theorem readAlike_iff :
  ReadAlike text ↔ thirdNumber text = decimalValue (patchOf text)
  := by
  rw [ReadAlike, thirdNumber]
  by_cases hpatch : patchOf text = []
  · have hzero : decimalValue (patchOf text) = 0 := by
      rw [hpatch]
      rfl
    rw [or_iff_right (not_not.mpr hpatch), hzero]
    rcases hruns : digitRuns 1 (afterMinor text) with - | ⟨run, runs⟩
    · simp
    · have hsingle : runs = [] := by
        rw [digitRuns] at hruns
        split_ifs at hruns
        exact (List.cons.inj hruns).2.symm
      simp [hsingle]
  · rw [digitRuns_patch hpatch]
    exact iff_of_true (.inl hpatch) rfl

end

/-! ### The two readings -/

/-- Both engines can read a text. -/
structure BothParse (text : Str) : Prop where
  agent : (parseAgentKernelVersion text).isSome = true
  guard : (parseKernelVersion text).isSome = true

theorem digitsValue_of_atoi {run : Str} {n : Int} (h : atoi run = some n) :
  digitsValue run = n
  := by
  rw [digitsValue, h, Option.getD_some]

theorem atoi_of_isSome {run : Str} (hne : run ≠ []) (hrun : ∀ b ∈ run, isDecimal b = true)
    (h : (atoi run).isSome = true) :
  atoi run = some (decimalValue run : Int)
  := by
  rw [atoi_run hne hrun] at h ⊢
  split_ifs at h ⊢ with hlt
  · rfl
  · cases h

/-- The third run of digits of a text, if there is one. -/
theorem runs_afterMinor (text : Str) :
  digitRuns 1 (afterMinor text) = [] ∨ ∃ run, digitRuns 1 (afterMinor text) = [run] ∧ run ≠ [] ∧
    ∀ b ∈ run, isDecimal b = true
  := by
  rw [digitRuns]
  split_ifs with hnil
  · exact .inl rfl
  · refine .inr ⟨_, rfl, ?_, (takeWhile_spec _).2.1⟩
    obtain ⟨b, t, hdrop⟩ := List.exists_cons_of_ne_nil hnil
    have hnot := List.head?_dropWhile_not (fun b => !isDecimal b) (afterMinor text)
    rw [hdrop, List.head?_cons] at hnot
    have hb : isDecimal b = true := by simpa using hnot
    rw [hdrop, List.takeWhile_cons, if_pos hb]
    exact List.cons_ne_nil _ _

/-- What the agent makes of a text that begins with a version. -/
theorem Versioned.parseAgent {text : Str} (hv : Versioned text)
    (h : (parseAgentKernelVersion text).isSome = true) :
  atoi (majorOf text) = some (decimalValue (majorOf text) : Int) ∧
    atoi (minorOf text) = some (decimalValue (minorOf text) : Int) ∧
    (∀ run ∈ digitRuns 1 (afterMinor text), atoi run = some (decimalValue run : Int)) ∧
    parseAgentKernelVersion text
      = some ((decimalValue (majorOf text) : Int), (decimalValue (minorOf text) : Int),
          (thirdNumber text : Int))
  := by
  have hmajor := atoi_of_isSome hv.major (takeWhile_spec _).2.1
  have hminor := atoi_of_isSome hv.minor (takeWhile_spec _).2.1
  rw [parseAgentKernelVersion, hv.digitRuns_eq] at h ⊢
  rw [thirdNumber]
  rcases runs_afterMinor text with hnone | ⟨run, hone, hne, hrun⟩
  · simp only [hnone, Option.bind_eq_bind, Option.pure_def] at h ⊢
    obtain ⟨v, hv⟩ := Option.isSome_iff_exists.mp h
    obtain ⟨major, hmajor', hv⟩ := Option.bind_eq_some_iff.mp hv
    obtain ⟨minor, hminor', hv⟩ := Option.bind_eq_some_iff.mp hv
    have h₁ := hmajor (by rw [hmajor']; rfl)
    have h₂ := hminor (by rw [hminor']; rfl)
    rw [h₁, h₂]
    simp
  · have hthird := atoi_of_isSome hne hrun
    simp only [hone, Option.bind_eq_bind, Option.pure_def] at h ⊢
    obtain ⟨v, hv⟩ := Option.isSome_iff_exists.mp h
    obtain ⟨major, hmajor', hv⟩ := Option.bind_eq_some_iff.mp hv
    obtain ⟨minor, hminor', hv⟩ := Option.bind_eq_some_iff.mp hv
    obtain ⟨third, hthird', hv⟩ := Option.bind_eq_some_iff.mp hv
    have h₁ := hmajor (by rw [hmajor']; rfl)
    have h₂ := hminor (by rw [hminor']; rfl)
    have h₃ := hthird (by rw [hthird']; rfl)
    rw [h₁, h₂, h₃]
    simp [h₃]

/-- What the two engines make of a text that both can read. -/
theorem BothParse.spec {text : Str} (h : BothParse text) :
  parseAgentKernelVersion text
      = some ((decimalValue (majorOf text) : Int), (decimalValue (minorOf text) : Int),
          (thirdNumber text : Int)) ∧
    parseKernelVersion text = some {
      major := decimalValue (majorOf text)
      minor := decimalValue (minorOf text)
      patch := decimalValue (patchOf text) }
  := by
  obtain ⟨hversioned, hguard⟩ := versioned_of_parse h.guard
  obtain ⟨hmajor, hminor, hthird, hagent⟩ := hversioned.parseAgent h.agent
  use hagent
  rw [hguard, digitsValue_of_atoi hmajor, digitsValue_of_atoi hminor]
  by_cases hpatch : patchOf text = []
  · rw [if_pos hpatch, hpatch]
    rfl
  · rw [if_neg hpatch, digitsValue_of_atoi]
    apply hthird
    rw [digitRuns_patch hpatch]
    exact List.mem_singleton_self _

/-! ### The two verdicts -/

/-- The verdict of the agent on a host with a release, for a rule with bounds. -/
def agentInside (kernelMin kernelMax release : Str) : Bool :=
  Agent.kernelWithin { kernelMin := kernelMin, kernelMax := kernelMax }
    { hostProbe := some { kernelRelease := release } }

/-- The verdict of the guard. -/
def guardInside (kernelMin kernelMax release : Str) : Bool :=
  kernelWithin { kernelMin := kernelMin, kernelMax := kernelMax }
    { hostProbe := some { kernelRelease := release } }

/-- A release is inside the bounds, its version and theirs being read in some way. -/
def Inside (version : Str → Nat ×ₗ Nat ×ₗ Nat) (kernelMin kernelMax release : Str) : Prop :=
  (trimSpace kernelMin = [] ∨ version kernelMin ≤ version release) ∧
    (trimSpace kernelMax = [] ∨ version release ≤ version kernelMax)

/-- There is no bound, or both engines can read it. -/
def IsBound (text : Str) : Prop := trimSpace text = [] ∨ BothParse text

theorem earlierKernel_iff (a b c a' b' c' : Nat) :
  earlierKernel ((a : Int), (b : Int), (c : Int)) ((a' : Int), (b' : Int), (c' : Int)) = true
    ↔ toLex (a, toLex (b, c)) < toLex (a', toLex (b', c'))
  := by
  simp only [earlierKernel, Bool.or_eq_true, Bool.and_eq_true, decide_eq_true_eq, Prod.Lex.lt_iff,
    ofLex_toLex, Nat.cast_lt, Nat.cast_inj]

theorem compareKernelVersion_lt_iff (a b c a' b' c' : Nat) :
  compareKernelVersion ⟨a, b, c⟩ ⟨a', b', c'⟩ < 0
    ↔ toLex (a, toLex (b, c)) < toLex (a', toLex (b', c'))
  := by
  simp only [compareKernelVersion, Prod.Lex.lt_iff, ofLex_toLex]
  split_ifs <;> omega

theorem compareKernelVersion_gt_iff (a b c a' b' c' : Nat) :
  0 < compareKernelVersion ⟨a, b, c⟩ ⟨a', b', c'⟩
    ↔ toLex (a', toLex (b', c')) < toLex (a, toLex (b, c))
  := by
  simp only [compareKernelVersion, Prod.Lex.lt_iff, ofLex_toLex]
  split_ifs <;> omega

section

variable {kernelMin kernelMax release : Str} (hmin : IsBound kernelMin) (hmax : IsBound kernelMax)
  (hrelease : BothParse release)

include hmin hmax hrelease

theorem agentInside_iff :
  agentInside kernelMin kernelMax release = true ↔ Inside scattered kernelMin kernelMax release
  := by
  have hbound : ∀ text, IsBound text → trimSpace text ≠ [] →
      ((parseAgentKernelVersion text).getD (0, 0, 0))
        = ((decimalValue (majorOf text) : Int), (decimalValue (minorOf text) : Int),
          (thirdNumber text : Int)) := by
    intro text h hne
    rw [(h.resolve_left hne).spec.1, Option.getD_some]
  rw [agentInside, Agent.kernelWithin, Inside]
  simp only [Option.bind_some, hrelease.spec.1]
  by_cases hfree : trimSpace kernelMin = [] ∧ trimSpace kernelMax = []
  · simp [hfree]
  · rw [if_neg hfree, Bool.and_eq_true]
    apply and_congr
    · by_cases hne : trimSpace kernelMin = []
      · simp [hne]
      · rw [hbound kernelMin hmin hne]
        simp only [hne, decide_false, Bool.false_or, false_or, Bool.not_eq_true']
        rw [Bool.eq_false_iff, ne_eq, earlierKernel_iff, not_lt]
        rfl
    · by_cases hne : trimSpace kernelMax = []
      · simp [hne]
      · rw [hbound kernelMax hmax hne]
        simp only [hne, decide_false, Bool.false_or, false_or, Bool.not_eq_true']
        rw [Bool.eq_false_iff, ne_eq, earlierKernel_iff, not_lt]
        rfl

theorem guardInside_iff :
  guardInside kernelMin kernelMax release = true ↔ Inside leading kernelMin kernelMax release
  := by
  have hbound : ∀ text, IsBound text → trimSpace text ≠ [] →
      (parseKernelVersion text).getD {} = {
        major := decimalValue (majorOf text)
        minor := decimalValue (minorOf text)
        patch := decimalValue (patchOf text) } := by
    intro text h hne
    rw [(h.resolve_left hne).spec.2, Option.getD_some]
  rw [guardInside, kernelWithin, boundsKernel, Inside]
  simp only [Option.bind_some, hrelease.spec.2]
  by_cases hfree : trimSpace kernelMin = [] ∧ trimSpace kernelMax = []
  · simp [hfree]
  · have hbounded : (!(decide (trimSpace kernelMin ≠ []) || decide (trimSpace kernelMax ≠ [])))
        = false := by
      simpa using hfree
    rw [hbounded, Bool.false_or, Bool.and_eq_true]
    apply and_congr
    · by_cases hne : trimSpace kernelMin = []
      · simp [hne]
      · rw [hbound kernelMin hmin hne]
        simp only [hne, decide_false, Bool.false_or, false_or, decide_eq_true_eq]
        rw [← not_lt, compareKernelVersion_lt_iff, not_lt]
        rfl
    · by_cases hne : trimSpace kernelMax = []
      · simp [hne]
      · rw [hbound kernelMax hmax hne]
        simp only [hne, decide_false, Bool.false_or, false_or, decide_eq_true_eq]
        rw [← not_lt, compareKernelVersion_gt_iff, not_lt]
        rfl

end

/-- The two engines agree with each other, and with the version at the start of the texts. -/
def AgreeOn (kernelMin kernelMax release : Str) : Prop :=
  agentInside kernelMin kernelMax release = guardInside kernelMin kernelMax release ∧
    (guardInside kernelMin kernelMax release = true ↔ Inside leading kernelMin kernelMax release)

theorem scattered_eq_leading_iff {text : Str} :
  scattered text = leading text ↔ ReadAlike text
  := by
  rw [readAlike_iff, scattered, leading]
  simp

theorem agreeOn_of_readAlike {kernelMin kernelMax release : Str} (hmin : IsBound kernelMin)
    (hmax : IsBound kernelMax) (hrelease : BothParse release) (hmin' : ReadAlike kernelMin)
    (hmax' : ReadAlike kernelMax) (hrelease' : ReadAlike release) :
  AgreeOn kernelMin kernelMax release
  := by
  refine ⟨?_, guardInside_iff hmin hmax hrelease⟩
  rw [Bool.eq_iff_iff, agentInside_iff hmin hmax hrelease, guardInside_iff hmin hmax hrelease,
    Inside, Inside, scattered_eq_leading_iff.mpr hmin', scattered_eq_leading_iff.mpr hmax',
    scattered_eq_leading_iff.mpr hrelease']

/-! ### The bound that tells a text apart -/

/-- The two first numbers of a text. -/
def twoNumbers (text : Str) : Str := majorOf text ++ 46 :: minorOf text

/-- The two first numbers are those of the text, and nothing follows them. -/
theorem twoNumbers_eq (text : Str) :
  trimSpace (twoNumbers text) = twoNumbers text ∧
    majorOf (twoNumbers text) = majorOf text ∧
    (twoNumbers text).dropWhile isDecimal = 46 :: minorOf text ∧
    minorOf (twoNumbers text) = minorOf text ∧ afterMinor (twoNumbers text) = []
  := by
  have hmajor : ∀ b ∈ majorOf text, isDecimal b = true := (takeWhile_spec _).2.1
  have hminor : ∀ b ∈ minorOf text, isDecimal b = true := (takeWhile_spec _).2.1
  have hgraphic : ∀ b : UInt8, isDecimal b = true → 32 < b ∧ b < 127 := by decide +kernel
  have htrim : trimSpace (twoNumbers text) = twoNumbers text := by
    apply trimSpace_of_graphic
    intro b hb
    rw [twoNumbers, List.mem_append, List.mem_cons] at hb
    rcases hb with hb | rfl | hb
    · exact hgraphic b (hmajor b hb)
    · decide
    · exact hgraphic b (hminor b hb)
  have hdot : StartsOutside (46 :: minorOf text) := by
    intro b hb
    cases hb
    decide
  have hend : StartsOutside [] := by
    intro b hb
    cases hb
  obtain ⟨htake, hdrop⟩ := takeWhile_run hmajor hdot
  obtain ⟨htake', hdrop'⟩ := takeWhile_run hminor hend
  rw [List.append_nil] at htake' hdrop'
  have htext : (twoNumbers text).dropWhile isDecimal = 46 :: minorOf text := hdrop
  refine ⟨htrim, ?_, htext, ?_, ?_⟩
  · rw [majorOf, htrim]
    exact htake
  · rw [minorOf, htrim, htext, List.tail_cons, htake']
  · rw [afterMinor, htrim, htext, List.tail_cons, hdrop']

/-- Both engines can read the two first numbers of a text that both can read, and read them
alike. -/
theorem BothParse.twoNumbers {text : Str} (h : BothParse text) :
  BothParse (twoNumbers text) ∧ ReadAlike (twoNumbers text)
  := by
  obtain ⟨htrim, hmajor, hdrop, hminor, hafter⟩ := twoNumbers_eq text
  obtain ⟨hversioned, -⟩ := versioned_of_parse h.guard
  obtain ⟨hatoi, hatoi', -, -⟩ := hversioned.parseAgent h.agent
  have htwo : Versioned (Api.twoNumbers text) := by
    constructor
    · rw [hmajor]
      exact hversioned.major
    · rw [hminor]
      exact hversioned.minor
    · rw [htrim, hmajor, hminor, hafter, List.append_nil]
      rfl
  constructor
  · constructor
    · rw [parseAgentKernelVersion, htwo.digitRuns_eq, hmajor, hminor, hafter]
      simp [digitRuns, hatoi, hatoi']
    · rw [parseKernelVersion_eq, hmajor, hminor, htrim, hdrop, if_neg]
      · rfl
      · simp [hversioned.major, hversioned.minor]
  · right
    rw [hafter]
    simp [digitRuns]

/-- The versions of the two first numbers, in both readings. -/
theorem scattered_twoNumbers (text : Str) :
  scattered (twoNumbers text)
      = toLex (decimalValue (majorOf text), toLex (decimalValue (minorOf text), 0)) ∧
    leading (twoNumbers text)
      = toLex (decimalValue (majorOf text), toLex (decimalValue (minorOf text), 0))
  := by
  obtain ⟨-, hmajor, -, hminor, hafter⟩ := twoNumbers_eq text
  rw [scattered, leading, thirdNumber, patchOf, hmajor, hminor, hafter]
  exact ⟨rfl, rfl⟩

/-- Whatever the other texts, as long as they are read alike, the two engines agree with each other
and with the version at the start of the texts precisely when the text is read alike too. -/
theorem kernel_bounds_iff (text : Str) (h : BothParse text) :
  (∀ kernelMin kernelMax release, IsBound kernelMin → IsBound kernelMax → BothParse release →
      (kernelMin = text ∨ ReadAlike kernelMin) → (kernelMax = text ∨ ReadAlike kernelMax) →
      (release = text ∨ ReadAlike release) → AgreeOn kernelMin kernelMax release)
    ↔ ReadAlike text
  := by
  constructor
  · intro hagree
    by_contra hnot
    obtain ⟨htwo, halike⟩ := h.twoNumbers
    have hnil : ReadAlike [] := .inr (by simp [afterMinor, digitRuns])
    have hagree' := (hagree [] (twoNumbers text) text (.inl rfl) (.inr htwo) h (.inr hnil)
      (.inr halike) (.inl rfl)).1
    obtain ⟨hscattered, hleading⟩ := scattered_twoNumbers text
    -- a number that only the agent reads as the patch makes the release too late
    have hpatch : patchOf text = [] := by
      by_contra hne
      exact hnot (.inl hne)
    have hthird : 0 < thirdNumber text := by
      rw [readAlike_iff, hpatch] at hnot
      exact Nat.pos_of_ne_zero hnot
    have hguard : guardInside [] (twoNumbers text) text = true := by
      rw [guardInside_iff (.inl rfl) (.inr htwo) h]
      refine ⟨.inl rfl, .inr ?_⟩
      rw [hleading, leading, hpatch]
      exact le_refl _
    have hagent : ¬ agentInside [] (twoNumbers text) text = true := by
      rw [agentInside_iff (.inl rfl) (.inr htwo) h]
      rintro ⟨-, hblank | hle⟩
      · rw [(twoNumbers_eq text).1, Api.twoNumbers] at hblank
        simp at hblank
      · rw [hscattered, scattered, Prod.Lex.le_iff] at hle
        simp [Prod.Lex.le_iff] at hle
        omega
    rw [hagree'] at hagent
    exact hagent hguard
  · intro hread kernelMin kernelMax release hmin hmax hrelease hmin' hmax' hrelease'
    have halike : ∀ t, t = text ∨ ReadAlike t → ReadAlike t := by
      rintro t (rfl | ht)
      · exact hread
      · exact ht
    exact agreeOn_of_readAlike hmin hmax hrelease (halike _ hmin') (halike _ hmax')
      (halike _ hrelease')

/-! ### A distribution's release -/

theorem bothParse_ubuntu :
  BothParse (str "5.15.0-91-generic") ∧ ReadAlike (str "5.15.0-91-generic")
  := ⟨⟨by decide, by decide⟩, .inl (by decide)⟩

theorem kernel_bounds_ubuntu :
  BothParse (str "5.15.0-91-generic") ∧
    AgreeOn (str "5.10") (str "6.1") (str "5.15.0-91-generic")
  := by
  use bothParse_ubuntu.1
  apply (kernel_bounds_iff _ bothParse_ubuntu.1).mpr bothParse_ubuntu.2
  · exact .inr ⟨by decide, by decide⟩
  · exact .inr ⟨by decide, by decide⟩
  · exact bothParse_ubuntu.1
  · exact .inr (.inr (by decide))
  · exact .inr (.inr (by decide))
  · exact .inl rfl

/-- A release without a patch number, with a build number further on, is inside its own version for
the guard and outside for the agent. -/
theorem build_number_read_as_patch :
  ¬ ∀ kernelMin kernelMax release, IsBound kernelMin → IsBound kernelMax → BothParse release →
    AgreeOn kernelMin kernelMax release
  := by
  intro h
  have hagree := (h [] (str "5.15") (str "5.15-91-generic") (.inl rfl)
    (.inr ⟨by decide, by decide⟩) ⟨by decide, by decide⟩).1
  revert hagree
  decide

end Api
