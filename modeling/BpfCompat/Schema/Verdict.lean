import BpfCompat.Schema.Report

/-!
# Verdicts

The verdict of a target, the verdict of a run and its coverage.  The loop that rolls a
run up stops at the first required incompatibility and otherwise remembers whether some
required target could not be established; what it computes is a statement about the set
of required targets (`runVerdict_eq`).

The roll-up has no case for a required target whose verdict is none of the four known
ones.  It fails closed on a list of targets exactly when every required verdict is known,
or another required target decides the run (`failsClosed_iff`).
-/

namespace Schema

open Go

/-- The contract was executed and satisfied. -/
def verdictCompatible : Str := str "COMPATIBLE"

/-- The contract was executed far enough to establish that it is not satisfied. -/
def verdictIncompatible : Str := str "INCOMPATIBLE"

/-- The pipeline failed before compatibility was established. -/
def verdictInfraError : Str := str "INFRA_ERROR"

/-- The environment cannot be executed. -/
def verdictUnsupported : Str := str "UNSUPPORTED"

/-- The verdict of a per-target status; a status that is not recognised says nothing about
the software. -/
def verdictForStatus (status : Str) : Str :=
  if status = str "pass" then verdictCompatible
  else if status = str "infra_error" then verdictInfraError
  else if status = str "unsupported" then verdictUnsupported
  else if status = str "fail" ∨ status = str "partial" then verdictIncompatible
  else verdictInfraError

/-- The target exercised the environment its profile asked for, or does not say. -/
def establishedRequestedEnvironment (t : Target) : Bool :=
  match t.environment with
  | none => true
  | some env =>
    if env.distroMatch = some false then false
    else
      match env.kernelFamilyMatch with
      | none => true
      | some kernelFamilyMatch => kernelFamilyMatch

/-- The loop of the run roll-up over the remaining targets. -/
def runVerdictFrom (cannotEstablish : Bool) : List Target → Str
  | [] => if cannotEstablish then verdictInfraError else verdictCompatible
  | t :: targets =>
    if !t.required then runVerdictFrom cannotEstablish targets
    else if t.verdict = verdictIncompatible then verdictIncompatible
    else if t.verdict = verdictInfraError ∨ t.verdict = verdictUnsupported then
      runVerdictFrom true targets
    else if t.verdict = verdictCompatible ∧ !establishedRequestedEnvironment t then
      runVerdictFrom true targets
    -- a verdict the switch has no case for leaves the flag as it is
    else runVerdictFrom cannotEstablish targets

/-- The verdict of a run. -/
def runVerdict (targets : List Target) : Str := runVerdictFrom false targets

/-- Every target produced an answer about the environment it was asked about. -/
def runComplete : List Target → Bool
  | [] => true
  | t :: targets =>
    if t.verdict = verdictInfraError ∨ t.verdict = verdictUnsupported then false
    else if !establishedRequestedEnvironment t then false
    else runComplete targets

/-! ### The roll-up as a statement about the required targets -/

/-- A required target that proves an incompatibility. -/
def provesIncompatible (t : Target) : Bool :=
  t.required && t.verdict = verdictIncompatible

/-- A required target the run could not establish. -/
def cannotEstablish (t : Target) : Bool :=
  t.required && (t.verdict = verdictInfraError || t.verdict = verdictUnsupported ||
    (t.verdict = verdictCompatible && !establishedRequestedEnvironment t))

theorem runVerdictFrom_cons (flag : Bool) (t : Target) (targets : List Target) :
  runVerdictFrom flag (t :: targets)
    = if provesIncompatible t then verdictIncompatible
      else runVerdictFrom (flag || cannotEstablish t) targets
  := by
  rw [runVerdictFrom]
  cases hr : t.required with
  | false => simp [provesIncompatible, cannotEstablish, hr]
  | true =>
      by_cases hi : t.verdict = verdictIncompatible
      · simp [provesIncompatible, hr, hi]
      · by_cases hu : t.verdict = verdictInfraError ∨ t.verdict = verdictUnsupported
        · have hc : cannotEstablish t = true := by
            simp only [cannotEstablish, hr, Bool.true_and, Bool.or_eq_true, decide_eq_true_eq]
            left
            exact hu
          simp [provesIncompatible, hr, hi, hu, hc]
        · obtain ⟨hu₁, hu₂⟩ := not_or.mp hu
          by_cases hc : t.verdict = verdictCompatible
          · cases he : establishedRequestedEnvironment t with
            | false => simp [provesIncompatible, cannotEstablish, hr, hc, he]
            | true => simp [provesIncompatible, cannotEstablish, hr, hi, hu₁, hu₂, he]
          · simp [provesIncompatible, cannotEstablish, hr, hi, hu₁, hu₂, hc]

/-- What the loop computes from a given flag. -/
theorem runVerdictFrom_eq (flag : Bool) (targets : List Target) :
  runVerdictFrom flag targets
    = if targets.any provesIncompatible then verdictIncompatible
      else if flag || targets.any cannotEstablish then verdictInfraError
      else verdictCompatible
  := by
  induction targets generalizing flag with
  | nil => simp [runVerdictFrom]
  | cons t targets ih =>
      rw [runVerdictFrom_cons, ih, List.any_cons, List.any_cons, Bool.or_assoc]
      cases provesIncompatible t <;> simp

/-- A required incompatibility decides the run; otherwise a required target that could not
be established does. -/
theorem runVerdict_eq (targets : List Target) :
  runVerdict targets
    = if targets.any provesIncompatible then verdictIncompatible
      else if targets.any cannotEstablish then verdictInfraError
      else verdictCompatible
  := by
  rw [runVerdict, runVerdictFrom_eq, Bool.false_or]

/-- The target answers the question its profile asks. -/
def answers (t : Target) : Bool :=
  t.verdict ≠ verdictInfraError && t.verdict ≠ verdictUnsupported &&
    establishedRequestedEnvironment t

theorem runComplete_eq (targets : List Target) :
  runComplete targets = targets.all answers
  := by
  induction targets with
  | nil => rfl
  | cons t targets ih =>
      rw [runComplete, ih, List.all_cons]
      by_cases h₁ : t.verdict = verdictInfraError
      · simp [answers, h₁]
      · by_cases h₂ : t.verdict = verdictUnsupported
        · simp [answers, h₂]
        · cases he : establishedRequestedEnvironment t <;> simp [answers, h₁, h₂, he]

theorem runVerdict_perm {targets targets' : List Target} (h : targets.Perm targets') :
  runVerdict targets = runVerdict targets'
  := by
  rw [runVerdict_eq, runVerdict_eq, h.any_eq, h.any_eq]

theorem runComplete_perm {targets targets' : List Target} (h : targets.Perm targets') :
  runComplete targets = runComplete targets'
  := by
  rw [runComplete_eq, runComplete_eq, h.all_eq]

/-- Only required targets count. -/
theorem runVerdict_filter_required (targets : List Target) :
  runVerdict (targets.filter (·.required)) = runVerdict targets
  := by
  have hany : ∀ p : Target → Bool, (∀ t, p t → t.required) →
      (targets.filter (·.required)).any p = targets.any p := by
    intro p hp
    rw [Bool.eq_iff_iff, List.any_eq_true, List.any_eq_true]
    constructor
    · rintro ⟨t, ht, hpt⟩
      exact ⟨t, (List.mem_filter.mp ht).1, hpt⟩
    · rintro ⟨t, ht, hpt⟩
      exact ⟨t, List.mem_filter.mpr ⟨ht, hp t hpt⟩, hpt⟩
  rw [runVerdict_eq, runVerdict_eq, hany, hany]
  · intro t ht
    simp only [cannotEstablish, Bool.and_eq_true] at ht
    apply ht.1
  · intro t ht
    simp only [provesIncompatible, Bool.and_eq_true] at ht
    apply ht.1

/-! ### Failing closed -/

/-- Every required target proved compatibility on the environment its profile names. -/
def AllEstablished (targets : List Target) : Prop :=
  ∀ t ∈ targets, t.required →
    t.verdict = verdictCompatible ∧ establishedRequestedEnvironment t

/-- Some required target proved an incompatibility. -/
def SomeIncompatible (targets : List Target) : Prop :=
  ∃ t ∈ targets, t.required ∧ t.verdict = verdictIncompatible

/-- The roll-up of a list of targets is `COMPATIBLE` when all of it is established,
`INCOMPATIBLE` when some of it is broken and `INFRA_ERROR` in every other case, whatever
the order of the targets and whatever the optional ones are. -/
structure FailsClosed (targets : List Target) : Prop where
  compatible_iff : runVerdict targets = verdictCompatible ↔ AllEstablished targets
  incompatible_iff : runVerdict targets = verdictIncompatible ↔ SomeIncompatible targets
  otherwise : ¬ AllEstablished targets → ¬ SomeIncompatible targets →
    runVerdict targets = verdictInfraError
  perm : ∀ targets' : List Target, targets'.Perm targets →
    runVerdict targets' = runVerdict targets
  optional : ∀ targets' : List Target,
    targets'.filter (·.required) = targets.filter (·.required) →
      runVerdict targets' = runVerdict targets

/-- The verdict is one of the four the contract knows. -/
def KnownVerdict (verdict : Str) : Prop :=
  verdict ∈ [verdictCompatible, verdictIncompatible, verdictInfraError, verdictUnsupported]

theorem any_provesIncompatible (targets : List Target) :
  targets.any provesIncompatible ↔ SomeIncompatible targets
  := by
  simp [List.any_eq_true, provesIncompatible, SomeIncompatible]

/-- A required target that neither breaks the run nor is left unestablished proved
compatibility, provided its verdict is known. -/
theorem established_of_known {t : Target} (hk : KnownVerdict t.verdict) (hr : t.required)
    (hi : provesIncompatible t = false) (hc : cannotEstablish t = false) :
  t.verdict = verdictCompatible ∧ establishedRequestedEnvironment t
  := by
  simp only [provesIncompatible, hr, Bool.true_and, decide_eq_false_iff_not] at hi
  simp only [cannotEstablish, hr, Bool.true_and, Bool.or_eq_false_iff,
    decide_eq_false_iff_not] at hc
  obtain ⟨⟨hc₁, hc₂⟩, hc₃⟩ := hc
  have hv : t.verdict = verdictCompatible := by
    simpa [KnownVerdict, hi, hc₁, hc₂] using hk
  use hv
  simpa [hv] using hc₃

/-- An established target neither breaks the run nor leaves it unestablished. -/
theorem not_cannotEstablish {t : Target} (hv : t.verdict = verdictCompatible)
    (he : establishedRequestedEnvironment t) :
  provesIncompatible t = false ∧ cannotEstablish t = false
  := by
  have h₁ : verdictCompatible ≠ verdictIncompatible := by decide
  have h₂ : verdictCompatible ≠ verdictInfraError := by decide
  have h₃ : verdictCompatible ≠ verdictUnsupported := by decide
  simp [provesIncompatible, cannotEstablish, hv, he, h₁, h₂, h₃]

theorem runVerdict_eq_incompatible_iff (targets : List Target) :
  runVerdict targets = verdictIncompatible ↔ SomeIncompatible targets
  := by
  have hinfra : verdictInfraError ≠ verdictIncompatible := by decide
  have hcompat : verdictCompatible ≠ verdictIncompatible := by decide
  rw [runVerdict_eq, ← any_provesIncompatible]
  split_ifs with h₁ h₂
  · simp [h₁]
  · simp [h₁, hinfra]
  · simp [h₁, hcompat]

/-- The roll-up is `COMPATIBLE` when no required target is incompatible or left
unestablished. -/
theorem runVerdict_eq_compatible_iff (targets : List Target) :
  runVerdict targets = verdictCompatible ↔
    ∀ t ∈ targets, provesIncompatible t = false ∧ cannotEstablish t = false
  := by
  have hinfra : verdictInfraError ≠ verdictCompatible := by decide
  have hincompat : verdictIncompatible ≠ verdictCompatible := by decide
  rw [runVerdict_eq]
  split_ifs with h₁ h₂
  · obtain ⟨t, ht, hp⟩ := List.any_eq_true.mp h₁
    simp only [hincompat, false_iff]
    intro h
    simp [(h t ht).1] at hp
  · obtain ⟨t, ht, hp⟩ := List.any_eq_true.mp h₂
    simp only [hinfra, false_iff]
    intro h
    simp [(h t ht).2] at hp
  · simp only [Bool.not_eq_true, List.any_eq_false] at h₁ h₂
    simp only [true_iff]
    intro t ht
    exact ⟨by simpa using h₁ t ht, by simpa using h₂ t ht⟩

theorem runVerdict_of_allEstablished {targets : List Target} (h : AllEstablished targets) :
  runVerdict targets = verdictCompatible
  := by
  apply (runVerdict_eq_compatible_iff targets).mpr
  intro t ht
  cases hr : t.required with
  | false => simp [provesIncompatible, cannotEstablish, hr]
  | true =>
      obtain ⟨hv, he⟩ := h t ht hr
      apply not_cannotEstablish hv he

/-- Everything the roll-up promises holds of every list, but that `COMPATIBLE` means
established. -/
theorem failsClosed_of {targets : List Target}
    (h : runVerdict targets = verdictCompatible → AllEstablished targets) :
  FailsClosed targets
  where
  compatible_iff := ⟨h, runVerdict_of_allEstablished⟩
  incompatible_iff := runVerdict_eq_incompatible_iff targets
  otherwise := by
    intro hall hsome
    rw [← any_provesIncompatible] at hsome
    have hne : runVerdict targets ≠ verdictCompatible := fun hc => hall (h hc)
    rw [runVerdict_eq] at hne ⊢
    split_ifs at hne ⊢ with h₂
    · rfl
    · exact absurd rfl hne
  perm targets' hperm := runVerdict_perm hperm
  optional targets' hreq := by
    rw [← runVerdict_filter_required, hreq, runVerdict_filter_required]

/-- The roll-up fails closed exactly when every required verdict is known, or some required
target decides the run by being incompatible or not established. -/
theorem failsClosed_iff (targets : List Target) :
  FailsClosed targets ↔
    (∀ t ∈ targets, t.required → KnownVerdict t.verdict) ∨
      ∃ t ∈ targets, provesIncompatible t ∨ cannotEstablish t
  := by
  constructor
  · intro h
    by_cases hd : ∃ t ∈ targets, provesIncompatible t ∨ cannotEstablish t
    · right
      exact hd
    · left
      have hcompat : runVerdict targets = verdictCompatible := by
        apply (runVerdict_eq_compatible_iff targets).mpr
        intro t ht
        by_contra hne
        apply hd
        use t, ht
        by_contra hno
        simp only [not_or, Bool.not_eq_true] at hno
        exact hne hno
      intro t ht hr
      simp [KnownVerdict, (h.compatible_iff.mp hcompat t ht hr).1]
  · intro h
    apply failsClosed_of
    intro hcompat t ht hr
    have hnone := (runVerdict_eq_compatible_iff targets).mp hcompat
    obtain hk | ⟨u, hu, hd⟩ := h
    · apply established_of_known (hk t ht hr) hr (hnone t ht).1 (hnone t ht).2
    · obtain ⟨h₁, h₂⟩ := hnone u hu
      simp [h₁, h₂] at hd

/-- A required target with no verdict leaves the run `COMPATIBLE`. -/
theorem not_failsClosed_blank_verdict :
  ¬ FailsClosed [{ profileID := str "ubuntu-22.04-5.15", required := true, verdict := [] }]
  := by
  intro h
  have hall := h.compatible_iff.mp (by decide)
  have hv := (hall _ (List.mem_singleton_self _) rfl).1
  revert hv
  decide

end Schema
