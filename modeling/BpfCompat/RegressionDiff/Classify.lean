import BpfCompat.RegressionDiff.Validate

/-!
# One cell of the comparison

A cell compares what the two reports say about one obligation.  `sideOf` reads one
report's target, `classify` decides.  The decision is a cascade of refusals followed by a
table of verdicts; `classification_both` says that the table is reached exactly when the
two runs answer the same question (`SameObligation`) and each of them answered it
(`Conclusive`).
-/

namespace RegressionDiff

open Go Schema

/-- The classifications of a cell. -/
inductive Classification where
  | unchangedCompatible
  | newRegression
  | existingIncompatibility
  | fixed
  | inconclusive
  | coverageAdded
  | coverageRemoved
deriving DecidableEq

/-- What a side says about the environment that ran. -/
inductive EnvironmentEvidence where
  | established
  | unknown
  | mismatch
deriving DecidableEq

/-- One side's evidence for an obligation. -/
structure CellSide where
  present : Bool := false
  verdict : Str := []
  status : Str := []
  required : Bool := false
  classificationCode : Str := []
  requestedKernelFamily : Str := []
  observedKernel : Str := []
  kernelFamilyMatch : Option Bool := none
  requestedDistro : Str := []
  observedOSID : Str := []
  observedOSVersionID : Str := []
  distroMatch : Option Bool := none
  environmentEstablished : Bool := false
  environmentEvidence : Option EnvironmentEvidence := none
  profileArch : Str := []
  profileDistro : Str := []
  profileVersion : Str := []
  profileKernelFamily : Str := []
  attachMode : Str := []
deriving DecidableEq

/-- The comparison of one obligation. -/
structure Cell where
  key : Str
  profileID : Str
  required : Bool := false
  requiredChanged : Bool := false
  classification : Classification := .inconclusive
  reason : Str := []
  baseline : CellSide := {}
  candidate : CellSide := {}
deriving DecidableEq

/-! ### One side -/

/-- Whether a target exercised the environment its obligation names.  An unrecorded
distribution is neutral, an unrecorded kernel is not. -/
def establishedEnvironment (t : Target) : EnvironmentEvidence :=
  match t.environment with
  | none => .unknown
  | some env =>
    if env.distroMatch = some false then .mismatch
    else
      match env.kernelFamilyMatch with
      | none => .unknown
      | some false => .mismatch
      | some true => .established

/-- What a report says about an obligation. -/
def sideOf (t : Target) : CellSide :=
  let env := t.environment.getD {}
  let profile := t.profile.getD {}
  { present := true
    verdict := t.verdict
    status := t.status
    required := t.required
    classificationCode := t.classificationCode
    environmentEvidence := some (establishedEnvironment t)
    environmentEstablished := establishedEnvironment t = .established
    requestedKernelFamily := env.requestedKernelFamily
    observedKernel := env.observedKernel
    kernelFamilyMatch := env.kernelFamilyMatch
    requestedDistro := env.requestedDistro
    observedOSID := env.observedOSID
    observedOSVersionID := env.observedOSVersionID
    distroMatch := env.distroMatch
    profileArch := profile.arch
    profileDistro := profile.distro
    profileVersion := profile.version
    profileKernelFamily := profile.kernelFamily
    attachMode := (t.validation.getD {}).attachMode }

/-- The side settled the obligation. -/
def conclusive (s : CellSide) : Bool :=
  s.present && s.environmentEstablished &&
    (s.verdict = verdictCompatible || s.verdict = verdictIncompatible)

/-- The target answered, on an environment known to be the requested one. -/
structure Conclusive (t : Target) : Prop where
  verdict : t.verdict = verdictCompatible ∨ t.verdict = verdictIncompatible
  environment : ∃ env, t.environment = some env ∧ env.kernelFamilyMatch = some true ∧
    env.distroMatch ≠ some false

theorem establishedEnvironment_eq_established_iff {t : Target} :
  establishedEnvironment t = .established ↔
    ∃ env, t.environment = some env ∧ env.kernelFamilyMatch = some true ∧
      env.distroMatch ≠ some false
  := by
  rw [establishedEnvironment]
  cases t.environment with
  | none => simp
  | some env =>
      by_cases hd : env.distroMatch = some false
      · simp [hd]
      · cases hk : env.kernelFamilyMatch with
        | none => simp [hd, hk]
        | some m => cases m <;> simp [hd, hk]

theorem conclusive_sideOf_iff {t : Target} :
  conclusive (sideOf t) = true ↔ Conclusive t
  := by
  simp only [conclusive, Bool.and_eq_true, Bool.or_eq_true, decide_eq_true_eq]
  simp only [sideOf, decide_eq_true_eq, true_and]
  rw [establishedEnvironment_eq_established_iff]
  constructor
  · rintro ⟨henv, hv⟩
    exact ⟨hv, henv⟩
  · rintro ⟨hv, henv⟩
    exact ⟨henv, hv⟩

section

variable [UnicodeTables]

/-- Why a side did not settle its obligation. -/
def describeSide (side : Str) (s : CellSide) : Str :=
  if !s.present then side ++ str " has no evidence for this environment"
  else if s.environmentEvidence = some .mismatch ∧ s.distroMatch = some false ∧
      s.kernelFamilyMatch ≠ some false then
    side ++ str " requested distribution " ++ s.requestedDistro ++
      str " but the guest reported " ++ s.observedOSID ++ str " " ++ s.observedOSVersionID ++
      str ", so it never tested the environment this obligation names"
  else if s.environmentEvidence = some .mismatch ∧ s.distroMatch = some false then
    side ++ str " requested kernel family " ++ s.requestedKernelFamily ++ str " on " ++
      s.requestedDistro ++ str " but ran " ++ s.observedKernel ++ str " on " ++ s.observedOSID ++
      str " " ++ s.observedOSVersionID ++
      str ", so it never tested the environment this obligation names"
  else if s.environmentEvidence = some .mismatch then
    side ++ str " requested kernel family " ++ s.requestedKernelFamily ++ str " but ran " ++
      s.observedKernel ++ str ", so it never tested the environment this obligation names"
  else if s.environmentEvidence = some .unknown then
    side ++ str " does not record which kernel it ran (no environment.kernel_family_match), so it cannot support a claim about the environment this obligation names"
  else if s.verdict = verdictInfraError then
    side ++ str " could not establish compatibility (infrastructure failure)"
  else if s.verdict = verdictUnsupported then
    side ++ str " could not execute this environment"
  else if s.verdict = [] then
    side ++ str " records no verdict"
  else
    side ++ str " verdict " ++ quote s.verdict ++ str " is not a compatibility answer"

/-- Why a cell with both sides present is inconclusive. -/
def inconclusiveReason (b c : CellSide) : Str :=
  join (str "; ")
    ((if conclusive b then [] else [describeSide (str "baseline") b]) ++
      (if conclusive c then [] else [describeSide (str "candidate") c]))

/-! ### The same obligation -/

/-- The comparison of one recorded text: absent on both sides or equal, it is unchanged;
recorded on one side only, it cannot be shown to be the same. -/
def recordedChange (base cand : Str) (oneSided changed : Str → Str → Str) : Option Str :=
  let base := trimSpace base
  let cand := trimSpace cand
  if base = [] ∧ cand = [] then none
  else if base = cand then none
  else if base = [] ∨ cand = [] then some (oneSided base cand)
  else some (changed base cand)

omit [UnicodeTables] in
theorem recordedChange_eq_none_iff {base cand : Str} {oneSided changed : Str → Str → Str} :
  recordedChange base cand oneSided changed = none ↔ trimSpace base = trimSpace cand
  := by
  rw [recordedChange]
  by_cases h : trimSpace base = trimSpace cand
  · simp [h]
  · have hblank : ¬ (trimSpace base = [] ∧ trimSpace cand = []) := by
      rintro ⟨hb, hc⟩
      exact h (hb.trans hc.symm)
    simp only [h, hblank, if_false, iff_false]
    split_ifs <;> simp

/-- A change of one dimension of the profile. -/
def dimensionChanged (name base cand : Str) : Option Str :=
  recordedChange base cand
    (fun base cand =>
      str "the obligation cannot be shown to be the same: " ++ name ++ str " is " ++ quote base ++
        str " at baseline and " ++ quote cand ++
        str " in the candidate, and one side does not say")
    (fun base cand =>
      str "the obligation changed: this profile names " ++ name ++ str " " ++ base ++
        str " at baseline and " ++ cand ++
        str " in the candidate, so the two results are about different environments")

/-- A change of the environment the profile names. -/
def obligationChanged (b c : CellSide) : Option Str :=
  (dimensionChanged (str "architecture") b.profileArch c.profileArch).or <|
  (dimensionChanged (str "distro") b.profileDistro c.profileDistro).or <|
  (dimensionChanged (str "distro version") b.profileVersion c.profileVersion).or <|
  dimensionChanged (str "kernel family") b.profileKernelFamily c.profileKernelFamily

/-- A change of how much of the contract was exercised. -/
def validationDepthChanged (b c : CellSide) : Option Str :=
  recordedChange b.attachMode c.attachMode
    (fun base cand =>
      str "the validation contract cannot be shown to be the same: attach mode " ++ quote base ++
        str " at baseline and " ++ quote cand ++
        str " in the candidate, and one side does not say")
    (fun base cand =>
      str "the validation contract changed: attach mode " ++ quote base ++
        str " at baseline and " ++ quote cand ++
        str " in the candidate, so the two runs exercised different amounts of the contract")

/-- The environment a target's profile names, as far as it says. -/
def profileIdentity (t : Target) : Str × Str × Str × Str :=
  let profile := t.profile.getD {}
  (trimSpace profile.arch, trimSpace profile.distro, trimSpace profile.version,
    trimSpace profile.kernelFamily)

/-- How much of the contract a target exercised, as far as it says. -/
def attachMode (t : Target) : Str := trimSpace (t.validation.getD {}).attachMode

/-- The kernel family a target's environment block requests, as far as it says. -/
def requestedFamily (t : Target) : Str :=
  trimSpace (t.environment.getD {}).requestedKernelFamily

theorem obligationChanged_eq_none_iff {bt ct : Target} :
  obligationChanged (sideOf bt) (sideOf ct) = none ↔ profileIdentity bt = profileIdentity ct
  := by
  simp only [obligationChanged, Option.or_eq_none_iff, dimensionChanged,
    recordedChange_eq_none_iff, sideOf, profileIdentity, Prod.mk.injEq]

theorem validationDepthChanged_eq_none_iff {bt ct : Target} :
  validationDepthChanged (sideOf bt) (sideOf ct) = none ↔ attachMode bt = attachMode ct
  := recordedChange_eq_none_iff

/-- The two targets make the same promise, as far as they say. -/
structure SameObligation (bt ct : Target) : Prop where
  required : bt.required = ct.required
  requestedFamily : requestedFamily bt ≠ [] → requestedFamily ct ≠ [] →
    requestedFamily bt = requestedFamily ct
  profile : profileIdentity bt = profileIdentity ct
  attachMode : attachMode bt = attachMode ct

/-! ### The decision -/

/-- The table of verdicts. -/
def settle (b c : CellSide) : Classification × Str :=
  if b.verdict = verdictCompatible ∧ c.verdict = verdictCompatible then
    (.unchangedCompatible, str "supported at baseline and still supported")
  else if b.verdict = verdictCompatible ∧ c.verdict = verdictIncompatible then
    (.newRegression,
      str "the baseline proved this environment worked and the candidate proves it no longer does")
  else if b.verdict = verdictIncompatible ∧ c.verdict = verdictIncompatible then
    (.existingIncompatibility,
      str "incompatible at baseline and still incompatible; a known limitation, not a new regression")
  else
    (.fixed, str "incompatible at baseline and compatible in the candidate")

/-- The decision on an obligation both reports test. -/
def compareSides (b c : CellSide) (incomparable : Str) : Classification × Str :=
  let bFam := trimSpace b.requestedKernelFamily
  let cFam := trimSpace c.requestedKernelFamily
  if incomparable ≠ [] then (.inconclusive, incomparable)
  else if b.required ≠ c.required then
    (.inconclusive, str "the support contract changed: this environment is required=" ++
      formatBool b.required ++ str " at baseline and required=" ++ formatBool c.required ++
      str " in the candidate, so the two results are not like-for-like")
  else if bFam ≠ [] ∧ cFam ≠ [] ∧ bFam ≠ cFam then
    (.inconclusive, str "the obligation changed: baseline requests kernel family " ++ bFam ++
      str ", candidate requests " ++ cFam)
  else
    match obligationChanged b c with
    | some reason => (.inconclusive, reason)
    | none =>
      match validationDepthChanged b c with
      | some reason => (.inconclusive, reason)
      | none =>
        if !conclusive b || !conclusive c then (.inconclusive, inconclusiveReason b c)
        else settle b c

/-- The decision on an obligation only the candidate tests. -/
def compareAdded (c : CellSide) : Classification × Str :=
  if !conclusive c then
    (.inconclusive,
      str "candidate adds an obligation the baseline did not test, but did not establish it: " ++
        describeSide (str "candidate") c)
  else
    (.coverageAdded,
      str "candidate tests an environment the baseline did not; new evidence, not a regression")

/-- The cell of an obligation. -/
def classify (id : Str) (bt ct : Option Target) (incomparable : Str) : Cell :=
  match bt, ct with
  | none, none =>
    { key := id
      profileID := id
      classification := .inconclusive
      reason := str "obligation present in neither report" }
  | none, some ct =>
    { key := id
      profileID := id
      candidate := sideOf ct
      required := ct.required
      classification := (compareAdded (sideOf ct)).1
      reason := (compareAdded (sideOf ct)).2 }
  | some bt, none =>
    { key := id
      profileID := id
      baseline := sideOf bt
      required := bt.required
      classification := .coverageRemoved
      reason := str "baseline tested this environment and the candidate does not; continued support cannot be established" }
  | some bt, some ct =>
    { key := id
      profileID := id
      baseline := sideOf bt
      candidate := sideOf ct
      required := bt.required || ct.required
      requiredChanged := bt.required ≠ ct.required
      classification := (compareSides (sideOf bt) (sideOf ct) incomparable).1
      reason := (compareSides (sideOf bt) (sideOf ct) incomparable).2 }

@[simp] theorem classify_key (id : Str) (bt ct : Option Target) (incomparable : Str) :
  (classify id bt ct incomparable).key = id
  := by
  cases bt <;> cases ct <;> rfl

@[simp] theorem classify_required (id : Str) (bt ct : Option Target) (incomparable : Str) :
  (classify id bt ct incomparable).required = true ↔
    (∃ t, bt = some t ∧ t.required = true) ∨ ∃ t, ct = some t ∧ t.required = true
  := by
  cases bt <;> cases ct <;> simp [classify]

/-- The cell reaches the table of verdicts. -/
structure Comparable (incomparable : Str) (bt ct : Target) : Prop where
  contract : incomparable = []
  obligation : SameObligation bt ct
  baseline : Conclusive bt
  candidate : Conclusive ct

theorem compareSides_of_comparable {bt ct : Target} {incomparable : Str}
    (h : Comparable incomparable bt ct) :
  compareSides (sideOf bt) (sideOf ct) incomparable = settle (sideOf bt) (sideOf ct)
  := by
  have hb := conclusive_sideOf_iff.mpr h.baseline
  have hc := conclusive_sideOf_iff.mpr h.candidate
  have hreq : (sideOf bt).required = (sideOf ct).required := h.obligation.required
  have hfam : ¬ (trimSpace (sideOf bt).requestedKernelFamily ≠ [] ∧
      trimSpace (sideOf ct).requestedKernelFamily ≠ [] ∧
      trimSpace (sideOf bt).requestedKernelFamily ≠ trimSpace (sideOf ct).requestedKernelFamily) := by
    rintro ⟨hb, hc, hne⟩
    exact hne (h.obligation.requestedFamily hb hc)
  have hob := obligationChanged_eq_none_iff.mpr h.obligation.profile
  have hdepth := validationDepthChanged_eq_none_iff.mpr h.obligation.attachMode
  rw [compareSides, if_neg (not_not.mpr h.contract), if_neg (not_not.mpr hreq), if_neg hfam]
  simp [hob, hdepth, hb, hc]

/-- The cascade has no other way to an answer. -/
theorem comparable_of_compareSides {bt ct : Target} {incomparable : Str}
    (h : (compareSides (sideOf bt) (sideOf ct) incomparable).1 ≠ .inconclusive) :
  Comparable incomparable bt ct
  := by
  by_contra hnot
  apply h
  by_cases hinc : incomparable = []
  swap
  · rw [compareSides, if_pos hinc]
  by_cases hreq : (sideOf bt).required = (sideOf ct).required
  swap
  · rw [compareSides, if_neg (not_not.mpr hinc), if_pos hreq]
  rw [compareSides, if_neg (not_not.mpr hinc), if_neg (not_not.mpr hreq)]
  split_ifs with hfam hconc
  · rfl
  · cases obligationChanged (sideOf bt) (sideOf ct) with
    | some reason => rfl
    | none => cases validationDepthChanged (sideOf bt) (sideOf ct) <;> rfl
  · cases hob : obligationChanged (sideOf bt) (sideOf ct) with
    | some reason => rfl
    | none =>
        cases hdepth : validationDepthChanged (sideOf bt) (sideOf ct) with
        | some reason => rfl
        | none =>
            -- every refusal was passed, so the cell was comparable
            exfalso
            apply hnot
            rw [Bool.or_eq_true, not_or] at hconc
            constructor
            · exact hinc
            · constructor
              · exact hreq
              · intro hb hc
                by_contra hne
                exact hfam ⟨hb, hc, hne⟩
              · exact obligationChanged_eq_none_iff.mp hob
              · exact validationDepthChanged_eq_none_iff.mp hdepth
            · apply conclusive_sideOf_iff.mp
              simpa using hconc.1
            · apply conclusive_sideOf_iff.mp
              simpa using hconc.2

/-! ### What each classification says -/

omit [UnicodeTables] in
theorem settle_eq {bt ct : Target} {incomparable : Str} (h : Comparable incomparable bt ct) :
  (settle (sideOf bt) (sideOf ct)).1 =
    if bt.verdict = verdictCompatible then
      if ct.verdict = verdictCompatible then .unchangedCompatible else .newRegression
    else if ct.verdict = verdictCompatible then .fixed else .existingIncompatibility
  := by
  have hne : verdictIncompatible ≠ verdictCompatible := by decide
  have hb : (sideOf bt).verdict = bt.verdict := rfl
  have hc : (sideOf ct).verdict = ct.verdict := rfl
  rw [settle, hb, hc]
  obtain hbv | hbv := h.baseline.verdict
  · obtain hcv | hcv := h.candidate.verdict
    · simp [hbv, hcv]
    · simp [hbv, hcv, hne]
  · obtain hcv | hcv := h.candidate.verdict
    · simp [hbv, hcv, hne, hne.symm]
    · simp [hbv, hcv, hne]

/-- An obligation that both reports test is settled when it is comparable, and
inconclusive otherwise. -/
theorem classification_both {id incomparable : Str} {bt ct : Target} :
  (Comparable incomparable bt ct →
    (classify id (some bt) (some ct) incomparable).classification =
      if bt.verdict = verdictCompatible then
        if ct.verdict = verdictCompatible then .unchangedCompatible else .newRegression
      else if ct.verdict = verdictCompatible then .fixed else .existingIncompatibility) ∧
  (¬ Comparable incomparable bt ct →
    (classify id (some bt) (some ct) incomparable).classification = .inconclusive)
  := by
  constructor
  · intro h
    simp only [classify]
    rw [compareSides_of_comparable h, settle_eq h]
  · intro h
    simp only [classify]
    by_contra hne
    exact h (comparable_of_compareSides hne)

/-- A regression is a comparable change from compatible to incompatible. -/
theorem classification_eq_newRegression_iff {id incomparable : Str} {bt ct : Option Target} :
  (classify id bt ct incomparable).classification = .newRegression ↔
    ∃ b c, bt = some b ∧ ct = some c ∧ Comparable incomparable b c ∧
      b.verdict = verdictCompatible ∧ c.verdict = verdictIncompatible
  := by
  have hne : verdictIncompatible ≠ verdictCompatible := by decide
  cases bt with
  | none =>
      cases ct with
      | none => simp [classify]
      | some c =>
          simp only [classify, compareAdded]
          split_ifs <;> simp
  | some b =>
      cases ct with
      | none => simp [classify]
      | some c =>
          by_cases h : Comparable incomparable b c
          · rw [classification_both.1 h]
            constructor
            · intro hv
              refine ⟨b, c, rfl, rfl, h, ?_⟩
              obtain hc | hc := h.candidate.verdict
              · simp only [hc, if_true] at hv
                split_ifs at hv
              · split_ifs at hv with hb
                exact ⟨hb, hc⟩
            · rintro ⟨b', c', hb', hc', -, hb, hc⟩
              cases hb'
              cases hc'
              simp [hb, hc, hne]
          · rw [classification_both.2 h]
            constructor
            · intro hv
              cases hv
            · rintro ⟨b', c', hb', hc', hcomp, -⟩
              cases hb'
              cases hc'
              exact absurd hcomp h

/-- A cell is neither inconclusive nor lost when the candidate settled the obligation and,
where the baseline has it, the two are comparable. -/
theorem classification_settled_iff {id incomparable : Str} {bt ct : Option Target} :
  ((classify id bt ct incomparable).classification ≠ .inconclusive ∧
      (classify id bt ct incomparable).classification ≠ .coverageRemoved) ↔
    ∃ c, ct = some c ∧ Conclusive c ∧ ∀ b, bt = some b → Comparable incomparable b c
  := by
  cases bt with
  | none =>
      cases ct with
      | none => simp [classify]
      | some c =>
          by_cases hc : Conclusive c
          · simp [classify, compareAdded, conclusive_sideOf_iff.mpr hc, hc]
          · have hf : conclusive (sideOf c) = false := by
              rw [← Bool.not_eq_true, conclusive_sideOf_iff]
              exact hc
            simp [classify, compareAdded, hf, hc]
  | some b =>
      cases ct with
      | none => simp [classify]
      | some c =>
          by_cases h : Comparable incomparable b c
          · rw [classification_both.1 h]
            constructor
            · intro
              refine ⟨c, rfl, h.candidate, ?_⟩
              rintro b' ⟨⟩
              exact h
            · intro
              split_ifs <;> simp
          · rw [classification_both.2 h]
            constructor
            · rintro ⟨hv, -⟩
              exact absurd rfl hv
            · rintro ⟨c', hc', -, hcomp⟩
              cases hc'
              exact absurd (hcomp b rfl) h

end

end RegressionDiff
