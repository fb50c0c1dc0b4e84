import BpfCompat.RegressionDiff.Gate

/-!
# Deleting evidence

Removing from the candidate fields that the baseline records should never turn a
comparison green.  Most fields are guarded: an absent verdict or kernel match is not
conclusive, an absent kernel leaves a kernel match that rests on nothing, an absent
profile field, attach mode or command contract differs from the recorded one, and an
absent `required` is refused.

The distribution is not.  An unrecorded `distro_match` is neutral, and the comparison never
compares the distribution the two environment blocks record, so a candidate that ran on
another distribution than its profile names becomes conclusive once `distro_match` is
removed together with either identity it was derived from.  `removalNeverHelps_iff` says
that this is the only way.
-/

namespace RegressionDiff

open Go Schema Gate

/-- The fields of a target, and of its report's command contract, that carry evidence. -/
inductive Field where
  | verdict
  | environment
  | kernelFamilyMatch
  | requestedKernelFamily
  | observedKernel
  | requestedDistro
  | requestedDistroVersion
  | observedOSID
  | observedOSVersionID
  | distroMatch
  | profileArch
  | profileDistro
  | profileVersion
  | profileKernelFamily
  | attachMode
  | required
  | invocationSHA256
  | expectedExitCode
deriving DecidableEq

/-! ### Removing fields from a report -/

/-- A value after its field was removed or kept: an absent field decodes to the zero value. -/
def removed {α : Type} (S : List Field) (f : Field) (zero value : α) : α :=
  if f ∈ S then zero else value

/-- An environment block without some of its fields. -/
def removeFromEnvironment (S : List Field) (env : EnvironmentCheck) : EnvironmentCheck :=
  { env with
    requestedKernelFamily := removed S .requestedKernelFamily [] env.requestedKernelFamily
    observedKernel := removed S .observedKernel [] env.observedKernel
    kernelFamilyMatch := removed S .kernelFamilyMatch none env.kernelFamilyMatch
    requestedDistro := removed S .requestedDistro [] env.requestedDistro
    requestedDistroVersion := removed S .requestedDistroVersion [] env.requestedDistroVersion
    observedOSID := removed S .observedOSID [] env.observedOSID
    observedOSVersionID := removed S .observedOSVersionID [] env.observedOSVersionID
    distroMatch := removed S .distroMatch none env.distroMatch }

/-- A profile block without some of its fields. -/
def removeFromProfile (S : List Field) (profile : TargetEnv) : TargetEnv :=
  { profile with
    arch := removed S .profileArch [] profile.arch
    distro := removed S .profileDistro [] profile.distro
    version := removed S .profileVersion [] profile.version
    kernelFamily := removed S .profileKernelFamily [] profile.kernelFamily }

/-- A target without some of its fields. -/
def removeFromTarget (S : List Field) (t : Target) : Target :=
  { t with
    verdict := removed S .verdict [] t.verdict
    required := removed S .required false t.required
    environment := removed S .environment none (t.environment.map (removeFromEnvironment S))
    profile := t.profile.map (removeFromProfile S)
    validation := t.validation.map fun v =>
      { v with attachMode := removed S .attachMode [] v.attachMode } }

/-- A command contract without some of its fields. -/
def removeFromCommand (S : List Field) (command : CommandInfo) : CommandInfo :=
  { command with
    invocationSHA256 := removed S .invocationSHA256 [] command.invocationSHA256
    expectedExitCode := removed S .expectedExitCode 0 command.expectedExitCode }

/-- A report without some fields of its command contract and of the target under a key. -/
def removeAt (e : Evidence) (id : Str) (S : List Field) : Evidence :=
  { e with
    report :=
      { e.report with
        command := e.report.command.map (removeFromCommand S)
        targets := e.report.targets.map fun t =>
          if targetID t = id then removeFromTarget S t else t }
    requiredPresent := List.zipWith
      (fun t present => if targetID t = id then removed S .required false present else present)
      e.report.targets e.requiredPresent
    commandExitCodePresent := removed S .expectedExitCode false e.commandExitCodePresent }

/-- The target records the field, as the comparison reads it. -/
def TargetRecords (t : Target) : Field → Prop
  | .verdict => trimSpace t.verdict ≠ []
  | .environment => t.environment.isSome
  | .kernelFamilyMatch => (t.environment.getD {}).kernelFamilyMatch.isSome
  | .requestedKernelFamily => trimSpace (t.environment.getD {}).requestedKernelFamily ≠ []
  | .observedKernel => trimSpace (t.environment.getD {}).observedKernel ≠ []
  | .requestedDistro => trimSpace (t.environment.getD {}).requestedDistro ≠ []
  | .requestedDistroVersion => trimSpace (t.environment.getD {}).requestedDistroVersion ≠ []
  | .observedOSID => trimSpace (t.environment.getD {}).observedOSID ≠ []
  | .observedOSVersionID => trimSpace (t.environment.getD {}).observedOSVersionID ≠ []
  | .distroMatch => (t.environment.getD {}).distroMatch.isSome
  | .profileArch => trimSpace (t.profile.getD {}).arch ≠ []
  | .profileDistro => trimSpace (t.profile.getD {}).distro ≠ []
  | .profileVersion => trimSpace (t.profile.getD {}).version ≠ []
  | .profileKernelFamily => trimSpace (t.profile.getD {}).kernelFamily ≠ []
  | .attachMode => trimSpace (t.validation.getD {}).attachMode ≠ []
  -- every target of an accepted report carries it
  | .required => True
  -- these two belong to the report
  | .invocationSHA256 => False
  | .expectedExitCode => False

/-- The report records the field, for the target under a key or for its command. -/
def Records (e : Evidence) (id : Str) : Field → Prop
  | .invocationSHA256 => ∃ command, e.report.command = some command ∧
      trimSpace command.invocationSHA256 ≠ []
  | .expectedExitCode => e.report.command.isSome ∧ e.commandExitCodePresent = true
  | f => ∃ t, targetAt e id = some t ∧ TargetRecords t f

/-! ### What is left of the report -/

@[simp] theorem removed_of_mem {α : Type} {S : List Field} {f : Field} (h : f ∈ S)
    (zero value : α) :
  removed S f zero value = zero
  := if_pos h

@[simp] theorem removed_of_notMem {α : Type} {S : List Field} {f : Field} (h : f ∉ S)
    (zero value : α) :
  removed S f zero value = value
  := if_neg h

@[simp] theorem removed_self {α : Type} (S : List Field) (f : Field) (value : α) :
  removed S f value value = value
  := ite_self value

@[simp] theorem targetID_removeFromTarget (S : List Field) (t : Target) :
  targetID (removeFromTarget S t) = targetID t
  := rfl

theorem targetID_ite {S : List Field} {id : Str} {t : Target} :
  targetID (if targetID t = id then removeFromTarget S t else t) = targetID t
  := by
  split_ifs <;> rfl

/-- Only the target under the key changes. -/
theorem targetAt_removeAt (e : Evidence) (id : Str) (S : List Field) (id' : Str) :
  targetAt (removeAt e id S) id'
    = if id' = id then (targetAt e id').map (removeFromTarget S) else targetAt e id'
  := by
  rw [targetAt, targetAt, find, find, removeAt]
  simp only [List.find?_map]
  have hp : ((fun t => decide (targetID t = id')) ∘ fun t =>
      if targetID t = id then removeFromTarget S t else t)
      = fun t => decide (targetID t = id') := by
    funext t
    simp only [Function.comp_apply, targetID_ite]
  rw [hp]
  cases hf : List.find? (fun t => decide (targetID t = id')) e.report.targets with
  | none => simp
  | some t =>
      have hid : targetID t = id' := by simpa using List.find?_some hf
      simp only [Option.map_some, hid]
      split_ifs <;> rfl

theorem map_targetID_removeAt (e : Evidence) (id : Str) (S : List Field) :
  (removeAt e id S).report.targets.map targetID = e.report.targets.map targetID
  := by
  rw [removeAt, List.map_map]
  apply List.map_congr_left
  intro t _
  rw [Function.comp_apply, targetID_ite]

theorem getElem?_requiredPresent_removeAt {e : Evidence} {id : Str} {S : List Field}
    (he : StatesRequired e.report.targets e.requiredPresent) {i : Nat}
    (hi : i < e.report.targets.length) :
  (removeAt e id S).requiredPresent[i]? = some true ↔
    ¬ (targetID e.report.targets[i] = id ∧ .required ∈ S)
  := by
  rw [removeAt, List.getElem?_zipWith, he i hi, List.getElem?_eq_getElem hi]
  by_cases hid : targetID e.report.targets[i] = id
  · by_cases hS : Field.required ∈ S
    · simp [hid, hS]
    · simp [hid, hS]
  · simp [hid]

/-- A target whose `required` was removed is refused; otherwise nothing changes. -/
theorem statesRequired_removeAt_iff {e : Evidence} {id : Str} {S : List Field}
    (he : StatesRequired e.report.targets e.requiredPresent) :
  StatesRequired (removeAt e id S).report.targets (removeAt e id S).requiredPresent ↔
    (.required ∈ S → targetAt e id = none)
  := by
  have hlen : (removeAt e id S).report.targets.length = e.report.targets.length := by
    simp [removeAt]
  rw [StatesRequired, hlen]
  constructor
  · intro h hS
    rw [targetAt, find_eq_none_iff]
    intro hmem
    obtain ⟨t, ht, hid⟩ := List.mem_map.mp hmem
    obtain ⟨i, hi, rfl⟩ := List.getElem_of_mem ht
    exact (getElem?_requiredPresent_removeAt he hi).mp (h i hi) ⟨hid, hS⟩
  · intro h i hi
    rw [getElem?_requiredPresent_removeAt he hi]
    rintro ⟨hid, hS⟩
    have hnone := h hS
    rw [targetAt, find_eq_none_iff] at hnone
    exact hnone (List.mem_map.mpr ⟨_, List.getElem_mem hi, hid⟩)

section

variable [UnicodeTables] {b c : Evidence} {id : Str} {S : List Field} {bt ct : Target}

/-! ### The guarded fields -/

omit [UnicodeTables] in
/-- Where the command contracts agree after the removal, none of its recorded fields was
removed. -/
theorem command_kept (hrec : ∀ f ∈ S, Records b id f)
    (h : commandContract b = commandContract (removeAt c id S)) :
  Field.invocationSHA256 ∉ S ∧ Field.expectedExitCode ∉ S
  := by
  constructor
  · intro hS
    obtain ⟨command, hb, hinv⟩ := hrec _ hS
    cases hc : c.report.command with
    | none => simp [commandContract, removeAt, hb, hc] at h
    | some command' =>
        simp only [commandContract, removeAt, hb, hc, Option.map_some, Option.some.injEq,
          Prod.mk.injEq, removeFromCommand, removed_of_mem hS, trimSpace_nil] at h
        exact hinv h.1
  · intro hS
    obtain ⟨hb, hpresent⟩ := hrec _ hS
    obtain ⟨command, hb⟩ := Option.isSome_iff_exists.mp hb
    cases hc : c.report.command with
    | none => simp [commandContract, removeAt, hb, hc] at h
    | some command' =>
        simp [commandContract, removeAt, hb, hc, hpresent, hS] at h

omit [UnicodeTables] in
/-- Without its command fields removed, a report keeps its command contract. -/
theorem commandContract_removeAt (hinv : Field.invocationSHA256 ∉ S)
    (hexit : Field.expectedExitCode ∉ S) :
  commandContract (removeAt c id S) = commandContract c
  := by
  rw [commandContract, commandContract, removeAt]
  cases c.report.command <;> simp [removeFromCommand, hinv, hexit]

/-- A target that is conclusive after the removal kept its verdict and its kernel, and was
conclusive before unless a distribution mismatch was removed. -/
theorem conclusive_kept (h : Conclusive (removeFromTarget S ct))
    (hcons : TargetConsistent (removeFromTarget S ct)) :
  (Field.verdict ∉ S ∧ Field.environment ∉ S ∧ Field.kernelFamilyMatch ∉ S ∧
    Field.requestedKernelFamily ∉ S ∧ Field.observedKernel ∉ S) ∧
  (Conclusive ct ∨ Field.distroMatch ∈ S ∧
    (ct.verdict = verdictCompatible ∨ ct.verdict = verdictIncompatible) ∧
    ∃ env, ct.environment = some env ∧ env.kernelFamilyMatch = some true ∧
      env.distroMatch = some false)
  := by
  have hblank : ([] : Str) ≠ verdictCompatible ∧ ([] : Str) ≠ verdictIncompatible := by decide
  have hverdict : Field.verdict ∉ S := by
    intro hS
    have hv := h.verdict
    simp only [removeFromTarget, removed_of_mem hS] at hv
    obtain hv | hv := hv
    · exact hblank.1 hv
    · exact hblank.2 hv
  obtain ⟨env', henv', hmatch, hdistro⟩ := h.environment
  have hkernel := (hcons.environment env' henv').kernel true hmatch
  have henvironment : Field.environment ∉ S := by
    intro hS
    simp only [removeFromTarget, removed_of_mem hS] at henv'
    cases henv'
  simp only [removeFromTarget, removed_of_notMem henvironment, Option.map_eq_some_iff] at henv'
  obtain ⟨env, henv, rfl⟩ := henv'
  have hkfm : Field.kernelFamilyMatch ∉ S := by
    intro hS
    simp [removeFromEnvironment, hS] at hmatch
  -- a kernel match needs the family and the kernel it was derived from
  have hfamily : Field.requestedKernelFamily ∉ S := by
    intro hS
    simp [removeFromEnvironment, hS, kernelFamilyMatch, kernelSeries_blank trimSpace_nil] at hkernel
  have hobserved : Field.observedKernel ∉ S := by
    intro hS
    simp only [removeFromEnvironment, removed_of_mem hS, kernelFamilyMatch,
      kernelSeries_blank trimSpace_nil] at hkernel
    cases hs : kernelSeries (removed S .requestedKernelFamily [] env.requestedKernelFamily) <;>
      simp [hs] at hkernel
  have hv := h.verdict
  simp only [removeFromTarget, removed_of_notMem hverdict] at hv
  simp only [removeFromEnvironment, removed_of_notMem hkfm] at hmatch
  refine ⟨⟨hverdict, henvironment, hkfm, hfamily, hobserved⟩, ?_⟩
  by_cases hd : env.distroMatch = some false
  · right
    have hS : Field.distroMatch ∈ S := by
      by_contra hS
      apply hdistro
      simp only [removeFromEnvironment, removed_of_notMem hS]
      exact hd
    exact ⟨hS, hv, env, henv, hmatch, hd⟩
  · left
    exact ⟨hv, env, henv, hmatch, hd⟩

omit [UnicodeTables] in
/-- A text that is recorded cannot equal the one that was removed. -/
theorem notMem_of_trimSpace_eq {f : Field} {x y : Str} (hx : f ∈ S → trimSpace x ≠ [])
    (h : trimSpace x = trimSpace (removed S f [] y)) :
  f ∉ S
  := by
  intro hS
  rw [removed_of_mem hS, trimSpace_nil] at h
  exact hx hS h

omit [UnicodeTables] in
theorem profile_removeFromTarget (S : List Field) (t : Target) :
  (removeFromTarget S t).profile.getD {} = removeFromProfile S (t.profile.getD {})
  := by
  cases h : t.profile <;> simp [removeFromTarget, removeFromProfile, h]

omit [UnicodeTables] in
theorem attachMode_removeFromTarget (S : List Field) (t : Target) :
  ((removeFromTarget S t).validation.getD {}).attachMode
    = removed S .attachMode [] (t.validation.getD {}).attachMode
  := by
  cases h : t.validation <;> simp [removeFromTarget, h]

omit [UnicodeTables] in
/-- Where the obligation is the same after the removal, no recorded field of the profile and
no recorded attach mode was removed. -/
theorem obligation_kept (hrec : ∀ f ∈ S, Records b id f) (hbt : targetAt b id = some bt)
    (h : SameObligation bt (removeFromTarget S ct)) :
  Field.profileArch ∉ S ∧ Field.profileDistro ∉ S ∧ Field.profileVersion ∉ S ∧
    Field.profileKernelFamily ∉ S ∧ Field.attachMode ∉ S
  := by
  have hrecords : ∀ f ∈ S, Records b id f → f ≠ .invocationSHA256 → f ≠ .expectedExitCode →
      TargetRecords bt f := by
    intro f _ hf hinv hexit
    have hf' : ∃ t, targetAt b id = some t ∧ TargetRecords t f := by
      cases f <;> first | exact hf | contradiction
    obtain ⟨t, ht, hrec⟩ := hf'
    rw [hbt] at ht
    cases ht
    exact hrec
  have hprofile := h.profile
  simp only [profileIdentity, profile_removeFromTarget, removeFromProfile, Prod.mk.injEq]
    at hprofile
  have hattach := h.attachMode
  simp only [RegressionDiff.attachMode, attachMode_removeFromTarget] at hattach
  obtain ⟨harch, hdistro, hversion, hfamily⟩ := hprofile
  refine ⟨?_, ?_, ?_, ?_, ?_⟩
  · apply notMem_of_trimSpace_eq _ harch
    intro hS
    exact hrecords _ hS (hrec _ hS) (by simp) (by simp)
  · apply notMem_of_trimSpace_eq _ hdistro
    intro hS
    exact hrecords _ hS (hrec _ hS) (by simp) (by simp)
  · apply notMem_of_trimSpace_eq _ hversion
    intro hS
    exact hrecords _ hS (hrec _ hS) (by simp) (by simp)
  · apply notMem_of_trimSpace_eq _ hfamily
    intro hS
    exact hrecords _ hS (hrec _ hS) (by simp) (by simp)
  · apply notMem_of_trimSpace_eq _ hattach
    intro hS
    exact hrecords _ hS (hrec _ hS) (by simp) (by simp)

/-! ### The unguarded distribution -/

/-- The fields that identify the distribution. -/
def distroFields : List Field :=
  [.distroMatch, .requestedDistro, .requestedDistroVersion, .observedOSID, .observedOSVersionID]

omit [UnicodeTables] in
/-- Removing the distribution changes nothing else about a target. -/
theorem removeFromTarget_frame (hS : ∀ f ∈ S, f ∈ distroFields) (t : Target) :
  (removeFromTarget S t).verdict = t.verdict ∧ (removeFromTarget S t).status = t.status ∧
    (removeFromTarget S t).required = t.required ∧
    profileIdentity (removeFromTarget S t) = profileIdentity t ∧
    attachMode (removeFromTarget S t) = attachMode t ∧
    requestedFamily (removeFromTarget S t) = requestedFamily t ∧
    (removeFromTarget S t).environment = t.environment.map (removeFromEnvironment S)
  := by
  have hnot : ∀ f, f ∉ distroFields → f ∉ S := by
    intro f hf h
    exact hf (hS f h)
  have henv : (removeFromTarget S t).environment = t.environment.map (removeFromEnvironment S) := by
    simp [removeFromTarget, hnot .environment (by decide)]
  refine ⟨?_, rfl, ?_, ?_, ?_, ?_, henv⟩
  · simp [removeFromTarget, hnot .verdict (by decide)]
  · simp [removeFromTarget, hnot .required (by decide)]
  · simp [profileIdentity, profile_removeFromTarget, removeFromProfile,
      hnot .profileArch (by decide), hnot .profileDistro (by decide),
      hnot .profileVersion (by decide), hnot .profileKernelFamily (by decide)]
  · simp [attachMode, attachMode_removeFromTarget, hnot .attachMode (by decide)]
  · rw [requestedFamily, requestedFamily, henv]
    cases t.environment <;>
      simp [removeFromEnvironment, hnot .requestedKernelFamily (by decide)]

omit [UnicodeTables] in
theorem sameObligation_removeFromTarget_iff (hS : ∀ f ∈ S, f ∈ distroFields) :
  SameObligation bt (removeFromTarget S ct) ↔ SameObligation bt ct
  := by
  obtain ⟨-, -, hreq, hprofile, hattach, hfam, -⟩ := removeFromTarget_frame hS ct
  constructor
  · intro h
    have h₁ := h.required
    have h₂ := h.requestedFamily
    have h₃ := h.profile
    have h₄ := h.attachMode
    rw [hreq] at h₁
    rw [hfam] at h₂
    rw [hprofile] at h₃
    rw [hattach] at h₄
    exact ⟨h₁, h₂, h₃, h₄⟩
  · intro h
    constructor
    · rw [hreq]
      exact h.required
    · rw [hfam]
      exact h.requestedFamily
    · rw [hprofile]
      exact h.profile
    · rw [hattach]
      exact h.attachMode

/-- The target under a key, otherwise conclusive and comparable, ran on another distribution
than requested, and what is removed is that answer with an identity it was derived from. -/
structure DistroRemoved (b c : Evidence) (id : Str) (S : List Field) : Prop where
  fields : ∀ f ∈ S, f ∈ distroFields
  answer : Field.distroMatch ∈ S
  identity : Field.requestedDistro ∈ S ∨ Field.observedOSID ∈ S
  command : commandContract b = commandContract c
  target : ∃ bt ct env, targetAt b id = some bt ∧ targetAt c id = some ct ∧
    ct.environment = some env ∧ ct.required = true ∧
    (ct.verdict = verdictCompatible ∨ ct.verdict = verdictIncompatible) ∧
    env.kernelFamilyMatch = some true ∧ env.distroMatch = some false ∧
    Conclusive bt ∧ SameObligation bt ct ∧
    ¬ (bt.verdict = verdictCompatible ∧ ct.verdict = verdictIncompatible)

/-- The inputs on which removing recorded fields buys a green comparison: a mismatch of the
distribution is removed from the only required profile that is not green, and the summary
does not contradict what is left. -/
structure DistroForgotten (b c : Evidence) (id : Str) (S : List Field) : Prop
    extends DistroRemoved b c id S where
  baseline : Accepted b
  candidate : Accepted c
  runs : DistinctRuns b c
  recorded : ∀ f ∈ S, Records b id f
  others : ∀ id', id' ≠ id → MarksRequired b id' ∨ MarksRequired c id' → GreenAt b c id'
  summary : SummaryConsistent c.report.summary (removeAt c id S).report.targets

omit [UnicodeTables] in
theorem incomparable_eq_nil_iff_commandContract :
  incomparable b c = [] ↔ commandContract b = commandContract c
  := by
  rw [incomparable_eq_nil_iff]
  constructor
  · rintro ⟨-, h⟩
    exact h
  · intro h
    use loaderMode_eq_of_commandContract_eq h, h

omit [UnicodeTables] in
/-- A run-level contract that is comparable after the removal was comparable before. -/
theorem incomparable_of_removeAt (hrec : ∀ f ∈ S, Records b id f)
    (h : incomparable b (removeAt c id S) = []) :
  incomparable b c = []
  := by
  rw [incomparable_eq_nil_iff_commandContract] at h ⊢
  obtain ⟨hinv, hexit⟩ := command_kept hrec h
  rw [h, commandContract_removeAt hinv hexit]

omit [UnicodeTables] in
/-- The other profiles are as green as before. -/
theorem greenAt_of_ne {i : Str} (hrec : ∀ f ∈ S, Records b id f) (hne : i ≠ id)
    (h : GreenAt b (removeAt c id S) i) :
  GreenAt b c i
  := by
  obtain ⟨ct, hct, hconc, h⟩ := h
  rw [targetAt_removeAt, if_neg hne] at hct
  use ct, hct, hconc
  intro bt hbt
  obtain ⟨hcomp, hreg⟩ := h bt hbt
  refine ⟨⟨?_, hcomp.obligation, hcomp.baseline, hcomp.candidate⟩, hreg⟩
  exact incomparable_of_removeAt hrec hcomp.contract

/-- The profile under the key was as green before, unless a mismatch of the distribution was
removed. -/
theorem greenAt_or_distroRemoved (hrec : ∀ f ∈ S, Records b id f) (hc : Accepted c)
    (hc' : Accepted (removeAt c id S)) (hreq : MarksRequired b id ∨ MarksRequired c id)
    (hb : Accepted b) (h : GreenAt b (removeAt c id S) id) :
  GreenAt b c id ∨ DistroRemoved b c id S
  := by
  obtain ⟨ct', hct', hconc, hgreen⟩ := h
  have hcons := hc'.targetConsistent hct'
  rw [targetAt_removeAt, if_pos rfl, Option.map_eq_some_iff] at hct'
  obtain ⟨ct, hct, rfl⟩ := hct'
  have hrequired : Field.required ∉ S := by
    intro hS
    have hnone := (statesRequired_removeAt_iff hc.required).mp hc'.required hS
    rw [hct] at hnone
    cases hnone
  obtain ⟨⟨hv, henv, hkfm, hfam, hobs⟩, hor⟩ := conclusive_kept hconc hcons
  have hverdict : (removeFromTarget S ct).verdict = ct.verdict := by
    simp [removeFromTarget, hv]
  -- what the comparison with the baseline shows about the removed fields
  have hkept : ∀ bt, targetAt b id = some bt →
      (∀ f ∈ S, f ∈ distroFields) ∧ commandContract b = commandContract c := by
    intro bt hbt
    obtain ⟨hcomp, -⟩ := hgreen bt hbt
    obtain ⟨hpa, hpd, hpv, hpk, ham⟩ := obligation_kept hrec hbt hcomp.obligation
    have hcommand := incomparable_eq_nil_iff_commandContract.mp hcomp.contract
    obtain ⟨hinv, hexit⟩ := command_kept hrec hcommand
    constructor
    · intro f hf
      cases f <;> first | decide | contradiction
    · rw [hcommand, commandContract_removeAt hinv hexit]
  obtain hconc' | ⟨hdm, hvv, env, henvc, hmatch, hdistro⟩ := hor
  · left
    use ct, hct, hconc'
    intro bt hbt
    obtain ⟨hcomp, hreg⟩ := hgreen bt hbt
    rw [hverdict] at hreg
    obtain ⟨hfields, hcommand⟩ := hkept bt hbt
    refine ⟨⟨?_, ?_, hcomp.baseline, hconc'⟩, hreg⟩
    · exact incomparable_eq_nil_iff_commandContract.mpr hcommand
    · exact (sameObligation_removeFromTarget_iff hfields).mp hcomp.obligation
  · right
    obtain ⟨bt, hbt, -⟩ := hrec _ hdm
    obtain ⟨hcomp, hreg⟩ := hgreen bt hbt
    rw [hverdict] at hreg
    obtain ⟨hfields, hcommand⟩ := hkept bt hbt
    have hob := (sameObligation_removeFromTarget_iff hfields).mp hcomp.obligation
    have hctreq : ct.required = true := by
      obtain ⟨t, ht, hid, hr⟩ | ⟨t, ht, hid, hr⟩ := hreq
      · have htb := (targetAt_eq_some_iff hb).mpr ⟨ht, hid⟩
        rw [hbt] at htb
        cases htb
        rw [← hob.required]
        exact hr
      · have htc := (targetAt_eq_some_iff hc).mpr ⟨ht, hid⟩
        rw [hct] at htc
        cases htc
        exact hr
    refine ⟨hfields, hdm, ?_, hcommand, bt, ct, env, hbt, hct, henvc, hctreq, hvv, hmatch, hdistro,
      hcomp.baseline, hob, hreg⟩
    -- with both identities left, the answer could still be derived
    by_contra hident
    rw [not_or] at hident
    have hderived := ((hc.targetConsistent hct).environment env henvc).distro
    have hafter := (hcons.environment (removeFromEnvironment S env)
      (by simp [removeFromTarget, henv, henvc])).distro
    simp only [removeFromEnvironment, removed_of_mem hdm, removed_of_notMem hident.1,
      removed_of_notMem hident.2] at hafter
    rw [distroMatch_eq_none_iff.mp hafter.symm, hdistro] at hderived
    cases hderived

/-- A target whose distribution answer is removed with an identity it rests on still agrees
with itself. -/
theorem targetConsistent_removeFromTarget (hS : ∀ f ∈ S, f ∈ distroFields)
    (hdm : Field.distroMatch ∈ S) (hid : Field.requestedDistro ∈ S ∨ Field.observedOSID ∈ S)
    {t : Target} (ht : TargetConsistent t) :
  TargetConsistent (removeFromTarget S t)
  := by
  have hnot : ∀ f, f ∉ distroFields → f ∉ S := by
    intro f hf h
    exact hf (hS f h)
  obtain ⟨hverdict, hstatus, -, -, -, -, henv⟩ := removeFromTarget_frame hS t
  constructor
  · rw [hverdict, hstatus]
    exact ht.agree
  · intro env' henv'
    rw [henv, Option.map_eq_some_iff] at henv'
    obtain ⟨env, he, rfl⟩ := henv'
    have hcons := ht.environment env he
    constructor
    · simp only [removeFromEnvironment, removed_of_notMem (hnot .kernelFamilyMatch (by decide)),
        removed_of_notMem (hnot .requestedKernelFamily (by decide)),
        removed_of_notMem (hnot .observedKernel (by decide))]
      exact hcons.kernel
    · simp only [removeFromEnvironment, removed_of_mem hdm]
      obtain hid | hid := hid
      · rw [removed_of_mem hid, distroMatch_blank_distro trimSpace_nil]
      · rw [removed_of_mem hid, distroMatch_blank_osID trimSpace_nil]

theorem DistroForgotten.accepted (h : DistroForgotten b c id S) :
  Accepted (removeAt c id S)
  := by
  have hids := map_targetID_removeAt c id S
  have hc := h.candidate
  have hrequired : Field.required ∉ S := by
    intro hS
    exact absurd (h.fields _ hS) (by decide)
  refine ⟨⟨⟨?_, ?_, ?_⟩, ?_, h.summary⟩, hc.schema, ?_⟩
  · intro t' ht'
    obtain ⟨t, ht, rfl⟩ := List.mem_map.mp ht'
    rw [targetID_ite]
    exact hc.identified t ht
  · rw [hids]
    exact hc.distinct
  · intro t' ht'
    obtain ⟨t, ht, rfl⟩ := List.mem_map.mp ht'
    split_ifs
    · exact targetConsistent_removeFromTarget h.fields h.answer h.identity (hc.consistent t ht)
    · exact hc.consistent t ht
  · intro hnil
    apply hc.nonempty
    simpa [removeAt] using hnil
  · apply (statesRequired_removeAt_iff hc.required).mpr
    intro hS
    exact absurd hS hrequired

theorem marksRequired_iff {e : Evidence} (he : Accepted e) {i : Str} :
  MarksRequired e i ↔ ∃ t, targetAt e i = some t ∧ t.required = true
  := by
  rw [← requires_iff_marksRequired he, requires_releaseOf_iff]

theorem DistroForgotten.greenAt (h : DistroForgotten b c id S) {i : Str}
    (hreq : MarksRequired b i ∨ MarksRequired (removeAt c id S) i) :
  GreenAt b (removeAt c id S) i
  := by
  have hnot : ∀ f, f ∉ distroFields → f ∉ S := by
    intro f hf hS
    exact hf (h.fields f hS)
  have hcommand : commandContract (removeAt c id S) = commandContract c :=
    commandContract_removeAt (hnot _ (by decide)) (hnot _ (by decide))
  have hcontract : incomparable b (removeAt c id S) = [] := by
    rw [incomparable_eq_nil_iff_commandContract, hcommand]
    exact h.command
  by_cases hi : i = id
  · subst hi
    obtain ⟨bt, ct, env, hbt, hct, henv, -, hv, hmatch, -, hbc, hob, hreg⟩ := h.target
    obtain ⟨hverdict, -, -, -, -, -, henv'⟩ := removeFromTarget_frame h.fields ct
    have hconc : Conclusive (removeFromTarget S ct) := by
      constructor
      · rw [hverdict]
        exact hv
      · use removeFromEnvironment S env
        rw [henv', henv]
        simp [removeFromEnvironment, hnot .kernelFamilyMatch (by decide), hmatch, h.answer]
    use removeFromTarget S ct
    rw [targetAt_removeAt, if_pos rfl, hct]
    refine ⟨rfl, hconc, ?_⟩
    intro bt' hbt'
    rw [hbt] at hbt'
    cases hbt'
    rw [hverdict]
    exact ⟨⟨hcontract, (sameObligation_removeFromTarget_iff h.fields).mpr hob, hbc, hconc⟩, hreg⟩
  · have hreq' : MarksRequired b i ∨ MarksRequired c i := by
      rw [marksRequired_iff h.accepted, targetAt_removeAt, if_neg hi] at hreq
      rw [marksRequired_iff h.candidate]
      exact hreq
    obtain ⟨ct, hct, hconc, hgreen⟩ := h.others i hi hreq'
    use ct
    rw [targetAt_removeAt, if_neg hi]
    refine ⟨hct, hconc, ?_⟩
    intro bt hbt
    obtain ⟨hcomp, hreg⟩ := hgreen bt hbt
    exact ⟨⟨hcontract, hcomp.obligation, hcomp.baseline, hcomp.candidate⟩, hreg⟩

theorem DistroForgotten.not_greenAt (h : DistroForgotten b c id S) :
  ¬ GreenAt b c id
  := by
  rintro ⟨ct', hct', hconc, -⟩
  obtain ⟨-, ct, env, -, hct, henv, -, -, -, hdistro, -⟩ := h.target
  rw [hct] at hct'
  cases hct'
  obtain ⟨env', henv', -, hne⟩ := hconc.environment
  rw [henv] at henv'
  cases henv'
  exact hne hdistro

/-! ### When removing evidence never helps -/

/-- Removing from the candidate fields that the baseline records does not turn a comparison
that was not green into a green one. -/
def RemovalNeverHelps (ob oc : RangeOrder Str) (b c : Evidence) (generatedAt id : Str)
    (S : List Field) : Prop :=
  ∀ d, build ob oc b c generatedAt = .ok d → exitCode d ≠ 0 → (∀ f ∈ S, Records b id f) →
    exitOf (build ob oc b (removeAt c id S) generatedAt) ≠ 0

/-- Removing evidence helps exactly when it makes the comparison forget that the only
profile in its way ran on another distribution. -/
theorem removalNeverHelps_iff (ob oc : RangeOrder Str) (b c : Evidence) (generatedAt id : Str)
    (S : List Field) :
  RemovalNeverHelps ob oc b c generatedAt id S ↔ ¬ DistroForgotten b c id S
  := by
  constructor
  · intro hsafe h
    have hd : build ob oc b c generatedAt = .ok (diffOf ob oc b c generatedAt) :=
      build_eq_ok_iff.mpr ⟨h.baseline, h.candidate, h.runs, rfl⟩
    have hd' : build ob oc b (removeAt c id S) generatedAt
        = .ok (diffOf ob oc b (removeAt c id S) generatedAt) :=
      build_eq_ok_iff.mpr ⟨h.baseline, h.accepted, h.runs, rfl⟩
    apply hsafe _ hd _ h.recorded
    · apply exitOf_eq_zero_iff.mpr
      refine ⟨_, hd', ?_⟩
      rw [exitCode_eq_zero_iff_greenAt hd']
      intro i hreq
      exact h.greenAt hreq
    · intro h0
      rw [exitCode_eq_zero_iff_greenAt hd] at h0
      obtain ⟨-, ct, -, -, hct, -, hreq, -⟩ := h.target
      apply h.not_greenAt
      apply h0
      right
      exact (marksRequired_iff h.candidate).mpr ⟨ct, hct, hreq⟩
  · intro hnot d hd hne hrec h0
    obtain ⟨d', hd', h0⟩ := exitOf_eq_zero_iff.mp h0
    obtain ⟨hb, hc, hruns, -⟩ := build_eq_ok_iff.mp hd
    obtain ⟨-, hc', -, -⟩ := build_eq_ok_iff.mp hd'
    rw [exitCode_eq_zero_iff_greenAt hd'] at h0
    rw [Ne, exitCode_eq_zero_iff_greenAt hd] at hne
    -- a required profile stays required, or its report is refused
    have hrequired : ∀ i, MarksRequired b i ∨ MarksRequired c i →
        MarksRequired b i ∨ MarksRequired (removeAt c id S) i := by
      rintro i (hreq | hreq)
      · exact .inl hreq
      · right
        obtain ⟨t, ht, hr⟩ := (marksRequired_iff hc).mp hreq
        rw [marksRequired_iff hc', targetAt_removeAt, ht]
        split_ifs with hi
        · subst hi
          have hS : Field.required ∉ S := by
            intro hS
            have hnone := (statesRequired_removeAt_iff hc.required).mp hc'.required hS
            rw [ht] at hnone
            cases hnone
          exact ⟨_, rfl, by simp [removeFromTarget, hS, hr]⟩
        · exact ⟨t, rfl, hr⟩
    have hothers : ∀ i, i ≠ id → MarksRequired b i ∨ MarksRequired c i → GreenAt b c i := by
      intro i hi hreq
      exact greenAt_of_ne hrec hi (h0 i (hrequired i hreq))
    apply hne
    intro i hreq
    by_cases hi : i = id
    · subst hi
      obtain hgreen | hremoved :=
        greenAt_or_distroRemoved hrec hc hc' hreq hb (h0 i (hrequired i hreq))
      · exact hgreen
      · exact absurd ⟨hremoved, hb, hc, hruns, hrec, hothers, hc'.summary⟩ hnot
    · exact hothers i hi hreq

end

/-- A run of three profiles: the given target, a known incompatibility and an optional
environment that could not be executed. -/
def sampleRun (run : Str) (t : Target) : Evidence :=
  evidenceFromReport
    { schemaVersion := str "v0.1"
      run := { id := run }
      targets :=
        [t, sampleTarget (str "ubuntu-22.04-6.8") verdictIncompatible,
          { sampleTarget (str "rhcos-4.16") verdictUnsupported with required := false }]
      summary :=
        { status := str "fail"
          verdict := verdictIncompatible
          complete := some false } } [] []

/-- A target that ran on another distribution than its profile names. -/
def sampleMismatch : Target :=
  { sampleTarget (str "ubuntu-22.04-5.15") verdictCompatible with
    environment := some
      { requestedKernelFamily := str "5.15"
        observedKernel := str "5.15.0-206.el8uek"
        kernelFamilyMatch := some true
        requestedDistro := str "ubuntu"
        requestedDistroVersion := str "22.04"
        observedOSID := str "ol"
        observedOSVersionID := str "8.9"
        distroMatch := some false } }

section

attribute [local instance] asciiTables

/-- Without `distro_match` and `requested_distro` a run on Oracle Linux passes for one on
Ubuntu. -/
theorem not_removalNeverHelps_distro :
  ¬ RemovalNeverHelps .stored .stored
    (sampleRun (str "run-1") (sampleTarget (str "ubuntu-22.04-5.15") verdictCompatible))
    (sampleRun (str "run-2") sampleMismatch) [] (str "ubuntu-22.04-5.15")
    [.distroMatch, .requestedDistro]
  := by
  intro h
  have hok : (build .stored .stored
      (sampleRun (str "run-1") (sampleTarget (str "ubuntu-22.04-5.15") verdictCompatible))
      (sampleRun (str "run-2") sampleMismatch) []).toBool = true := by decide +kernel
  have hexit : exitOf (build .stored .stored
      (sampleRun (str "run-1") (sampleTarget (str "ubuntu-22.04-5.15") verdictCompatible))
      (sampleRun (str "run-2") sampleMismatch) []) = 1 := by decide +kernel
  cases hd : build .stored .stored
      (sampleRun (str "run-1") (sampleTarget (str "ubuntu-22.04-5.15") verdictCompatible))
      (sampleRun (str "run-2") sampleMismatch) [] with
  | error e =>
      rw [hd] at hok
      cases hok
  | ok d =>
      rw [hd, exitOf] at hexit
      apply h d hd
      · rw [hexit]
        decide
      · intro f hf
        simp only [List.mem_cons, List.not_mem_nil, or_false] at hf
        have hbt : targetAt (sampleRun (str "run-1")
            (sampleTarget (str "ubuntu-22.04-5.15") verdictCompatible)) (str "ubuntu-22.04-5.15")
            = some (sampleTarget (str "ubuntu-22.04-5.15") verdictCompatible) := by decide
        obtain rfl | rfl := hf
        · refine ⟨_, hbt, ?_⟩
          rw [TargetRecords]
          rfl
        · refine ⟨_, hbt, ?_⟩
          rw [TargetRecords]
          decide
      · decide

end

end RegressionDiff
