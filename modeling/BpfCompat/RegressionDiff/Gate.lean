import BpfCompat.Gate.Release
import BpfCompat.RegressionDiff.Build

/-!
# The comparison as a release gate

An accepted report is a release: the obligations are the keys of its targets, the contract
is everything the comparison insists on (the command contract of the run, the requested
kernel family, the profile's identity and the attach mode), and the answer is the verdict
of a conclusive target.  The comparison exits 0 when the candidate passes the gate and 2
when some promise regressed (`exitCode_eq_zero_iff_passes`,
`exitCode_eq_two_iff_regresses`); what the exit codes promise, and that passes compose,
follows.
-/

namespace RegressionDiff

open Go Schema Gate

/-- What two runs must share for an obligation to be the same question. -/
structure Contract where
  command : Option (Str × Option Int64)
  requestedFamily : Str
  profile : Str × Str × Str × Str
  attachMode : Str

/-- The answer of a target, when it is conclusive. -/
def answerOf (t : Target) : Option Answer :=
  if conclusive (sideOf t) then
    some (if t.verdict = verdictCompatible then .works else .broken)
  else none

/-- What a report records about the obligation of a target. -/
def entryOf (e : Evidence) (t : Target) : Entry Contract where
  required := t.required
  contract :=
    { command := commandContract e
      requestedFamily := requestedFamily t
      profile := profileIdentity t
      attachMode := attachMode t }
  answer := answerOf t

/-- The release a report is about. -/
def releaseOf (e : Evidence) : Release Str Contract :=
  fun id => (targetAt e id).map (entryOf e)

theorem isSome_answerOf_iff {t : Target} :
  (answerOf t).isSome ↔ Conclusive t
  := by
  rw [answerOf, ← conclusive_sideOf_iff]
  split_ifs with h <;> simp [h]

theorem answerOf_eq_works_iff {t : Target} (h : Conclusive t) :
  answerOf t = some .works ↔ t.verdict = verdictCompatible
  := by
  rw [answerOf, if_pos (conclusive_sideOf_iff.mpr h)]
  split_ifs with hv <;> simp [hv]

theorem answerOf_eq_broken_iff {t : Target} (h : Conclusive t) :
  answerOf t = some .broken ↔ t.verdict = verdictIncompatible
  := by
  have hne : verdictCompatible ≠ verdictIncompatible := by decide
  rw [answerOf, if_pos (conclusive_sideOf_iff.mpr h)]
  obtain hv | hv := h.verdict
  · simp [hv, hne]
  · simp [hv, hne.symm]

theorem loaderMode_eq_of_commandContract_eq {b c : Evidence}
    (h : commandContract b = commandContract c) :
  loaderMode b.report = loaderMode c.report
  := by
  rw [commandContract, commandContract] at h
  rw [loaderMode, loaderMode]
  cases hb : b.report.command <;> cases hc : c.report.command <;> simp [hb, hc] at h ⊢

section

variable [UnicodeTables]

/-- The target's result is conclusive, and its kernel match is the one its own recordings
give. -/
structure ConclusiveResult (t : Target) : Prop where
  verdict : t.verdict = verdictCompatible ∨ t.verdict = verdictIncompatible
  environment : ∃ env, t.environment = some env ∧ env.kernelFamilyMatch = some true ∧
    kernelFamilyMatch env.requestedKernelFamily env.observedKernel = some true ∧
    env.distroMatch ≠ some false

theorem Conclusive.result {t : Target} (h : Conclusive t) (ht : TargetConsistent t) :
  ConclusiveResult t
  := by
  obtain ⟨env, henv, hmatch, hdistro⟩ := h.environment
  use h.verdict, env, henv, hmatch, (ht.environment env henv).kernel true hmatch, hdistro

/-- A conclusive target of a valid report says which kernel family it was asked for. -/
theorem Conclusive.requestedFamily_ne_nil {t : Target} (h : Conclusive t)
    (ht : TargetConsistent t) :
  requestedFamily t ≠ []
  := by
  obtain ⟨env, henv, -, hmatch, -⟩ := (h.result ht).environment
  intro hblank
  have henvb : trimSpace env.requestedKernelFamily = [] := by
    simpa [requestedFamily, henv] using hblank
  rw [kernelFamilyMatch, kernelSeries_blank henvb] at hmatch
  cases hmatch

/-- The cell reaches the table of verdicts exactly when the two entries answer the same
question. -/
theorem comparable_iff {b c : Evidence} {bt ct : Target} (hb : TargetConsistent bt)
    (hc : TargetConsistent ct) :
  Comparable (incomparable b c) bt ct ↔ (entryOf b bt).Comparable (entryOf c ct)
  := by
  constructor
  · intro h
    obtain ⟨hinc, hob, hbc, hcc⟩ := h
    rw [incomparable_eq_nil_iff] at hinc
    constructor
    · exact hob.required
    · have hfam := hob.requestedFamily (hbc.requestedFamily_ne_nil hb)
        (hcc.requestedFamily_ne_nil hc)
      simp only [entryOf]
      rw [hinc.2, hfam, hob.profile, hob.attachMode]
    · exact isSome_answerOf_iff.mpr hbc
    · exact isSome_answerOf_iff.mpr hcc
  · intro h
    obtain ⟨hreq, hcontract, hbc, hcc⟩ := h
    simp only [entryOf, Contract.mk.injEq] at hcontract
    obtain ⟨hcommand, hfam, hprofile, hattach⟩ := hcontract
    constructor
    · rw [incomparable_eq_nil_iff]
      use loaderMode_eq_of_commandContract_eq hcommand, hcommand
    · use hreq, fun _ _ => hfam, hprofile, hattach
    · exact isSome_answerOf_iff.mp hbc
    · exact isSome_answerOf_iff.mp hcc

variable {b c : Evidence} {id : Str}

omit [UnicodeTables] in
theorem releaseOf_eq_some_iff {x : Entry Contract} :
  releaseOf b id = some x ↔ ∃ t, targetAt b id = some t ∧ entryOf b t = x
  := by
  rw [releaseOf, Option.map_eq_some_iff]

omit [UnicodeTables] in
theorem requires_releaseOf_iff :
  (releaseOf b).Requires id ↔ ∃ t, targetAt b id = some t ∧ t.required = true
  := by
  constructor
  · rintro ⟨x, hx, hreq⟩
    obtain ⟨t, ht, rfl⟩ := releaseOf_eq_some_iff.mp hx
    use t, ht, hreq
  · rintro ⟨t, ht, hreq⟩
    exact ⟨entryOf b t, releaseOf_eq_some_iff.mpr ⟨t, ht, rfl⟩, hreq⟩

theorem Accepted.targetConsistent (hb : Accepted b) {t : Target} (ht : targetAt b id = some t) :
  TargetConsistent t
  := hb.consistent t (mem_of_targetAt ht).1

theorem required_cellAt_iff :
  (cellAt b c id).required = true ↔ (releaseOf b).Requires id ∨ (releaseOf c).Requires id
  := by
  rw [cellAt, classify_required, requires_releaseOf_iff, requires_releaseOf_iff]

/-- A cell is a regression when the two releases show one. -/
theorem regression_cellAt_iff (hb : Accepted b) (hc : Accepted c) :
  (cellAt b c id).classification = .newRegression ↔
    Release.RegressesAt (releaseOf b) (releaseOf c) id
  := by
  rw [cellAt, classification_eq_newRegression_iff]
  constructor
  · rintro ⟨bt, ct, hbt, hct, hcomp, hbv, hcv⟩
    use entryOf b bt, entryOf c ct
    use releaseOf_eq_some_iff.mpr ⟨bt, hbt, rfl⟩, releaseOf_eq_some_iff.mpr ⟨ct, hct, rfl⟩
    use (comparable_iff (hb.targetConsistent hbt) (hc.targetConsistent hct)).mp hcomp
    use (answerOf_eq_works_iff hcomp.baseline).mpr hbv
    exact (answerOf_eq_broken_iff hcomp.candidate).mpr hcv
  · rintro ⟨x, y, hx, hy, hcomp, hw, hbr⟩
    obtain ⟨bt, hbt, rfl⟩ := releaseOf_eq_some_iff.mp hx
    obtain ⟨ct, hct, rfl⟩ := releaseOf_eq_some_iff.mp hy
    rw [← comparable_iff (hb.targetConsistent hbt) (hc.targetConsistent hct)] at hcomp
    use bt, ct, hbt, hct, hcomp
    use (answerOf_eq_works_iff hcomp.baseline).mp hw
    exact (answerOf_eq_broken_iff hcomp.candidate).mp hbr

/-- A cell is neither inconclusive nor lost when the candidate settles the obligation. -/
theorem settled_cellAt_iff (hb : Accepted b) (hc : Accepted c) :
  ((cellAt b c id).classification ≠ .inconclusive ∧
      (cellAt b c id).classification ≠ .coverageRemoved) ↔
    Release.Settles (releaseOf b) (releaseOf c) id
  := by
  rw [cellAt, classification_settled_iff]
  constructor
  · rintro ⟨ct, hct, hconc, hcomp⟩
    use entryOf c ct, releaseOf_eq_some_iff.mpr ⟨ct, hct, rfl⟩, isSome_answerOf_iff.mpr hconc
    intro x hx
    obtain ⟨bt, hbt, rfl⟩ := releaseOf_eq_some_iff.mp hx
    exact (comparable_iff (hb.targetConsistent hbt) (hc.targetConsistent hct)).mp (hcomp bt hbt)
  · rintro ⟨y, hy, hans, hcomp⟩
    obtain ⟨ct, hct, rfl⟩ := releaseOf_eq_some_iff.mp hy
    use ct, hct, isSome_answerOf_iff.mp hans
    intro bt hbt
    apply (comparable_iff (hb.targetConsistent hbt) (hc.targetConsistent hct)).mpr
    exact hcomp _ (releaseOf_eq_some_iff.mpr ⟨bt, hbt, rfl⟩)

omit [UnicodeTables] in
theorem mem_keysOf_of_requires
    (h : (releaseOf b).Requires id ∨ (releaseOf c).Requires id) :
  id ∈ keysOf b c
  := by
  rw [requires_releaseOf_iff, requires_releaseOf_iff] at h
  obtain ⟨t, ht, -⟩ | ⟨t, ht, -⟩ := h
  · exact mem_keysOf_of_targetAt (.inl ht)
  · exact mem_keysOf_of_targetAt (.inr ht)

variable {ob oc : RangeOrder Str} {generatedAt : Str} {d : Diff}

/-- Exit code 0 means that the candidate passes the gate. -/
theorem exitCode_eq_zero_iff_passes (h : build ob oc b c generatedAt = .ok d) :
  exitCode d = 0 ↔ Release.Passes (releaseOf b) (releaseOf c)
  := by
  obtain ⟨hb, hc, -, rfl⟩ := build_eq_ok_iff.mp h
  rw [exitCode_diffOf_eq_zero_iff hb hc]
  constructor
  · intro h id hreq
    obtain ⟨hreg, hsettled⟩ :=
      h id (mem_keysOf_of_requires hreq) (required_cellAt_iff.mpr hreq)
    rw [← settled_cellAt_iff hb hc, ← regression_cellAt_iff hb hc]
    use hsettled, hreg
  · intro h id _ hreq
    obtain ⟨hsettled, hreg⟩ := h id (required_cellAt_iff.mp hreq)
    rw [← settled_cellAt_iff hb hc] at hsettled
    rw [← regression_cellAt_iff hb hc] at hreg
    exact ⟨hreg, hsettled⟩

/-- Exit code 2 means that some promise regressed. -/
theorem exitCode_eq_two_iff_regresses (h : build ob oc b c generatedAt = .ok d) :
  exitCode d = 2 ↔ Release.Regresses (releaseOf b) (releaseOf c)
  := by
  obtain ⟨hb, hc, -, rfl⟩ := build_eq_ok_iff.mp h
  rw [exitCode_diffOf_eq_two_iff hb hc]
  constructor
  · rintro ⟨id, -, hreq, hreg⟩
    exact ⟨id, required_cellAt_iff.mp hreq, (regression_cellAt_iff hb hc).mp hreg⟩
  · rintro ⟨id, hreq, hreg⟩
    use id, mem_keysOf_of_requires hreq, required_cellAt_iff.mpr hreq
    exact (regression_cellAt_iff hb hc).mpr hreg

/-! ### What exit code 0 promises -/

omit [UnicodeTables] in
theorem exitOf_eq_zero_iff {r : Except CompareError Diff} :
  exitOf r = 0 ↔ ∃ d, r = .ok d ∧ exitCode d = 0
  := by
  cases r <;> simp [exitOf]

omit [UnicodeTables] in
theorem exitOf_eq_two_iff {r : Except CompareError Diff} :
  exitOf r = 2 ↔ ∃ d, r = .ok d ∧ exitCode d = 2
  := by
  cases r <;> simp [exitOf]

/-- The report marks the profile required. -/
def MarksRequired (e : Evidence) (id : Str) : Prop :=
  ∃ t ∈ e.report.targets, targetID t = id ∧ t.required = true

theorem requires_iff_marksRequired (hb : Accepted b) :
  (releaseOf b).Requires id ↔ MarksRequired b id
  := by
  rw [requires_releaseOf_iff, MarksRequired]
  simp only [targetAt_eq_some_iff hb, and_assoc]

/-- The candidate settles the profile, comparably to the baseline where that has it, and
does not break it. -/
def GreenAt (b c : Evidence) (id : Str) : Prop :=
  ∃ ct, targetAt c id = some ct ∧ Conclusive ct ∧
    ∀ bt, targetAt b id = some bt → Comparable (incomparable b c) bt ct ∧
      ¬ (bt.verdict = verdictCompatible ∧ ct.verdict = verdictIncompatible)

theorem greenAt_iff (hb : Accepted b) (hc : Accepted c) :
  GreenAt b c id ↔ Release.Settles (releaseOf b) (releaseOf c) id ∧
    ¬ Release.RegressesAt (releaseOf b) (releaseOf c) id
  := by
  rw [← settled_cellAt_iff hb hc, ← regression_cellAt_iff hb hc, cellAt,
    classification_settled_iff, classification_eq_newRegression_iff]
  constructor
  · rintro ⟨ct, hct, hconc, h⟩
    constructor
    · use ct, hct, hconc
      intro bt hbt
      exact (h bt hbt).1
    · rintro ⟨bt, ct', hbt, hct', -, hbv, hcv⟩
      rw [hct] at hct'
      cases hct'
      exact (h bt hbt).2 ⟨hbv, hcv⟩
  · rintro ⟨⟨ct, hct, hconc, hcomp⟩, hreg⟩
    use ct, hct, hconc
    intro bt hbt
    use hcomp bt hbt
    rintro ⟨hbv, hcv⟩
    exact hreg ⟨bt, ct, hbt, hct, hcomp bt hbt, hbv, hcv⟩

/-- Exit code 0 means that every profile either report marks required is green. -/
theorem exitCode_eq_zero_iff_greenAt (h : build ob oc b c generatedAt = .ok d) :
  exitCode d = 0 ↔ ∀ id, MarksRequired b id ∨ MarksRequired c id → GreenAt b c id
  := by
  obtain ⟨hb, hc, -, -⟩ := build_eq_ok_iff.mp h
  rw [exitCode_eq_zero_iff_passes h, Release.Passes]
  simp only [requires_iff_marksRequired hb, requires_iff_marksRequired hc, greenAt_iff hb hc]

/-- Where the comparison exits 0, every profile that either report marks required has a
conclusive result in the candidate and, where the baseline has it too, in the baseline,
for the same obligation under the same contract and without a regression. -/
theorem required_profiles_settled_of_exit_zero (ob oc : RangeOrder Str) (b c : Evidence)
    (generatedAt : Str) (h : exitOf (build ob oc b c generatedAt) = 0) (id : Str)
    (hreq : MarksRequired b id ∨ MarksRequired c id) :
  ∃ ct ∈ c.report.targets, targetID ct = id ∧ ConclusiveResult ct ∧
    ∀ bt ∈ b.report.targets, targetID bt = id →
      ConclusiveResult bt ∧ bt.required = ct.required ∧
        profileIdentity bt = profileIdentity ct ∧ attachMode bt = attachMode ct ∧
        loaderMode b.report = loaderMode c.report ∧ commandContract b = commandContract c ∧
        ¬ (bt.verdict = verdictCompatible ∧ ct.verdict = verdictIncompatible)
  := by
  obtain ⟨d, hd, h0⟩ := exitOf_eq_zero_iff.mp h
  obtain ⟨hb, hc, -, -⟩ := build_eq_ok_iff.mp hd
  obtain ⟨ct, hct, hconc, hgreen⟩ := (exitCode_eq_zero_iff_greenAt hd).mp h0 id hreq
  obtain ⟨hctmem, hctid⟩ := mem_of_targetAt hct
  use ct, hctmem, hctid, hconc.result (hc.targetConsistent hct)
  intro bt hbtmem hbtid
  have hbt := (targetAt_eq_some_iff hb).mpr ⟨hbtmem, hbtid⟩
  obtain ⟨hcomp, hreg⟩ := hgreen bt hbt
  obtain ⟨hloader, hcommand⟩ := incomparable_eq_nil_iff.mp hcomp.contract
  use hcomp.baseline.result (hb.targetConsistent hbt)
  exact ⟨hcomp.obligation.required, hcomp.obligation.profile, hcomp.obligation.attachMode,
    hloader, hcommand, hreg⟩

end

/-- A required target on a known kernel, with the given verdict. -/
def sampleTarget (id verdict : Str) : Target where
  profileID := id
  required := true
  verdict := verdict
  environment := some
    { requestedKernelFamily := str "5.15"
      observedKernel := str "5.15.0-186-generic"
      kernelFamilyMatch := some true
      requestedDistro := str "ubuntu"
      requestedDistroVersion := str "22.04"
      observedOSID := str "ubuntu"
      observedOSVersionID := str "22.04"
      distroMatch := some true }
  profile := some
    { distro := str "ubuntu"
      version := str "22.04"
      kernelFamily := str "5.15"
      arch := str "x86_64" }
  validation := some { attachMode := str "auto" }

/-- The evidence of a run with one such target. -/
def sampleEvidence (run verdict : Str) : Evidence :=
  evidenceFromReport
    { schemaVersion := str "v0.1"
      run := { id := run }
      targets := [sampleTarget (str "ubuntu-22.04-5.15") verdict] } [] []

section

attribute [local instance] asciiTables

theorem required_profiles_settled_sample :
  exitOf (build .stored .stored (sampleEvidence (str "run-1") verdictIncompatible)
      (sampleEvidence (str "run-2") verdictCompatible) []) = 0 ∧
    ∃ ct ∈ (sampleEvidence (str "run-2") verdictCompatible).report.targets,
      targetID ct = str "ubuntu-22.04-5.15" ∧ ConclusiveResult ct
  := by
  have h : exitOf (build .stored .stored (sampleEvidence (str "run-1") verdictIncompatible)
      (sampleEvidence (str "run-2") verdictCompatible) []) = 0 := by decide +kernel
  obtain ⟨ct, hct, hid, hconc, -⟩ := required_profiles_settled_of_exit_zero .stored .stored
    (sampleEvidence (str "run-1") verdictIncompatible)
    (sampleEvidence (str "run-2") verdictCompatible) [] h (str "ubuntu-22.04-5.15")
    (.inl ⟨_, List.mem_singleton_self _, by decide, rfl⟩)
  exact ⟨h, ct, hct, hid, hconc⟩

end

section

variable [UnicodeTables] {b c : Evidence} {id : Str} {ob oc : RangeOrder Str} {generatedAt : Str}
  {d : Diff}

/-! ### What exit code 2 says, and on what a cell depends -/

omit [UnicodeTables] in
theorem exitCodeChanged_congr {b' c' : Evidence} {x y x' y' : CommandInfo}
    (hb : (if b.commandExitCodePresent then some x.expectedExitCode else none)
      = if b'.commandExitCodePresent then some x'.expectedExitCode else none)
    (hc : (if c.commandExitCodePresent then some y.expectedExitCode else none)
      = if c'.commandExitCodePresent then some y'.expectedExitCode else none) :
  exitCodeChanged b c x y = exitCodeChanged b' c' x' y'
  := by
  rw [exitCodeChanged, exitCodeChanged]
  cases hbp : b.commandExitCodePresent <;> cases hbp' : b'.commandExitCodePresent <;>
    cases hcp : c.commandExitCodePresent <;> cases hcp' : c'.commandExitCodePresent <;>
    simp_all

omit [UnicodeTables] in
theorem commandContractChanged_congr {b' c' : Evidence}
    (hb : commandContract b = commandContract b') (hc : commandContract c = commandContract c') :
  commandContractChanged b c = commandContractChanged b' c'
  := by
  rw [commandContract, commandContract] at hb hc
  rw [commandContractChanged, commandContractChanged]
  cases hx : b.report.command with
  | none =>
      cases hx' : b'.report.command with
      | none => rfl
      | some x' => simp [hx, hx'] at hb
  | some x =>
      cases hx' : b'.report.command with
      | none => simp [hx, hx'] at hb
      | some x' =>
          cases hy : c.report.command with
          | none =>
              cases hy' : c'.report.command with
              | none => rfl
              | some y' => simp [hy, hy'] at hc
          | some y =>
              cases hy' : c'.report.command with
              | none => simp [hy, hy'] at hc
              | some y' =>
                  simp only [hx, hx', Option.map_some, Option.some.injEq, Prod.mk.injEq] at hb
                  simp only [hy, hy', Option.map_some, Option.some.injEq, Prod.mk.injEq] at hc
                  simp only [invocationChanged, recordedChange, hb.1, hc.1,
                    exitCodeChanged_congr hb.2 hc.2]

omit [UnicodeTables] in
/-- The run-level reason depends on the two command contracts alone. -/
theorem incomparable_congr {b' c' : Evidence} (hb : commandContract b = commandContract b')
    (hc : commandContract c = commandContract c') :
  incomparable b c = incomparable b' c'
  := by
  rw [incomparable, incomparable, loaderMode_eq_of_commandContract_eq hb,
    loaderMode_eq_of_commandContract_eq hc, commandContractChanged_congr hb hc]

/-- The two reports carry the same targets under a key. -/
def SameTargetsAt (e e' : Evidence) (id : Str) : Prop :=
  ∀ t, targetID t = id → (t ∈ e.report.targets ↔ t ∈ e'.report.targets)

theorem targetAt_congr {b' : Evidence} (hb : Accepted b) (hb' : Accepted b')
    (h : SameTargetsAt b b' id) :
  targetAt b id = targetAt b' id
  := by
  apply Option.ext
  intro t
  rw [targetAt_eq_some_iff hb, targetAt_eq_some_iff hb']
  constructor
  · rintro ⟨ht, hid⟩
    exact ⟨(h t hid).mp ht, hid⟩
  · rintro ⟨ht, hid⟩
    exact ⟨(h t hid).mpr ht, hid⟩

theorem mem_cells_iff (h : build ob oc b c generatedAt = .ok d) {cell : Cell} :
  cell ∈ d.cells ↔ ∃ id ∈ keysOf b c, cellAt b c id = cell
  := by
  obtain ⟨hb, hc, -, rfl⟩ := build_eq_ok_iff.mp h
  rw [diffOf, cellsOf_eq hb hc, List.mem_map]

theorem key_cellAt :
  (cellAt b c id).key = id
  := by
  rw [cellAt, classify_key]

omit [UnicodeTables] in
/-- A key that some report carries is a key of the comparison. -/
theorem mem_keysOf_iff :
  id ∈ keysOf b c ↔ targetAt b id ≠ none ∨ targetAt c id ≠ none
  := by
  rw [mem_keysOf, targetAt, targetAt, Ne, Ne, find_eq_none_iff, find_eq_none_iff, not_not, not_not]

/-- The cell of a key depends on the targets under that key and on the command contracts. -/
theorem mem_cells_congr {b' c' : Evidence} {ob' oc' : RangeOrder Str} {generatedAt' : Str}
    {d' : Diff} (h : build ob oc b c generatedAt = .ok d)
    (h' : build ob' oc' b' c' generatedAt' = .ok d')
    (hb : commandContract b = commandContract b') (hc : commandContract c = commandContract c')
    (hbt : SameTargetsAt b b' id) (hct : SameTargetsAt c c' id) {cell : Cell}
    (hkey : cell.key = id) :
  cell ∈ d.cells ↔ cell ∈ d'.cells
  := by
  obtain ⟨hba, hca, -, -⟩ := build_eq_ok_iff.mp h
  obtain ⟨hba', hca', -, -⟩ := build_eq_ok_iff.mp h'
  have hb' := targetAt_congr hba hba' hbt
  have hc' := targetAt_congr hca hca' hct
  have hkeys : id ∈ keysOf b c ↔ id ∈ keysOf b' c' := by
    rw [mem_keysOf_iff, mem_keysOf_iff, hb', hc']
  have hcell : cellAt b c id = cellAt b' c' id := by
    rw [cellAt, cellAt, hb', hc', incomparable_congr hb hc]
  rw [mem_cells_iff h, mem_cells_iff h']
  constructor
  · rintro ⟨id', hid', rfl⟩
    rw [key_cellAt] at hkey
    subst hkey
    use id', hkeys.mp hid', hcell.symm
  · rintro ⟨id', hid', rfl⟩
    rw [key_cellAt] at hkey
    subst hkey
    use id', hkeys.mpr hid', hcell

theorem exitCode_eq_two_iff_cell (h : build ob oc b c generatedAt = .ok d) :
  exitCode d = 2 ↔ ∃ cell ∈ d.cells, cell.required = true ∧ cell.classification = .newRegression
  := by
  obtain ⟨hb, hc, -, hd⟩ := build_eq_ok_iff.mp h
  simp only [mem_cells_iff h]
  rw [hd, exitCode_diffOf_eq_two_iff hb hc]
  simp only [exists_exists_and_eq_and]

/-- The comparison exits 2 exactly when a required profile, conclusive on both sides for an
unchanged obligation, goes from compatible to incompatible.  The cell of a profile depends
on the two targets that carry it and on the command contracts, so a regression stays one
whatever happens to the other targets. -/
theorem regressions_complete_and_local (ob oc : RangeOrder Str) (b c : Evidence)
    (generatedAt : Str) (d : Diff) (h : build ob oc b c generatedAt = .ok d) :
  (exitCode d = 2 ↔ ∃ bt ∈ b.report.targets, ∃ ct ∈ c.report.targets,
    targetID bt = targetID ct ∧ (bt.required = true ∨ ct.required = true) ∧
      Conclusive bt ∧ Conclusive ct ∧ SameObligation bt ct ∧
      loaderMode b.report = loaderMode c.report ∧ commandContract b = commandContract c ∧
      bt.verdict = verdictCompatible ∧ ct.verdict = verdictIncompatible) ∧
  ∀ (ob' oc' : RangeOrder Str) (b' c' : Evidence) (generatedAt' : Str) (d' : Diff),
    build ob' oc' b' c' generatedAt' = .ok d' →
    commandContract b = commandContract b' → commandContract c = commandContract c' →
    ∀ id, SameTargetsAt b b' id → SameTargetsAt c c' id →
      (∀ cell, cell.key = id → (cell ∈ d.cells ↔ cell ∈ d'.cells)) ∧
      ((∃ cell ∈ d.cells, cell.key = id ∧ cell.required = true ∧
        cell.classification = .newRegression) → exitCode d' = 2)
  := by
  obtain ⟨hb, hc, -, -⟩ := build_eq_ok_iff.mp h
  constructor
  · rw [exitCode_eq_two_iff_regresses h]
    constructor
    · rintro ⟨id, hreq, hreg⟩
      rw [requires_releaseOf_iff, requires_releaseOf_iff] at hreq
      rw [← regression_cellAt_iff hb hc, cellAt, classification_eq_newRegression_iff] at hreg
      obtain ⟨bt, ct, hbt, hct, hcomp, hbv, hcv⟩ := hreg
      obtain ⟨hbm, hbid⟩ := mem_of_targetAt hbt
      obtain ⟨hcm, hcid⟩ := mem_of_targetAt hct
      obtain ⟨hloader, hcommand⟩ := incomparable_eq_nil_iff.mp hcomp.contract
      have hreq' : bt.required = true ∨ ct.required = true := by
        simpa [hbt, hct] using hreq
      exact ⟨bt, hbm, ct, hcm, hbid.trans hcid.symm, hreq', hcomp.baseline, hcomp.candidate,
        hcomp.obligation, hloader, hcommand, hbv, hcv⟩
    · rintro ⟨bt, hbm, ct, hcm, hid, hreq, hbc, hcc, hob, hloader, hcommand, hbv, hcv⟩
      have hbt := (targetAt_eq_some_iff hb).mpr ⟨hbm, hid⟩
      have hct := (targetAt_eq_some_iff hc).mpr ⟨hcm, rfl⟩
      use targetID ct
      rw [requires_releaseOf_iff, requires_releaseOf_iff, ← regression_cellAt_iff hb hc, cellAt,
        classification_eq_newRegression_iff]
      constructor
      · simpa [hbt, hct] using hreq
      · refine ⟨bt, ct, hbt, hct, ⟨?_, hob, hbc, hcc⟩, hbv, hcv⟩
        rw [incomparable_eq_nil_iff]
        use hloader, hcommand
  · intro ob' oc' b' c' generatedAt' d' h' hbcmd hccmd id hbt hct
    have hcells : ∀ cell, cell.key = id → (cell ∈ d.cells ↔ cell ∈ d'.cells) := by
      intro cell hkey
      exact mem_cells_congr h h' hbcmd hccmd hbt hct hkey
    use hcells
    rintro ⟨cell, hcell, hkey, hreg⟩
    rw [exitCode_eq_two_iff_cell h']
    use cell, (hcells cell hkey).mp hcell, hreg.1, hreg.2

end

section

attribute [local instance] asciiTables

theorem regressions_complete_and_local_sample :
  ∃ d, build .stored .stored (sampleEvidence (str "run-1") verdictCompatible)
      (sampleEvidence (str "run-2") verdictIncompatible) [] = .ok d ∧ exitCode d = 2 ∧
    ∃ bt ∈ (sampleEvidence (str "run-1") verdictCompatible).report.targets,
      bt.verdict = verdictCompatible
  := by
  have h : exitOf (build .stored .stored (sampleEvidence (str "run-1") verdictCompatible)
      (sampleEvidence (str "run-2") verdictIncompatible) []) = 2 := by decide +kernel
  obtain ⟨d, hd, h2⟩ := exitOf_eq_two_iff.mp h
  obtain ⟨hiff, -⟩ := regressions_complete_and_local .stored .stored
    (sampleEvidence (str "run-1") verdictCompatible)
    (sampleEvidence (str "run-2") verdictIncompatible) [] d hd
  obtain ⟨bt, hbt, -, -, -, -, -, -, -, -, -, hbv, -⟩ := hiff.mp h2
  exact ⟨d, hd, h2, bt, hbt, hbv⟩

end

section

variable [UnicodeTables] {b c : Evidence} {id : Str} {ob oc : RangeOrder Str} {generatedAt : Str}
  {d : Diff}

/-! ### Gates compose -/

/-- One release is green after another. -/
def GreenAfter (b c : Evidence) : Prop :=
  ∃ (ob oc : RangeOrder Str) (generatedAt : Str), exitOf (build ob oc b c generatedAt) = 0

theorem GreenAfter.passes (h : GreenAfter b c) :
  Accepted b ∧ Accepted c ∧ Release.Passes (releaseOf b) (releaseOf c)
  := by
  obtain ⟨ob, oc, generatedAt, h⟩ := h
  obtain ⟨d, hd, h0⟩ := exitOf_eq_zero_iff.mp h
  obtain ⟨hb, hc, -, -⟩ := build_eq_ok_iff.mp hd
  use hb, hc, (exitCode_eq_zero_iff_passes hd).mp h0

theorem GreenAfter.chain (h : Relation.TransGen GreenAfter b c) :
  Accepted b ∧ Accepted c ∧ Relation.TransGen Release.Passes (releaseOf b) (releaseOf c)
  := by
  induction h with
  | single h =>
      obtain ⟨hb, hc, hpass⟩ := h.passes
      use hb, hc, .single hpass
  | tail _ h ih =>
      obtain ⟨-, hc, hpass⟩ := h.passes
      use ih.1, hc, ih.2.2.tail hpass

/-- Along a chain of green releases, comparing any earlier release with any later one never
exits 2, and no profile the earlier one requires is inconclusive or removed. -/
theorem green_chain_keeps_promises (ob oc : RangeOrder Str) (a c : Evidence) (generatedAt : Str)
    (h : Relation.TransGen GreenAfter a c) (hruns : DistinctRuns a c) :
  ∃ d, build ob oc a c generatedAt = .ok d ∧ exitCode d ≠ 2 ∧
    ∀ cell ∈ d.cells, MarksRequired a cell.key →
      cell.classification ≠ .inconclusive ∧ cell.classification ≠ .coverageRemoved ∧
        cell.classification ≠ .newRegression
  := by
  obtain ⟨ha, hc, hchain⟩ := GreenAfter.chain h
  have hkeeps := Release.keeps_of_chain hchain
  have hd : build ob oc a c generatedAt = .ok (diffOf ob oc a c generatedAt) :=
    build_eq_ok_iff.mpr ⟨ha, hc, hruns, rfl⟩
  have hnot := hkeeps.not_regresses
  use diffOf ob oc a c generatedAt, hd
  constructor
  · rw [Ne, exitCode_eq_two_iff_regresses hd]
    exact hnot
  · intro cell hcell hreq
    obtain ⟨id, -, rfl⟩ := (mem_cells_iff hd).mp hcell
    rw [key_cellAt, ← requires_iff_marksRequired ha] at hreq
    obtain ⟨hinc, hrem⟩ := (settled_cellAt_iff ha hc).mpr (hkeeps.settles hreq)
    use hinc, hrem
    rw [Ne, regression_cellAt_iff ha hc]
    intro hreg
    exact hnot ⟨id, .inl hreq, hreg⟩

end

section

attribute [local instance] asciiTables

theorem green_chain_keeps_promises_sample :
  ∃ d, build .stored .stored (sampleEvidence (str "run-1") verdictIncompatible)
      (sampleEvidence (str "run-3") verdictCompatible) [] = .ok d ∧ exitCode d ≠ 2
  := by
  have h₁ : GreenAfter (sampleEvidence (str "run-1") verdictIncompatible)
      (sampleEvidence (str "run-2") verdictIncompatible) :=
    ⟨.stored, .stored, [], by decide +kernel⟩
  have h₂ : GreenAfter (sampleEvidence (str "run-2") verdictIncompatible)
      (sampleEvidence (str "run-3") verdictCompatible) :=
    ⟨.stored, .stored, [], by decide +kernel⟩
  have hruns : DistinctRuns (sampleEvidence (str "run-1") verdictIncompatible)
      (sampleEvidence (str "run-3") verdictCompatible) := by
    apply checkDistinctRuns_eq_ok_iff.mp
    rfl
  obtain ⟨d, hd, h2, -⟩ := green_chain_keeps_promises .stored .stored _ _ []
    (.tail (.single h₁) h₂) hruns
  exact ⟨d, hd, h2⟩

end

end RegressionDiff
