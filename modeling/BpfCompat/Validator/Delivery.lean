import BpfCompat.Runtime.Execute
import BpfCompat.Validator.RoundTrip
import BpfCompat.Vm.Firecracker

/-!
# The verdict on its way

The validator's verdict takes three ways: the runner reads the document a guest left, the host
execution reads document and exit code, and a microVM prints both on its console.  On all of them
the validator's own status arrives (`verdict_arrives`), and no string in the document, however chosen,
can end the block on the console (`console_carries_document`).
-/

namespace Validator

open Go Go.Json

/-! ### The lines of the document -/

/-- The lines of a text after the first one begin with an indentation or a closing bracket. -/
theorem lines_of_tidy {s : Str} (hchain : s.IsChain fun a b => a = 10 → b = 32 ∨ b = 93 ∨ b = 125)
    (hlast : ∀ b ∈ s.getLast?, b ≠ 10) :
  ∃ first rest, s.splitOn 10 = first :: rest
    ∧ (s.head? ≠ some 10 → first.head? = s.head?)
    ∧ ∀ line ∈ rest, ∃ b, line.head? = some b ∧ (b = 32 ∨ b = 93 ∨ b = 125)
  := by
  induction s with
  | nil => exact ⟨[], [], rfl, fun _ => rfl, by simp⟩
  | cons a s ih =>
      rw [List.isChain_cons] at hchain
      have hlast' : ∀ b ∈ s.getLast?, b ≠ 10 := by
        intro b hb
        apply hlast b
        rw [List.getLast?_cons, Option.mem_def.mp hb]
        rfl
      obtain ⟨first, rest, hsplit, hfirst, hrest⟩ := ih hchain.2 hlast'
      rw [List.splitOn_cons_eq_if_modifyHead, hsplit]
      by_cases ha : a = 10
      · cases hs : s with
        | nil =>
            -- the text would end with a line break
            rw [hs, ha] at hlast
            exact absurd rfl (hlast 10 rfl)
        | cons b s' =>
            rw [hs] at hchain hfirst
            have hb : b = 32 ∨ b = 93 ∨ b = 125 := hchain.1 b rfl ha
            have hne : some b ≠ some 10 := by
              rcases hb with rfl | rfl | rfl <;> decide
            refine ⟨[], first :: rest, by simp [ha], ?_, ?_⟩
            · intro hhead
              rw [ha] at hhead
              exact absurd rfl hhead
            · rw [List.forall_mem_cons]
              exact ⟨⟨b, hfirst hne, hb⟩, hrest⟩
      · refine ⟨a :: first, rest, by simp [ha], ?_, hrest⟩
        intro _
        rfl

/-- The lines of a text, written one after the other. -/
theorem unlines_splitOn (s : Str) :
  unlines (s.splitOn 10) = s ++ [10]
  := by
  induction s with
  | nil => rfl
  | cons b s ih =>
      obtain ⟨first, rest, hparts⟩ := List.exists_cons_of_ne_nil (List.splitOn_ne_nil 10 s)
      rw [hparts] at ih
      rw [List.splitOn_cons_eq_if_modifyHead, hparts]
      split_ifs with hb
      · rw [beq_iff_eq] at hb
        have hfirst : unlines ([] :: first :: rest) = 10 :: unlines (first :: rest) := rfl
        rw [hfirst, ih, hb, List.cons_append]
      · have hfirst : unlines ((b :: first) :: rest) = b :: unlines (first :: rest) := rfl
        rw [List.modifyHead_cons, hfirst, ih, List.cons_append]

theorem notMem_line_of_tidy {text line : Str} (htidy : Tidy text) (hline : line ∈ text.splitOn 10) :
  13 ∉ line
  := by
  intro hmem
  have hall : 13 ∈ unlines (text.splitOn 10) := by
    rw [unlines, List.mem_flatMap]
    exact ⟨line, hline, List.mem_append_left _ hmem⟩
  rw [unlines_splitOn, List.mem_append, List.mem_singleton] at hall
  exact hall.elim htidy.noCR (by decide)

/-- A line of the document is no marker line. -/
theorem ordinary_of_tidy {text line : Str} (htidy : Tidy text) (hhead : text.head? = some 123)
    (hline : line ∈ text.splitOn 10) :
  Vm.Ordinary line
  := by
  have hmarkers : ∀ marker ∈ Vm.firecrackerMarkers, marker.head? = some 66 := by decide
  obtain ⟨first, rest, hsplit, hfirst, hrest⟩ := lines_of_tidy htidy.chain htidy.last
  have hstart : ∃ b, line.head? = some b ∧ b ≠ 66 := by
    rw [hsplit, List.mem_cons] at hline
    rcases hline with rfl | hline
    · refine ⟨123, ?_, by decide⟩
      rw [hfirst (by rw [hhead]; decide), hhead]
    · obtain ⟨b, hb, hcases⟩ := hrest line hline
      refine ⟨b, hb, ?_⟩
      rcases hcases with rfl | rfl | rfl <;> decide
  refine ⟨notMem_of_mem_splitOn hline, ?_⟩
  rw [Vm.trimCRs_of_notMem (notMem_line_of_tidy htidy hline)]
  intro hmarker
  obtain ⟨b, hb, hne⟩ := hstart
  rw [hmarkers line hmarker, Option.some.injEq] at hb
  apply hne hb.symm

/-- A text between braces has no outer white space. -/
theorem trimSpace_braced (s : Str) :
  trimSpace (123 :: (s ++ [125])) = 123 :: (s ++ [125])
  := by
  have hopen : isSpace (asciiChar 123) = false := by decide
  have hclose : isSpace (asciiChar 125) = false := by decide
  apply runes_injective
  rw [runes_trimSpace, runes_ascii_cons (by decide), runes_concat_ascii (by decide)]
  simp [trimBoth, Rune.value, hopen, hclose]

theorem object_braced (l : Layout) (ms : List (String × Str)) :
  ∃ s, l.object ms = 123 :: (s ++ [125])
  := by
  have hopen : str "\x7b" = [123] := by decide
  have hclose : str "\x7d" = [125] := by decide
  use l.parts (ms.map l.member) ++ l.trail
  rw [Layout.object, hopen, hclose, List.append_assoc, List.append_assoc, List.append_assoc,
    List.singleton_append]

section

variable [UnicodeTables]

/-- The document between its braces, and how it is read. -/
theorem document_text (res : Result) :
  ∃ s, writeResultJson res = (123 :: (s ++ [125])) ++ [10]
    ∧ Writes 4 (123 :: (s ++ [125])) (.object (documentMembers res))
  := by
  obtain ⟨text, htext, hwrites⟩ := writes_document res
  obtain ⟨s, hs⟩ := object_braced (.lines 0) _
  have hcancel := List.append_cancel_right (htext.symm.trans rfl)
  rw [hcancel, hs] at hwrites
  rw [htext, hcancel, hs]
  exact ⟨s, rfl, hwrites⟩

/-! ### The three ways -/

/-- What the runner and the host execution make of the document is what the validator came to: a pass
if the object was loaded and neither attaching nor a functional test failed, and a failure otherwise,
never an infrastructure error. -/
theorem verdict_arrives (res : Result) (world : Runner.World)
    (matrixProfile : Matrices.MatrixProfile) (profile : Vm.Profile) (exec : Vm.ExecutionResult)
    (target : Schema.Target) (stderr : Str) (hran : exec.status ≠ str "infra_error")
    (hpath : exec.validatorResultPath ≠ [])
    (hfile : world.files exec.validatorResultPath = .ok (writeResultJson res))
    (hexit : exec.validatorExitCode = Int64.ofInt (finish true res).1) :
  (Runner.evaluateArtifactTarget world matrixProfile profile exec target).target.status
      = res.overallStatus
    ∧ (Runtime.executeOutcome world.classify world.explain exec.validatorExitCode stderr
        (.ok (writeResultJson res))).status
      = res.overallStatus
    ∧ (res.overallStatus = str "pass" ↔ res.loadOk = true
      ∧ cString res.attachStatus ≠ str "fail" ∧ cString res.functionalStatus ≠ str "fail")
    ∧ (res.overallStatus = str "pass" ∨ res.overallStatus = str "fail")
  := by
  obtain ⟨text, htext, hwrites⟩ := writes_document res
  have hparse : Runner.parseValidatorResult (writeResultJson res) = some (reported res) := by
    rw [htext]
    apply parse_document hwrites (.inr rfl)
  have hne : str "fail" ≠ str "pass" := by decide
  have hpass : res.overallStatus = str "pass" ↔ res.loadOk = true
      ∧ cString res.attachStatus ≠ str "fail" ∧ cString res.functionalStatus ≠ str "fail" := by
    rw [Result.overallStatus, Validator.overallStatus]
    split_ifs with hload hattach hfunctional
    · simp [hload, hne]
    · simp [hattach, hne]
    · simp [hfunctional, hne]
    · simp [hload, hattach, hfunctional]
  have hload : (reported res).load.status = if res.loadOk then str "pass" else str "fail" := rfl
  have hstatus : (reported res).status = res.overallStatus := rfl
  refine ⟨?_, ?_, hpass, overallStatus_cases res⟩
  · simp only [Runner.evaluateArtifactTarget, hran, hpath, if_false, Runner.readValidatorResult,
      hfile, hparse, Runner.status_evaluateResult, hstatus]
    obtain h | h := overallStatus_cases res
    · rw [hload, (hpass.mp h).1, h]
      rfl
    · rw [h, if_neg fun hboth => hne hboth.2, if_pos (.inr rfl)]
  · rw [Runtime.executeOutcome, Runtime.readRuntimeValidatorResult]
    simp only [Runtime.parseRuntimeValidatorResult_of_guest hparse]
    have htrimPass : trimSpace (str "pass") = str "pass" := trimSpace_of_graphic (by decide)
    have htrimFail : trimSpace (str "fail") = str "fail" := trimSpace_of_graphic (by decide)
    obtain h | h := overallStatus_cases res
    · have hcode : exec.validatorExitCode = 0 := by
        rw [hexit, (exitCode_eq_zero_iff res).mpr h]
        rfl
      rw [h, Runtime.executeStatus_eq_pass_iff]
      simp only [Runtime.summarize, Runtime.hostView, hstatus, hload, (hpass.mp h).1, h, if_true,
        htrimPass, hcode, and_self]
    · rw [h, Runtime.executeStatus_eq_fail_iff]
      simp only [Runtime.summarize, Runtime.hostView, hstatus, h, htrimFail, true_or, and_true]
      intro hboth
      apply hne hboth.1

/-- A validator that loaded an object with one program, whose name is not a text. -/
def loadedResult : Result where
  opts := {}
  loadOk := true
  programCount := 1
  programs := fun _ => { name := [34, 10, 0xFF], sectionName := str "xdp" }
  fits := by simp

end

section

attribute [local instance] asciiTables

theorem verdict_arrives_loaded :
  (Runner.evaluateArtifactTarget
      { Runtime.passingWorld with files := fun _ => .ok (writeResultJson loadedResult) } {} {}
      (Runtime.exited 0) {}).target.status
    = str "pass"
  := (verdict_arrives loadedResult
    { Runtime.passingWorld with files := fun _ => .ok (writeResultJson loadedResult) } {} {}
    (Runtime.exited 0) {} [] (by decide) (by decide) rfl rfl).1

end

section

variable [UnicodeTables]

/-- A console on which a validator left its result. -/
structure Leaves (c : Vm.Console) (res : Result) : Prop where
  result : c.result = (writeResultJson res).dropLast.splitOn 10
  exitCode : c.exitCode = (finish true res).1
  /-- What else is printed are lines, and none of them a marker. -/
  others : ∀ line ∈ c.before ++ c.afterExit ++ c.afterResult ++ c.stderr ++ c.after,
    Vm.Ordinary line

/-- Whatever strings the document holds, it comes back whole from the console, with the exit code,
and is read as what is to be reported. -/
theorem console_carries_document (res : Result) (c : Vm.Console) (h : Leaves c res) (crs : Nat)
    (stderrText : Str) :
  ∃ o, Vm.parseFirecrackerMarkedOutput (c.text crs) stderrText = .ok o
    ∧ o.resultJSON ++ [10] = writeResultJson res
    ∧ Runner.parseValidatorResult o.resultJSON = some (reported res)
    ∧ (o.exitCode = 0 ↔ (reported res).status = str "pass")
  := by
  obtain ⟨s, hs, hwrites⟩ := document_text res
  have hlines : c.result = (123 :: (s ++ [125])).splitOn 10 := by
    rw [h.result, hs, List.dropLast_concat]
  have hordinary : ∀ line ∈ c.others, Vm.Ordinary line := by
    intro line hline
    by_cases hresult : line ∈ c.result
    · rw [hlines] at hresult
      apply ordinary_of_tidy hwrites.tidy rfl hresult
    · apply h.others
      simp only [Vm.Console.others, List.mem_append] at hline ⊢
      tauto
  have htext : c.resultText = 123 :: (s ++ [125]) := by
    have htrim : c.result.map Vm.trimCRs = c.result := by
      rw [List.map_congr_left, List.map_id]
      intro line hline
      rw [hlines] at hline
      apply Vm.trimCRs_of_notMem (notMem_line_of_tidy hwrites.tidy hline)
    rw [Vm.Console.resultText, htrim, hlines, unlines_splitOn, trimSpace_concat_lf, trimSpace_braced]
  have hcode : c.exitCode = 0 ∨ c.exitCode = 2 := by
    rw [h.exitCode]
    simp only [finish, if_true]
    split_ifs <;> simp
  have hparse := Vm.parse_console hordinary (by omega) (by omega) crs stderrText
  rw [htext, if_neg (List.cons_ne_nil _ _)] at hparse
  cases ho : Vm.parseFirecrackerMarkedOutput (c.text crs) stderrText with
  | error e =>
      rw [ho] at hparse
      cases hparse
  | ok o =>
      rw [ho] at hparse
      obtain ⟨hjson, hexit⟩ := Prod.mk.inj (Except.ok.inj hparse)
      refine ⟨o, rfl, ?_, ?_, ?_⟩
      · rw [hjson, hs]
      · rw [hjson, ← List.append_nil (123 :: (s ++ [125]))]
        apply parse_document hwrites (.inl rfl)
      · rw [hexit, h.exitCode]
        apply exitCode_eq_zero_iff

end

section

attribute [local instance] asciiTables

/-- A console with kernel messages around the result. -/
def loadedConsole : Vm.Console where
  before := [str "[    0.000000] Linux version 6.8.0"]
  exitCode := 0
  afterExit := []
  result := (writeResultJson loadedResult).dropLast.splitOn 10
  afterResult := []
  stderr := []
  after := [str "[    1.500000] reboot: Power down"]

theorem console_carries_loaded :
  ∃ o, Vm.parseFirecrackerMarkedOutput (loadedConsole.text 1) [] = .ok o
    ∧ Runner.parseValidatorResult o.resultJSON = some (reported loadedResult) ∧ o.exitCode = 0
  := by
  have hlines : ∀ line ∈ [str "[    0.000000] Linux version 6.8.0",
      str "[    1.500000] reboot: Power down"],
      10 ∉ line ∧ Vm.trimCRs line ∉ Vm.firecrackerMarkers := by
    decide
  obtain ⟨o, ho, -, hparse, hexit⟩ :=
    console_carries_document loadedResult loadedConsole ⟨rfl, rfl, hlines⟩ 1 []
  exact ⟨o, ho, hparse, hexit.mpr rfl⟩

end

end Validator
