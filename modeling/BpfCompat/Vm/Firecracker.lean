import BpfCompat.Go.Lines

/-!
# Results over a console

A microVM has no channel but its console: the init script prints the exit code, the result
and the standard error of the validator between marker lines, and the host looks for these
among whatever else the guest prints.
-/

namespace Vm

open Go

def firecrackerResultBegin : Str := str "BPFCOMPAT_FIRECRACKER_RESULT_BEGIN"
def firecrackerResultEnd : Str := str "BPFCOMPAT_FIRECRACKER_RESULT_END"
def firecrackerExitBegin : Str := str "BPFCOMPAT_FIRECRACKER_EXIT_CODE_BEGIN"
def firecrackerExitEnd : Str := str "BPFCOMPAT_FIRECRACKER_EXIT_CODE_END"
def firecrackerStderrBegin : Str := str "BPFCOMPAT_FIRECRACKER_STDERR_BEGIN"
def firecrackerStderrEnd : Str := str "BPFCOMPAT_FIRECRACKER_STDERR_END"

/-- All the marker lines. -/
def firecrackerMarkers : List Str :=
  [firecrackerResultBegin, firecrackerResultEnd, firecrackerExitBegin, firecrackerExitEnd,
    firecrackerStderrBegin, firecrackerStderrEnd]

/-! ### The parser -/

/-- A line without the carriage returns it ends with. -/
def trimCRs (line : Str) : Str := line.rdropWhile (· = 13)

/-- The lines between a begin marker and the first end marker after it.  A further begin
marker starts the block anew. -/
def markerBlock (begin «end» : Str) : Option (List Str) → List Str → Option (List Str)
  | _, [] => none
  | block, line :: rest =>
    if line = begin then markerBlock begin «end» (some []) rest
    else
      match block with
      | none => markerBlock begin «end» none rest
      | some kept =>
        if line = «end» then some kept else markerBlock begin «end» (some (kept ++ [line])) rest

def extractFirecrackerMarkerBlock (text begin «end» : Str) : Option Str :=
  (markerBlock begin «end» none ((text.splitOn 10).map trimCRs)).map (join (str "\n"))

structure FirecrackerRunOutput where
  resultJSON : Str
  validatorStderr : Str
  exitCode : Int
deriving DecidableEq

/-- Why the output of a run could not be read. -/
inductive MarkerError where
  | resultNotFound
  | resultEmpty
  | exitCode (text : Str)
deriving DecidableEq

def parseFirecrackerMarkedOutput (stdoutText stderrText : Str) :
    Except MarkerError FirecrackerRunOutput := do
  let some resultText :=
      extractFirecrackerMarkerBlock stdoutText firecrackerResultBegin firecrackerResultEnd
    | throw .resultNotFound
  let resultText := trimSpace resultText
  if resultText = [] then
    throw .resultEmpty
  let exitCode ←
    match extractFirecrackerMarkerBlock stdoutText firecrackerExitBegin firecrackerExitEnd with
    | none => pure 0
    | some exitText =>
      match atoi (trimSpace exitText) with
      | none => throw (.exitCode (trimSpace exitText))
      | some parsed => pure parsed
  let validatorStderr :=
    (extractFirecrackerMarkerBlock stdoutText firecrackerStderrBegin firecrackerStderrEnd).getD []
  let validatorStderr :=
    if trimSpace validatorStderr = [] ∧ trimSpace stderrText ≠ [] then stderrText else validatorStderr
  return { resultJSON := resultText, validatorStderr, exitCode }

/-! ### The console -/

/-- What the guest prints: the three blocks of the init script, in its order, and other lines
before, between and after them. -/
structure Console where
  before : List Str
  exitCode : Int
  afterExit : List Str
  result : List Str
  afterResult : List Str
  stderr : List Str
  after : List Str

/-- The lines of a console, each as the guest ends it. -/
def Console.lines (c : Console) : List Str :=
  c.before ++ [firecrackerExitBegin, itoa c.exitCode, firecrackerExitEnd]
    ++ c.afterExit ++ firecrackerResultBegin :: c.result ++ [firecrackerResultEnd]
    ++ c.afterResult ++ firecrackerStderrBegin :: c.stderr ++ [firecrackerStderrEnd]
    ++ c.after

/-- The text of a console that ends its lines with some carriage returns and a line break. -/
def Console.text (c : Console) (crs : Nat) : Str :=
  unlines (c.lines.map (· ++ List.replicate crs 13))

/-- The lines that are not markers of the init script. -/
def Console.others (c : Console) : List Str :=
  c.before ++ c.afterExit ++ c.result ++ c.afterResult ++ c.stderr ++ c.after

/-- A line, and no marker: no line break in it and, its carriage returns apart, no marker. -/
def Ordinary (line : Str) : Prop := 10 ∉ line ∧ trimCRs line ∉ firecrackerMarkers

/-! ### Finding a block -/

/-- Lines before the block that do not begin one are passed over. -/
theorem markerBlock_skip {begin «end» : Str} {noise : List Str} (h : begin ∉ noise)
    (rest : List Str) :
  markerBlock begin «end» none (noise ++ rest) = markerBlock begin «end» none rest
  := by
  induction noise with
  | nil => rfl
  | cons line noise ih =>
      rw [List.mem_cons, not_or] at h
      rw [List.cons_append, markerBlock, if_neg (Ne.symm h.1)]
      apply ih h.2

/-- Inside the block every line up to the end marker is kept. -/
theorem markerBlock_body {begin «end» : Str} {body : List Str} (hbegin : begin ∉ body)
    (hend : «end» ∉ body) (hne : «end» ≠ begin) (kept rest : List Str) :
  markerBlock begin «end» (some kept) (body ++ «end» :: rest) = some (kept ++ body)
  := by
  induction body generalizing kept with
  | nil => rw [List.nil_append, markerBlock, if_neg hne, if_pos rfl, List.append_nil]
  | cons line body ih =>
      rw [List.mem_cons, not_or] at hbegin hend
      rw [List.cons_append, markerBlock, if_neg (Ne.symm hbegin.1)]
      simp only [if_neg (Ne.symm hend.1)]
      rw [ih hbegin.2 hend.2, List.append_assoc, List.singleton_append]

/-- The block is found behind any lines that do not begin one, and what follows its end marker
does not matter. -/
theorem markerBlock_found {begin «end» : Str} {noise body : List Str} (hnoise : begin ∉ noise)
    (hbegin : begin ∉ body) (hend : «end» ∉ body) (hne : «end» ≠ begin) (rest : List Str) :
  markerBlock begin «end» none (noise ++ begin :: (body ++ «end» :: rest)) = some body
  := by
  rw [markerBlock_skip hnoise, markerBlock, if_pos rfl, markerBlock_body hbegin hend hne,
    List.nil_append]

/-! ### The lines of a console -/

theorem trimCRs_append_replicate (line : Str) (n : Nat) :
  trimCRs (line ++ List.replicate n 13) = trimCRs line
  := by
  induction n with
  | zero => rw [List.replicate_zero, List.append_nil]
  | succ n ih =>
      rw [List.replicate_succ', ← List.append_assoc, trimCRs, List.rdropWhile_concat_pos _ _ _ (by simp)]
      apply ih

theorem trimCRs_of_notMem {line : Str} (h : 13 ∉ line) :
  trimCRs line = line
  := by
  rw [trimCRs, List.rdropWhile_eq_self_iff]
  intro hne hlast
  rw [decide_eq_true_eq] at hlast
  exact h (hlast ▸ List.getLast_mem hne)

theorem itoa_graphic {n : Int} {b : UInt8} (h : b ∈ itoa n) :
  45 ≤ b ∧ b ≤ 57
  := by
  have hdigit : ∀ {m : Nat}, b ∈ decimal m → 45 ≤ b ∧ b ≤ 57 := by
    intro m hm
    have hb := isDecimal_of_mem_decimal hm
    rw [isDecimal, Bool.and_eq_true, decide_eq_true_eq, decide_eq_true_eq] at hb
    exact ⟨le_trans (by decide) hb.1, hb.2⟩
  rw [itoa] at h
  split_ifs at h
  · rw [List.mem_cons] at h
    rcases h with rfl | h
    · decide
    · apply hdigit h
  · apply hdigit h

theorem trimCRs_itoa (n : Int) :
  trimCRs (itoa n) = itoa n
  := by
  apply trimCRs_of_notMem
  intro h
  exact absurd (itoa_graphic h).1 (by decide)

theorem itoa_notMem_markers (n : Int) :
  itoa n ∉ firecrackerMarkers
  := by
  have hhead : ∀ marker ∈ firecrackerMarkers, 66 ∈ marker := by decide
  intro h
  exact absurd (itoa_graphic (hhead _ h)).2 (by decide)

theorem trimCRs_marker {marker : Str} (h : marker ∈ firecrackerMarkers) :
  trimCRs marker = marker ∧ 10 ∉ marker
  := by
  have hplain : ∀ marker ∈ firecrackerMarkers, 13 ∉ marker ∧ 10 ∉ marker := by decide
  exact ⟨trimCRs_of_notMem (hplain _ h).1, (hplain _ h).2⟩

/-- The lines of a console without their carriage returns. -/
def Console.trimmed (c : Console) : Console where
  before := c.before.map trimCRs
  exitCode := c.exitCode
  afterExit := c.afterExit.map trimCRs
  result := c.result.map trimCRs
  afterResult := c.afterResult.map trimCRs
  stderr := c.stderr.map trimCRs
  after := c.after.map trimCRs

theorem others_trimmed (c : Console) :
  c.trimmed.others = c.others.map trimCRs
  := by
  simp [Console.others, Console.trimmed]

theorem map_trimCRs_lines (c : Console) :
  c.lines.map trimCRs = c.trimmed.lines
  := by
  have hmarker : ∀ marker ∈ firecrackerMarkers, trimCRs marker = marker := fun _ h =>
    (trimCRs_marker h).1
  simp only [firecrackerMarkers, List.forall_mem_cons] at hmarker
  obtain ⟨hrb, hre, heb, hee, hsb, hse, -⟩ := hmarker
  simp [Console.lines, Console.trimmed, trimCRs_itoa, hrb, hre, heb, hee, hsb, hse]

/-- Every line of a console is one of its markers, its exit code or another line. -/
theorem mem_lines {c : Console} {line : Str} (h : line ∈ c.lines) :
  line ∈ firecrackerMarkers ∨ line = itoa c.exitCode ∨ line ∈ c.others
  := by
  simp only [Console.lines, Console.others, firecrackerMarkers, List.mem_append, List.mem_cons,
    List.not_mem_nil, or_false] at h ⊢
  tauto

theorem trimmed_lines_of_text {c : Console} (h : ∀ line ∈ c.others, Ordinary line) (crs : Nat) :
  ((c.text crs).splitOn 10).map trimCRs = c.trimmed.lines ++ [[]]
  := by
  have hbreak : ∀ line ∈ c.lines.map (· ++ List.replicate crs 13), 10 ∉ line := by
    rw [List.forall_mem_map]
    intro line hline hmem
    rw [List.mem_append] at hmem
    rcases hmem with hmem | hmem
    · rcases mem_lines hline with hmarker | rfl | hother
      · exact (trimCRs_marker hmarker).2 hmem
      · exact absurd (itoa_graphic hmem).1 (by decide)
      · exact (h line hother).1 hmem
    · exact absurd (List.eq_of_mem_replicate hmem) (by decide)
  have htrim : (c.lines.map (· ++ List.replicate crs 13)).map trimCRs = c.lines.map trimCRs := by
    rw [List.map_map]
    apply List.map_congr_left
    intro line _
    apply trimCRs_append_replicate
  rw [Console.text, splitOn_unlines hbreak, List.map_append, htrim, map_trimCRs_lines]
  rfl

/-! ### The round trip -/

/-- A marker is none of the other lines of a console, carriage returns apart. -/
theorem marker_notMem_trimmed {c : Console} (h : ∀ line ∈ c.others, Ordinary line) {marker : Str}
    (hmarker : marker ∈ firecrackerMarkers) :
  marker ∉ c.trimmed.others
  := by
  rw [others_trimmed, List.mem_map]
  rintro ⟨line, hline, rfl⟩
  exact (h line hline).2 hmarker

/-- The exit code is found in its block. -/
theorem extract_exitCode {c : Console} (h : ∀ line ∈ c.others, Ordinary line) (crs : Nat) :
  extractFirecrackerMarkerBlock (c.text crs) firecrackerExitBegin firecrackerExitEnd
    = some (itoa c.exitCode)
  := by
  have hbegin : firecrackerExitBegin ∉ c.trimmed.others := marker_notMem_trimmed h (by decide)
  have hcode := itoa_notMem_markers c.exitCode
  have hlines : c.trimmed.lines ++ [[]] = c.trimmed.before ++ firecrackerExitBegin
      :: ([itoa c.exitCode] ++ firecrackerExitEnd :: (c.trimmed.afterExit
        ++ firecrackerResultBegin :: c.trimmed.result ++ [firecrackerResultEnd]
        ++ c.trimmed.afterResult ++ firecrackerStderrBegin :: c.trimmed.stderr
        ++ [firecrackerStderrEnd] ++ c.trimmed.after ++ [[]])) := by
    simp [Console.lines, Console.trimmed]
  rw [extractFirecrackerMarkerBlock, trimmed_lines_of_text h, hlines, markerBlock_found]
  · simp [join]
  · intro hmem
    apply hbegin
    simp [Console.others, hmem]
  · intro hmem
    rw [List.mem_singleton] at hmem
    apply hcode
    rw [← hmem]
    decide
  · intro hmem
    rw [List.mem_singleton] at hmem
    apply hcode
    rw [← hmem]
    decide
  · decide

/-- The result is found in its block, its lines without their carriage returns. -/
theorem extract_result {c : Console} (h : ∀ line ∈ c.others, Ordinary line) (crs : Nat) :
  extractFirecrackerMarkerBlock (c.text crs) firecrackerResultBegin firecrackerResultEnd
    = some (join (str "\n") (c.result.map trimCRs))
  := by
  have hbegin : firecrackerResultBegin ∉ c.trimmed.others := marker_notMem_trimmed h (by decide)
  have hend : firecrackerResultEnd ∉ c.trimmed.others := marker_notMem_trimmed h (by decide)
  have hcode := itoa_notMem_markers c.exitCode
  have hlines : c.trimmed.lines ++ [[]] = (c.trimmed.before ++ [firecrackerExitBegin,
      itoa c.exitCode, firecrackerExitEnd] ++ c.trimmed.afterExit) ++ firecrackerResultBegin
      :: (c.trimmed.result ++ firecrackerResultEnd :: (c.trimmed.afterResult
        ++ firecrackerStderrBegin :: c.trimmed.stderr ++ [firecrackerStderrEnd]
        ++ c.trimmed.after ++ [[]])) := by
    simp [Console.lines, Console.trimmed]
  rw [extractFirecrackerMarkerBlock, trimmed_lines_of_text h, hlines, markerBlock_found]
  · rfl
  · simp only [List.mem_append, List.mem_cons, List.not_mem_nil, or_false, not_or]
    simp only [Console.others, List.mem_append, not_or] at hbegin
    refine ⟨⟨hbegin.1.1.1.1.1, by decide, ?_, by decide⟩, hbegin.1.1.1.1.2⟩
    intro hmem
    apply hcode
    rw [← hmem]
    decide
  · simp only [Console.others, List.mem_append, not_or] at hbegin
    exact hbegin.1.1.1.2
  · simp only [Console.others, List.mem_append, not_or] at hend
    exact hend.1.1.1.2
  · decide

/-- The text of the result, up to outer white space and carriage returns at the ends of lines. -/
def Console.resultText (c : Console) : Str := trimSpace (unlines (c.result.map trimCRs))

theorem trimSpace_itoa (n : Int) :
  trimSpace (itoa n) = itoa n
  := by
  apply trimSpace_of_graphic
  intro b hb
  exact ⟨lt_of_lt_of_le (by decide) (itoa_graphic hb).1, lt_of_le_of_lt (itoa_graphic hb).2 (by decide)⟩

/-- What the host reads from a console. -/
theorem parse_console {c : Console} (h : ∀ line ∈ c.others, Ordinary line)
    (hmin : -2 ^ 63 ≤ c.exitCode) (hmax : c.exitCode < 2 ^ 63) (crs : Nat) (stderrText : Str) :
  (parseFirecrackerMarkedOutput (c.text crs) stderrText).map (fun o => (o.resultJSON, o.exitCode))
    = if c.resultText = [] then .error .resultEmpty else .ok (c.resultText, c.exitCode)
  := by
  rw [parseFirecrackerMarkedOutput, extract_result h, extract_exitCode h]
  simp only [trimSpace_join, trimSpace_itoa, atoi_itoa _ hmin hmax]
  rw [show trimSpace (unlines (c.result.map trimCRs)) = c.resultText from rfl]
  by_cases hblank : c.resultText = []
  · rw [if_pos hblank, if_pos hblank]
    rfl
  · rw [if_neg hblank, if_neg hblank]
    rfl

/-- The result and the exit code come back through the console, whatever ordinary lines surround
them; a result that is nothing but white space is refused. -/
theorem console_round_trip (c : Console) (h : ∀ line ∈ c.others, Ordinary line)
    (hmin : -2 ^ 63 ≤ c.exitCode) (hmax : c.exitCode < 2 ^ 63) (crs : Nat) (stderrText : Str) :
  (c.resultText ≠ [] → ∃ o, parseFirecrackerMarkedOutput (c.text crs) stderrText = .ok o
      ∧ o.resultJSON = c.resultText ∧ o.exitCode = c.exitCode)
    ∧ (c.resultText = []
      → parseFirecrackerMarkedOutput (c.text crs) stderrText = .error .resultEmpty)
  := by
  have hparse := parse_console h hmin hmax crs stderrText
  constructor
  · intro hresult
    rw [if_neg hresult] at hparse
    cases ho : parseFirecrackerMarkedOutput (c.text crs) stderrText with
    | error e =>
        rw [ho] at hparse
        cases hparse
    | ok o =>
        rw [ho] at hparse
        obtain ⟨hjson, hcode⟩ := Prod.mk.inj (Except.ok.inj hparse)
        exact ⟨o, rfl, hjson, hcode⟩
  · intro hresult
    rw [if_pos hresult] at hparse
    cases ho : parseFirecrackerMarkedOutput (c.text crs) stderrText with
    | error e =>
        rw [ho] at hparse
        rw [Except.error.inj hparse]
    | ok o =>
        rw [ho] at hparse
        contradiction

/-- A passing run between kernel messages. -/
def passingConsole : Console where
  before := [str "[    0.000000] Linux version 6.8.0", []]
  exitCode := 0
  afterExit := []
  result := [str "\x7b", str "  \"status\": \"pass\"", str "\x7d"]
  afterResult := [str "[    1.250000] random: crng init done"]
  stderr := []
  after := [str "[    1.500000] reboot: Power down"]

theorem passingConsole_round_trip :
  ∃ o, parseFirecrackerMarkedOutput (passingConsole.text 1) [] = .ok o
    ∧ o.resultJSON = passingConsole.resultText ∧ o.exitCode = 0
  := by
  have hlines : ∀ line ∈ passingConsole.others, 10 ∉ line ∧ trimCRs line ∉ firecrackerMarkers := by
    decide
  have hresult : passingConsole.resultText ≠ [] := by
    decide
  exact (console_round_trip passingConsole hlines (by decide) (by decide) 1 []).1 hresult

/-- A validator that left one empty line. -/
def blankConsole : Console where
  before := []
  exitCode := 0
  afterExit := []
  result := [[]]
  afterResult := []
  stderr := []
  after := []

/-- A blank result does not come back: the host reports that it was empty. -/
theorem blank_result_refused :
  ¬ ∀ (c : Console) (crs : Nat) (stderrText : Str),
    (∀ line ∈ c.others, 10 ∉ line ∧ line ∉ firecrackerMarkers) → -2 ^ 63 ≤ c.exitCode
    → c.exitCode < 2 ^ 63
    → ∃ o, parseFirecrackerMarkedOutput (c.text crs) stderrText = .ok o
      ∧ o.resultJSON = c.resultText ∧ o.exitCode = c.exitCode
  := by
  intro hall
  have hlines : ∀ line ∈ blankConsole.others, 10 ∉ line ∧ line ∉ firecrackerMarkers := by
    decide
  have hordinary : ∀ line ∈ blankConsole.others, Ordinary line := by
    intro line hline
    simp only [Console.others, blankConsole, List.append_nil, List.nil_append,
      List.mem_singleton] at hline
    rw [hline]
    exact ⟨List.not_mem_nil, by decide⟩
  have hblank : blankConsole.resultText = [] := by
    decide
  obtain ⟨o, ho, -⟩ := hall blankConsole 0 [] hlines (by decide) (by decide)
  have hparse := parse_console hordinary (by decide) (by decide) 0 []
  rw [ho, if_pos hblank] at hparse
  contradiction

end Vm
