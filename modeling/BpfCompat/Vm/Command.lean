import BpfCompat.Shell
import BpfCompat.Go.Strings

/-!
# Command lines for the guest

What is sent to the guest's shell: the user's command, or the validator with the loader
tuning of the manifest.  Every value from outside is quoted, and the shell reads it back as
the value itself.
-/

namespace Vm

open Go Shell

/-! ### Quoting -/

/-- The text with every single quote replaced. -/
def requoted (value : Str) : Str := value.flatMap fun b => if b = 39 then [39, 34, 39, 34, 39] else [b]

def shellQuote (value : Str) : Str := 39 :: requoted value ++ [39]

theorem run_requoted {s : Scan} (hs : s.mode = .single) {value : Str} (hvalue : 0 ∉ value)
    (hword : s.word ≠ none) :
  run s (requoted value) = some (s.extend (value.map .quoted))
  := by
  obtain ⟨w, hw⟩ := Option.ne_none_iff_exists'.mp hword
  induction value generalizing s w with
  | nil =>
      rw [requoted, List.flatMap_nil, run, Scan.extend, hw, List.map_nil, Option.getD_some,
        List.append_nil, ← hw]
  | cons b value ih =>
      rw [List.mem_cons, not_or] at hvalue
      have hb : run s (if b = 39 then [39, 34, 39, 34, 39] else [b]) = some (s.push (.quoted b)) := by
        by_cases hquote : b = 39
        · rw [if_pos hquote, hquote]
          apply run_requote hs
        · rw [if_neg hquote, run, step_single hs (Ne.symm hvalue.1) hquote]
          rfl
      have hrest := ih (s := s.push (.quoted b)) hs hvalue.2 (by simp [Scan.push]) _ rfl
      rw [requoted, List.flatMap_cons, run_append, hb, Option.bind_some]
      rw [requoted] at hrest
      rw [hrest, extend_push]
      rfl

/-- Outside quotes, a quoted value adds exactly its own characters to the word. -/
theorem run_shellQuote {s : Scan} (hs : s.mode = .bare) {value : Str} (hvalue : 0 ∉ value) :
  run s (shellQuote value) = some (s.extend (value.map .quoted))
  := by
  have hopen : (s.begin.within .single).word ≠ none := by simp [Scan.begin, Scan.within]
  rw [shellQuote, List.cons_append, run, step_open_single hs, Option.bind_some, run_append,
    run_requoted rfl hvalue hopen, Option.bind_some, run, step_close_single rfl]
  simp [run, Scan.extend, Scan.begin, Scan.within, hs]

/-- A list of quoted values after a word that is closed by the blank before them. -/
theorem run_join {s : Scan} (hs : s.mode = .bare) (hword : s.word = none) {vs : List Str}
    (hvs : ∀ v ∈ vs, 0 ∉ v) :
  (run s (join (str " ") (vs.map shellQuote))).bind finish
    = some (s.tokens ++ vs.map quotedWord)
  := by
  induction vs generalizing s with
  | nil => simp [join, run, finish, Scan.close, hs, hword]
  | cons v vs ih =>
      have hv := hvs v List.mem_cons_self
      rcases vs with - | ⟨w, vs⟩
      · have hline : join (str " ") ([v].map shellQuote) = shellQuote v := by simp [join]
        rw [hline, run_shellQuote hs hv]
        simp [finish, Scan.extend, Scan.close, hs, hword, quotedWord]
      · have hline : join (str " ") ((v :: w :: vs).map shellQuote)
            = shellQuote v ++ ([32] ++ join (str " ") ((w :: vs).map shellQuote)) := by
          rw [show ([32] : Str) = str " " from rfl]
          simp [join]
        have hclosed := ih (s := (s.extend (v.map .quoted)).close) hs rfl
          fun x hx => hvs x (List.mem_cons_of_mem v hx)
        rw [hline, run_append, run_shellQuote hs hv, Option.bind_some, run_append, run,
          step_space (s := s.extend _) hs, Option.bind_some, run, Option.bind_some, hclosed]
        simp [Scan.close, Scan.extend, hword, quotedWord]

/-! ### Loader tuning -/

structure MapFixup where
  name : Str
  maxEntries : Str := []
  innerRingbufBytes : UInt32 := 0
  innerMapType : Str := []
  innerKeySize : UInt32 := 0
  innerValueSize : UInt32 := 0
  innerMaxEntries : UInt32 := 0
deriving DecidableEq

structure ProgTypeOverride where
  selector : Str
  type : Str
deriving DecidableEq

/-- A variant of a program.  Helper `0` marks an unconditional fallback. -/
structure ProgVariant where
  name : Str
  helperID : UInt32 := 0
  trialProbe : Bool := false
deriving DecidableEq

structure ProgVariantGroup where
  group : Str
  variants : List ProgVariant
deriving DecidableEq

/-- The loader tuning of an execution request. -/
structure ValidatorTuning where
  mapFixups : List MapFixup := []
  progTypes : List ProgTypeOverride := []
  progVariants : List ProgVariantGroup := []
  probeCompanions : List Str := []
deriving DecidableEq

/-- A value as it is printed in decimal. -/
def uintText (n : UInt32) : Str := decimal n.toNat

def mapFixupArgs (fixups : List MapFixup) : Str :=
  fixups.flatMap fun fixup =>
    (if fixup.maxEntries ≠ [] then
      str " --set-map-max-entries " ++ shellQuote (fixup.name ++ str "=" ++ fixup.maxEntries)
    else []) ++
    (if fixup.innerRingbufBytes > 0 then
      str " --set-map-inner-ringbuf "
        ++ shellQuote (fixup.name ++ str "=" ++ uintText fixup.innerRingbufBytes)
    else []) ++
    (if fixup.innerMapType ≠ [] then
      str " --set-map-inner-map "
        ++ shellQuote (fixup.name ++ str "=" ++ fixup.innerMapType ++ str ":"
          ++ uintText fixup.innerKeySize ++ str ":" ++ uintText fixup.innerValueSize ++ str ":"
          ++ uintText fixup.innerMaxEntries)
    else [])

def progTypeArgs (overrides : List ProgTypeOverride) : Str :=
  overrides.flatMap fun ov =>
    str " --set-prog-type " ++ shellQuote (ov.selector ++ str "=" ++ ov.type)

/-- A variant as it stands in the operand of its group. -/
def variantOperand (variant : ProgVariant) : Str :=
  if variant.trialProbe then variant.name ++ str ":trial"
  else variant.name ++ str ":" ++ uintText variant.helperID

def groupOperand (group : ProgVariantGroup) : Str :=
  group.group ++ str "=" ++ join (str ",") (group.variants.map variantOperand)

def progVariantArgs (groups : List ProgVariantGroup) : Str :=
  groups.flatMap fun group => str " --prog-variants " ++ shellQuote (groupOperand group)

def validatorTuningArgs (req : ValidatorTuning) : Str :=
  mapFixupArgs req.mapFixups ++ progTypeArgs req.progTypes ++ progVariantArgs req.progVariants
    ++ (if req.probeCompanions ≠ [] then
      str " --probe-companions " ++ shellQuote (join (str ",") req.probeCompanions)
    else [])

/-- The options a fixup stands for, each with its operand. -/
def mapFixupOptions (fixup : MapFixup) : List (Str × Str) :=
  (if fixup.maxEntries ≠ [] then
    [(str "--set-map-max-entries", fixup.name ++ str "=" ++ fixup.maxEntries)]
  else []) ++
  (if fixup.innerRingbufBytes > 0 then
    [(str "--set-map-inner-ringbuf", fixup.name ++ str "=" ++ uintText fixup.innerRingbufBytes)]
  else []) ++
  (if fixup.innerMapType ≠ [] then
    [(str "--set-map-inner-map", fixup.name ++ str "=" ++ fixup.innerMapType ++ str ":"
      ++ uintText fixup.innerKeySize ++ str ":" ++ uintText fixup.innerValueSize ++ str ":"
      ++ uintText fixup.innerMaxEntries)]
  else [])

/-- The options the loader tuning stands for, each with its operand, in the order they are
written. -/
def tuningOptions (req : ValidatorTuning) : List (Str × Str) :=
  req.mapFixups.flatMap mapFixupOptions
    ++ req.progTypes.map (fun ov => (str "--set-prog-type", ov.selector ++ str "=" ++ ov.type))
    ++ req.progVariants.map (fun group => (str "--prog-variants", groupOperand group))
    ++ (if req.probeCompanions ≠ [] then
      [(str "--probe-companions", join (str ",") req.probeCompanions)]
    else [])

/-- Options written one after the other, their operands quoted. -/
def optionArgs (options : List (Str × Str)) : Str :=
  options.flatMap fun option => str " " ++ option.1 ++ str " " ++ shellQuote option.2

theorem optionArgs_append (options options' : List (Str × Str)) :
  optionArgs (options ++ options') = optionArgs options ++ optionArgs options'
  := List.flatMap_append

theorem optionArgs_if (p : Prop) [Decidable p] (flag operand : Str) :
  optionArgs (if p then [(flag, operand)] else [])
    = if p then str " " ++ flag ++ str " " ++ shellQuote operand else []
  := by
  split_ifs with h
  · simp [optionArgs]
  · rfl

theorem mapFixupArgs_eq (fixups : List MapFixup) :
  mapFixupArgs fixups = optionArgs (fixups.flatMap mapFixupOptions)
  := by
  induction fixups with
  | nil => rfl
  | cons fixup fixups ih =>
      rw [List.flatMap_cons, optionArgs_append, ← ih, mapFixupOptions, optionArgs_append,
        optionArgs_append, optionArgs_if, optionArgs_if, optionArgs_if]
      rfl

theorem validatorTuningArgs_eq (req : ValidatorTuning) :
  validatorTuningArgs req = optionArgs (tuningOptions req)
  := by
  have htypes : progTypeArgs req.progTypes = optionArgs (req.progTypes.map fun ov =>
      (str "--set-prog-type", ov.selector ++ str "=" ++ ov.type)) := by
    rw [optionArgs, List.flatMap_map]
    rfl
  have hvariants : progVariantArgs req.progVariants = optionArgs (req.progVariants.map fun group =>
      (str "--prog-variants", groupOperand group)) := by
    rw [optionArgs, List.flatMap_map]
    rfl
  rw [validatorTuningArgs, tuningOptions, optionArgs_append, optionArgs_append, optionArgs_append,
    optionArgs_if, ← mapFixupArgs_eq, ← htypes, ← hvariants]
  rfl

/-- The words options are read as. -/
def optionWords (options : List (Str × Str)) : List Token :=
  options.flatMap fun option => [bareWord option.1, quotedWord option.2]

/-- An option whose flag is an ordinary word and whose operand can be passed at all. -/
structure Passable (option : Str × Str) : Prop where
  flag_ne_nil : option.1 ≠ []
  flag_plain : ∀ b ∈ option.1, Plain b
  operand_no_nul : 0 ∉ option.2

/-- Options are read as their flags and their operands, whatever stands in the operands. -/
theorem run_optionArgs {s : Scan} (hs : s.mode = .bare) {options : List (Str × Str)}
    (h : ∀ option ∈ options, Passable option) :
  run s (optionArgs options ++ str " ")
    = some { tokens := s.close.tokens ++ optionWords options, word := none, mode := .bare }
  := by
  induction options generalizing s with
  | nil =>
      rw [optionArgs, List.flatMap_nil, List.nil_append, show str " " = [32] from rfl, run,
        step_space hs]
      simp [run, optionWords, Scan.close, hs]
  | cons option options ih =>
      have hoption := h option List.mem_cons_self
      have hline : optionArgs (option :: options) ++ str " "
          = [32] ++ (option.1 ++ ([32] ++ (shellQuote option.2 ++ (optionArgs options ++ str " ")))) := by
        rw [show ([32] : Str) = str " " from rfl]
        simp [optionArgs]
      have hrest := ih (s := ((s.close.extend (option.1.map .bare)).close).extend
        (option.2.map .quoted)) hs fun x hx => h x (List.mem_cons_of_mem option hx)
      rw [hline, run_append, run, step_space hs, Option.bind_some, run, Option.bind_some, run_append,
        run_plain (s := s.close) hs hoption.flag_ne_nil hoption.flag_plain, Option.bind_some,
        run_append, run, step_space (s := s.close.extend _) hs, Option.bind_some, run,
        Option.bind_some, run_append,
        run_shellQuote (s := (s.close.extend _).close) hs hoption.operand_no_nul,
        Option.bind_some, hrest]
      simp [Scan.close, Scan.extend, optionWords, bareWord, quotedWord]

theorem passable_tuningOptions {req : ValidatorTuning}
    (h : ∀ option ∈ tuningOptions req, 0 ∉ option.2) :
  ∀ option ∈ tuningOptions req, Passable option
  := by
  intro option hoption
  have hflag : option.1 ∈ [str "--set-map-max-entries", str "--set-map-inner-ringbuf",
      str "--set-map-inner-map", str "--set-prog-type", str "--prog-variants",
      str "--probe-companions"] := by
    simp only [tuningOptions, mapFixupOptions, List.mem_append, List.mem_flatMap, List.mem_map] at hoption
    aesop
  have hplain : ∀ flag ∈ [str "--set-map-max-entries", str "--set-map-inner-ringbuf",
      str "--set-map-inner-map", str "--set-prog-type", str "--prog-variants",
      str "--probe-companions"], flag ≠ [] ∧ ∀ b ∈ flag, Plain b := by
    decide
  exact ⟨(hplain _ hflag).1, (hplain _ hflag).2, h option hoption⟩

/-! ### The lines sent to the guest -/

def guestCommandLine (command artifactRemotePath binRemotePath remoteRoot stdoutPath stderrPath
    exitPath : Str) : Str :=
  str "sudo BPFCOMPAT_ARTIFACT=" ++ shellQuote artifactRemotePath
    ++ str " BPFCOMPAT_BIN=" ++ shellQuote binRemotePath
    ++ str " BPFCOMPAT_REMOTE_ROOT=" ++ shellQuote remoteRoot
    ++ str " bash -lc " ++ shellQuote command
    ++ str " >" ++ shellQuote stdoutPath
    ++ str " 2>" ++ shellQuote stderrPath
    ++ str "; code=$?; echo \"$code\" > " ++ shellQuote exitPath
    ++ str "; exit 0"

/-- The words that keep the exit code of a guest command and end the line. -/
def exitCodeWords (exitPath : Str) : List Token :=
  [.operator 59, .word ((str "code=").map .bare ++ [.dollar, .bare 63]), .operator 59,
    bareWord (str "echo"), .word (.dollar :: (str "code").map .quoted), .operator 62,
    quotedWord exitPath, .operator 59, bareWord (str "exit"), bareWord (str "0")]

/-- The word that assigns a value in front of a command. -/
def assignmentWord (name value : Str) : Token :=
  .word (name.map .bare ++ value.map .quoted)

theorem run_value {s : Scan} (hs : s.mode = .bare) {value : Str} (hvalue : 0 ∉ value) (rest : Str) :
  run s (shellQuote value ++ rest) = run (s.extend (value.map .quoted)) rest
  := run_then (run_shellQuote hs hvalue) rest

/-- A fixed part of a line after a word that it closes. -/
theorem run_fixed {s t : Scan} (hs : s.mode = .bare) {text : Str}
    (htext : text.head? = some 32 ∨ text.head? = some 59) (h : run {} text = some t) (rest : Str) :
  run s (text ++ rest) = run (t.after s.close.tokens) rest
  := run_then (run_closing hs htext h) rest

/-- The end of both lines: the exit code is kept in a file. -/
theorem run_exitCode {s : Scan} (hs : s.mode = .bare) {exitPath : Str} (hexit : 0 ∉ exitPath) :
  (run s (str "; code=$?; echo \"$code\" > " ++ (shellQuote exitPath ++ str "; exit 0"))).bind finish
    = some (s.close.tokens ++ exitCodeWords exitPath)
  := by
  have hcode : run {} (str "; code=$?; echo \"$code\" > ")
      = some ⟨(exitCodeWords []).take 6, none, .bare⟩ := by
    decide
  have hend : run {} (str "; exit 0")
      = some ⟨[.operator 59, bareWord (str "exit")], some ((str "0").map .bare), .bare⟩ := by
    decide
  rw [run_fixed hs (Or.inr rfl) hcode, run_value rfl hexit,
    run_closing (l := str "; exit 0") rfl (Or.inr rfl) hend]
  simp [finish, exitCodeWords, Scan.close, Scan.extend, Scan.after, quotedWord, bareWord]

theorem split_guestCommandLine {command artifactRemotePath binRemotePath remoteRoot stdoutPath
    stderrPath exitPath : Str} (h : ∀ v ∈ [command, artifactRemotePath, binRemotePath, remoteRoot,
      stdoutPath, stderrPath, exitPath], 0 ∉ v) :
  split (guestCommandLine command artifactRemotePath binRemotePath remoteRoot stdoutPath stderrPath
      exitPath)
    = some ([bareWord (str "sudo"),
        assignmentWord (str "BPFCOMPAT_ARTIFACT=") artifactRemotePath,
        assignmentWord (str "BPFCOMPAT_BIN=") binRemotePath,
        assignmentWord (str "BPFCOMPAT_REMOTE_ROOT=") remoteRoot,
        bareWord (str "bash"), bareWord (str "-lc"), quotedWord command,
        .operator 62, quotedWord stdoutPath, bareWord (str "2"), .operator 62,
        quotedWord stderrPath] ++ exitCodeWords exitPath)
  := by
  simp only [List.forall_mem_cons, List.not_mem_nil, false_implies, implies_true, and_true] at h
  obtain ⟨hcommand, hartifact, hbin, hroot, hstdout, hstderr, hexit⟩ := h
  -- the fixed parts of the line are read on their own
  have hsudo : run {} (str "sudo BPFCOMPAT_ARTIFACT=")
      = some ⟨[bareWord (str "sudo")], some ((str "BPFCOMPAT_ARTIFACT=").map .bare), .bare⟩ := by
    decide
  have hbinName : run {} (str " BPFCOMPAT_BIN=")
      = some ⟨[], some ((str "BPFCOMPAT_BIN=").map .bare), .bare⟩ := by
    decide
  have hrootName : run {} (str " BPFCOMPAT_REMOTE_ROOT=")
      = some ⟨[], some ((str "BPFCOMPAT_REMOTE_ROOT=").map .bare), .bare⟩ := by
    decide
  have hbash : run {} (str " bash -lc ")
      = some ⟨[bareWord (str "bash"), bareWord (str "-lc")], none, .bare⟩ := by
    decide
  have hout : run {} (str " >") = some ⟨[.operator 62], none, .bare⟩ := by
    decide
  have herr : run {} (str " 2>") = some ⟨[bareWord (str "2"), .operator 62], none, .bare⟩ := by
    decide
  rw [split, guestCommandLine]
  simp only [List.append_assoc]
  rw [run_then hsudo, run_value rfl hartifact, run_fixed rfl (Or.inl rfl) hbinName,
    run_value rfl hbin, run_fixed rfl (Or.inl rfl) hrootName, run_value rfl hroot,
    run_fixed rfl (Or.inl rfl) hbash, run_value rfl hcommand, run_fixed rfl (Or.inl rfl) hout,
    run_value rfl hstdout, run_fixed rfl (Or.inl rfl) herr, run_value rfl hstderr,
    run_exitCode rfl hexit]
  simp [Scan.close, Scan.extend, Scan.after, quotedWord, assignmentWord]

/-- What the validator is run with in the guest. -/
structure ValidatorRun where
  validator : Str
  artifact : Str
  manifest : Option Str := none
  functionalPlan : Option Str := none
  tuning : ValidatorTuning := {}
  attachMode : Str := []
  result : Str
  logDir : Str
  stderr : Str
  exitPath : Str

/-- The attach mode, or the one that is used when none is asked for. -/
def ValidatorRun.mode (r : ValidatorRun) : Str :=
  if r.attachMode = [] then str "best-effort" else r.attachMode

def validatorCommandLine (r : ValidatorRun) : Str :=
  str "sudo " ++ shellQuote r.validator
    ++ str " --artifact " ++ shellQuote r.artifact
    ++ (r.manifest.map fun path => str " --manifest " ++ shellQuote path).getD []
    ++ (r.functionalPlan.map fun path => str " --functional-plan " ++ shellQuote path).getD []
    ++ validatorTuningArgs r.tuning
    ++ str " --attach-mode " ++ shellQuote r.mode
    ++ str " --out " ++ shellQuote r.result
    ++ str " --log-dir " ++ shellQuote r.logDir
    ++ str " 2>" ++ shellQuote r.stderr
    ++ str "; code=$?; echo \"$code\" > " ++ shellQuote r.exitPath
    ++ str "; exit 0"

/-- The options of the validator, each with its operand. -/
def ValidatorRun.options (r : ValidatorRun) : List (Str × Str) :=
  (str "--artifact", r.artifact)
    :: (r.manifest.toList.map (Prod.mk (str "--manifest"))
      ++ r.functionalPlan.toList.map (Prod.mk (str "--functional-plan"))
      ++ tuningOptions r.tuning
      ++ [(str "--attach-mode", r.mode), (str "--out", r.result), (str "--log-dir", r.logDir)])

/-- None of the values of a run holds a null byte. -/
structure ValidatorRun.NoNul (r : ValidatorRun) : Prop where
  validator : 0 ∉ r.validator
  options : ∀ option ∈ r.options, 0 ∉ option.2
  stderr : 0 ∉ r.stderr
  exitPath : 0 ∉ r.exitPath

theorem optionArgs_option (flag : Str) (operand : Option Str) :
  optionArgs (operand.toList.map (Prod.mk flag))
    = (operand.map fun path => str " " ++ flag ++ str " " ++ shellQuote path).getD []
  := by
  rcases operand with - | path
  · rfl
  · simp [optionArgs]

theorem validatorCommandLine_eq (r : ValidatorRun) :
  validatorCommandLine r
    = str "sudo " ++ (shellQuote r.validator ++ (optionArgs r.options ++ str " "
      ++ (str "2>" ++ (shellQuote r.stderr ++ (str "; code=$?; echo \"$code\" > "
        ++ (shellQuote r.exitPath ++ str "; exit 0"))))))
  := by
  have hlast : optionArgs [(str "--attach-mode", r.mode), (str "--out", r.result),
        (str "--log-dir", r.logDir)]
      = str " --attach-mode " ++ shellQuote r.mode ++ str " --out " ++ shellQuote r.result
        ++ str " --log-dir " ++ shellQuote r.logDir := by
    simp only [optionArgs, List.flatMap_cons, List.flatMap_nil, List.append_assoc, List.append_nil]
    rfl
  rw [ValidatorRun.options, optionArgs, List.flatMap_cons, ← optionArgs, optionArgs_append,
    optionArgs_append, optionArgs_append, hlast, optionArgs_option, optionArgs_option,
    ← validatorTuningArgs_eq]
  delta validatorCommandLine
  simp only [List.append_assoc]
  rfl

theorem passable_options {r : ValidatorRun} (h : ∀ option ∈ r.options, 0 ∉ option.2) :
  ∀ option ∈ r.options, Passable option
  := by
  intro option hoption
  have hflag : (option.1 ∈ [str "--artifact", str "--manifest", str "--functional-plan",
      str "--attach-mode", str "--out", str "--log-dir"]) ∨ option ∈ tuningOptions r.tuning := by
    simp only [ValidatorRun.options, List.mem_cons, List.mem_append, List.mem_map] at hoption
    aesop
  have hplain : ∀ flag ∈ [str "--artifact", str "--manifest", str "--functional-plan",
      str "--attach-mode", str "--out", str "--log-dir"], flag ≠ [] ∧ ∀ b ∈ flag, Plain b := by
    decide
  rcases hflag with hflag | htuning
  · exact ⟨(hplain _ hflag).1, (hplain _ hflag).2, h option hoption⟩
  · apply passable_tuningOptions _ option htuning
    intro x hx
    apply h
    simp [ValidatorRun.options, hx]

theorem split_validatorCommandLine {r : ValidatorRun} (h : r.NoNul) :
  split (validatorCommandLine r)
    = some ([bareWord (str "sudo"), quotedWord r.validator] ++ optionWords r.options
      ++ [bareWord (str "2"), .operator 62, quotedWord r.stderr] ++ exitCodeWords r.exitPath)
  := by
  have hsudo : run {} (str "sudo ") = some ⟨[bareWord (str "sudo")], none, .bare⟩ := by
    decide
  have herr : run {} (str "2>") = some ⟨[bareWord (str "2"), .operator 62], none, .bare⟩ := by
    decide
  have hredirect (before : List Token) : run ⟨before, none, .bare⟩ (str "2>")
      = some ⟨before ++ [bareWord (str "2"), .operator 62], none, .bare⟩ := by
    have hafter := run_after {} before (str "2>")
    rw [herr] at hafter
    simpa [Scan.after] using hafter
  rw [split, validatorCommandLine_eq, run_then hsudo, run_value rfl h.validator,
    run_then (run_optionArgs rfl (passable_options h.options)), run_then (hredirect _),
    run_value rfl h.stderr, run_exitCode rfl h.exitPath]
  simp [Scan.close, Scan.extend, quotedWord]

/-- Quoting is exact.  A list of values, quoted and written with blanks between them, is read
by the shell as these values, each one word and every character of it standing for itself; and
in the lines sent to the guest every value is read as itself, next to the fixed words of the
line. -/
theorem shell_reads_back (vs : List Str) (hvs : ∀ v ∈ vs, 0 ∉ v) :
  split (join (str " ") (vs.map shellQuote)) = some (vs.map quotedWord)
    ∧ (vs.map quotedWord).mapM Token.literal? = some vs
    ∧ (∀ command artifactRemotePath binRemotePath remoteRoot stdoutPath stderrPath exitPath : Str,
      (∀ v ∈ [command, artifactRemotePath, binRemotePath, remoteRoot, stdoutPath, stderrPath,
        exitPath], 0 ∉ v)
      → split (guestCommandLine command artifactRemotePath binRemotePath remoteRoot stdoutPath
          stderrPath exitPath)
        = some ([bareWord (str "sudo"),
            assignmentWord (str "BPFCOMPAT_ARTIFACT=") artifactRemotePath,
            assignmentWord (str "BPFCOMPAT_BIN=") binRemotePath,
            assignmentWord (str "BPFCOMPAT_REMOTE_ROOT=") remoteRoot,
            bareWord (str "bash"), bareWord (str "-lc"), quotedWord command,
            .operator 62, quotedWord stdoutPath, bareWord (str "2"), .operator 62,
            quotedWord stderrPath] ++ exitCodeWords exitPath))
    ∧ (∀ r : ValidatorRun, r.NoNul → split (validatorCommandLine r)
      = some ([bareWord (str "sudo"), quotedWord r.validator] ++ optionWords r.options
        ++ [bareWord (str "2"), .operator 62, quotedWord r.stderr] ++ exitCodeWords r.exitPath))
  := by
  refine ⟨?_, mapM_literal_quotedWord vs, ?_, ?_⟩
  · have hline := run_join (s := {}) rfl rfl hvs
    rwa [List.nil_append] at hline
  · intro command artifactRemotePath binRemotePath remoteRoot stdoutPath stderrPath exitPath h
    apply split_guestCommandLine h
  · intro r hr
    apply split_validatorCommandLine hr

/-- A value with a quote and a command substitution, an empty one and one with a line break. -/
theorem shell_reads_back_hostile :
  split (join (str " ") ([str "a'$(id)", [], str "x\ny"].map shellQuote))
    = some ([str "a'$(id)", [], str "x\ny"].map quotedWord)
  := (shell_reads_back [str "a'$(id)", [], str "x\ny"] (by decide)).1

end Vm
