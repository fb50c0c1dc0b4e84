import BpfCompat.RegressionDiff.Build
import BpfCompat.RegressionDiff.DuplicateKeys
import BpfCompat.Schema.Json

/-!
# From a file to evidence

A file is evidence when it is one unambiguous document that decodes to a report the
comparison can rely on.  What only the raw document says, whether a field that decodes to
its zero value was there at all, is read off the same bytes a second time.

A file that is loaded is one document (`loadEvidence_eq_ok`), and in that document the order
of members is without meaning.
-/

namespace RegressionDiff

open Go Go.Json Go.Json.Fields Schema

/-! ### Reading the file -/

/-- How many bytes of evidence are read. -/
def maxEvidenceBytes : Nat := 32 * 2 ^ 20

/-- The files of a machine: what a path holds, or why it cannot be read. -/
abbrev Files := Str → Except Str Str

/-- The content of a file that is not too large. -/
def readBounded (files : Files) (path : Str) : Except CompareError Str :=
  match files path with
  | .error reason => .error (.unreadable (str "read report " ++ path ++ str ": " ++ reason))
  | .ok content =>
    let blob := content.take (maxEvidenceBytes + 1)
    if blob.length > maxEvidenceBytes then
      .error (.unreadable (str "read report " ++ path ++ str ": file is larger than the " ++
        itoa (maxEvidenceBytes / 2 ^ 20 : Nat) ++
        str " MiB evidence limit; bpfcompat reports are kilobytes, so this is not one"))
    else .ok blob

/-- What is read is the whole file. -/
theorem readBounded_eq_ok {files : Files} {path blob : Str}
    (h : readBounded files path = .ok blob) :
  files path = .ok blob
  := by
  rw [readBounded] at h
  cases hfile : files path with
  | error reason =>
      rw [hfile] at h
      cases h
  | ok content =>
      simp only [hfile, refuse_if_eq_ok_iff] at h
      obtain ⟨hsize, h⟩ := h
      rw [List.length_take, gt_iff_lt, lt_min_iff, not_and_or] at hsize
      cases h
      rw [List.take_of_length_le (by omega)]

/-! ### What only the raw document says -/

/-- Whether a target carried `required`. -/
structure TargetPresence where
  required : Option Bool := none
deriving DecidableEq

/-- Whether a command carried `expected_exit_code`. -/
structure CommandPresence where
  expectedExitCode : Option Int64 := none
deriving DecidableEq

/-- The fields whose absence a decoded report cannot show. -/
structure RawPresence where
  targets : List TargetPresence := []
  command : Option CommandPresence := none
deriving DecidableEq

section

variable [UnicodeTables]

def targetPresenceJSON : Codec TargetPresence :=
  struct (field "required" (pointer bool bool_ne_null))
    ⟨fun t => t.required, fun required => { required }, fun _ => rfl, fun _ => rfl⟩
    (by simp)

def commandPresenceJSON : Codec CommandPresence :=
  struct (field "expected_exit_code" (pointer int64 int64_ne_null))
    ⟨fun c => c.expectedExitCode, fun expectedExitCode => { expectedExitCode },
      fun _ => rfl, fun _ => rfl⟩
    (by simp)

theorem commandPresenceJSON_ne_null (x : CommandPresence) :
  commandPresenceJSON.write x ≠ .null
  := struct_write_ne_null x

def rawPresenceJSON : Codec RawPresence :=
  struct
    (.pair (field "targets" (slice targetPresenceJSON)) <|
      field "command" (pointer commandPresenceJSON commandPresenceJSON_ne_null))
    ⟨fun r => (r.targets, r.command), fun (targets, command) => { targets, command },
      fun _ => rfl, fun _ => rfl⟩
    (by simp [str_inj])

omit [UnicodeTables] in
/-- What was present in a document with the given number of targets; nothing, if the
document does not decode. -/
def presenceOf (shallow : Option RawPresence) (targets : Nat) : List Bool × Bool :=
  match shallow with
  | none => (List.replicate targets false, false)
  | some shallow =>
    ((List.range targets).map fun i => (shallow.targets[i]?.bind (·.required)).isSome,
      (shallow.command.bind (·.expectedExitCode)).isSome)

/-- What was present in the document. -/
def rawPresence (blob : Str) (targets : Nat) : List Bool × Bool :=
  presenceOf ((parseDocument (lexemes blob)).bind rawPresenceJSON.decode) targets

/-! ### Loading -/

section

-- `explain` is the text with which the decoder refuses a document
variable (files : Files) (explain : Str → Str)

omit [UnicodeTables] in
/-- Anything after the report is refused. -/
def requireEOF (blob path : Str) (rest : List Lexeme) : Except CompareError Unit :=
  if rest = [] then .ok ()
  else
    .error (.unreadable (str "parse report " ++ path ++
      str ": unexpected data after the report: " ++
      (if (decodeFirst rest).isNone then explain blob
        else str "a second JSON value is present")))

/-- The report a document begins with. -/
def decodeReport (blob path : Str) : Except CompareError (ReportV01 × List Lexeme) :=
  match (decodeFirst (lexemes blob)).bind fun (v, rest) =>
      (reportJSON.decode v).map fun report => (report, rest) with
  | none => .error (.unreadable (str "parse report " ++ path ++ str ": " ++ explain blob))
  | some decoded => .ok decoded

/-- The refusal of ambiguous keys, as a refusal of the evidence. -/
def checkKeys (blob side : Str) : Except CompareError Unit :=
  match rejectDuplicateKeys (lexemes blob) with
  | .error e => .error (.invalidEvidence side e.text)
  | .ok () => .ok ()

/-- One side's evidence, from a file. -/
def loadEvidence (path side : Str) : Except CompareError Evidence := do
  let blob ← readBounded files path
  checkKeys blob side
  let (report, rest) ← decodeReport explain blob path
  requireEOF explain blob path rest
  let present := rawPresence blob report.targets.length
  let ev : Evidence :=
    { report, path, side, requiredPresent := present.1, commandExitCodePresent := present.2 }
  validate report side
  validatePresence ev
  return ev

/-- The comparison of two files; `absOrOriginal` makes a path absolute where that can be
done. -/
def compare (ob oc : RangeOrder Str) (absOrOriginal : Str → Str)
    (baselinePath candidatePath now : Str) : Except CompareError Diff := do
  let baseline ← loadEvidence files explain baselinePath (str "baseline")
  let candidate ← loadEvidence files explain candidatePath (str "candidate")
  let baseline := { baseline with path := absOrOriginal baselinePath }
  let candidate := { candidate with path := absOrOriginal candidatePath }
  checkSchemas baseline.report candidate.report
  build ob oc baseline candidate now

end

section

variable {files : Files} {explain : Str → Str}

/-- The document a file that was loaded consists of. -/
structure LoadedFrom (files : Files) (path : Str) (ev : Evidence) (blob : Str) (v : Value) :
    Prop where
  content : files path = .ok blob
  document : parseDocument (lexemes blob) = some v
  keys : rejectDuplicateKeys (lexemes blob) = .ok ()
  report : reportJSON.decode v = some ev.report
  present : (ev.requiredPresent, ev.commandExitCodePresent)
    = presenceOf (rawPresenceJSON.decode v) ev.report.targets.length
  valid : ReportValid ev.report
  required : StatesRequired ev.report.targets ev.requiredPresent

theorem loadEvidence_eq_ok {path side : Str} {ev : Evidence}
    (h : loadEvidence files explain path side = .ok ev) :
  ∃ blob v, LoadedFrom files path ev blob v
  := by
  simp only [loadEvidence, bind_eq_ok_iff] at h
  obtain ⟨blob, hread, ⟨⟩, hkeys, ⟨report, rest⟩, hdecode, ⟨⟩, heof, ⟨⟩, hvalid, ⟨⟩, hpresence,
    h⟩ := h
  cases h
  have hreject : rejectDuplicateKeys (lexemes blob) = .ok () := by
    rw [checkKeys] at hkeys
    cases hr : rejectDuplicateKeys (lexemes blob) with
    | ok => rfl
    | error e =>
        rw [hr] at hkeys
        cases hkeys
  have hrest : rest = [] := by
    rw [requireEOF] at heof
    split_ifs at heof with hrest
    exact hrest
  obtain ⟨v, hv, hreport⟩ : ∃ v, decodeFirst (lexemes blob) = some (v, []) ∧
      reportJSON.decode v = some report := by
    rw [decodeReport] at hdecode
    split at hdecode
    · cases hdecode
    · rename_i decoded hdecoded
      cases hdecode
      simp only [Option.bind_eq_some_iff, Option.map_eq_some_iff, Prod.exists] at hdecoded
      obtain ⟨v, rest', hv, r, hr, heq⟩ := hdecoded
      obtain ⟨rfl, rfl⟩ := Prod.mk.inj heq
      exact ⟨v, hrest ▸ hv, hr⟩
  have hdocument : parseDocument (lexemes blob) = some v := by rw [parseDocument, hv]
  refine ⟨blob, v, readBounded_eq_ok hread, hdocument, hreject, hreport, ?_, ?_, ?_⟩
  · rw [rawPresence, hdocument]
    rfl
  · exact validate_eq_ok_iff.mp hvalid
  · exact validatePresence_eq_ok_iff.mp hpresence

/-- Files that are compared were both loaded. -/
theorem compare_eq_ok {ob oc : RangeOrder Str} {absOrOriginal : Str → Str}
    {baselinePath candidatePath now : Str} {d : Diff}
    (h : compare files explain ob oc absOrOriginal baselinePath candidatePath now = .ok d) :
  ∃ baseline candidate, (∃ blob v, LoadedFrom files baselinePath baseline blob v) ∧
    (∃ blob v, LoadedFrom files candidatePath candidate blob v) ∧
    build ob oc baseline candidate now = .ok d
  := by
  simp only [compare, bind_eq_ok_iff] at h
  obtain ⟨baseline, hbaseline, candidate, hcandidate, _, -, hbuild⟩ := h
  obtain ⟨blob, v, hb⟩ := loadEvidence_eq_ok hbaseline
  obtain ⟨blob', v', hc⟩ := loadEvidence_eq_ok hcandidate
  refine ⟨_, _, ⟨blob, v, ?_⟩, ⟨blob', v', ?_⟩, hbuild⟩
  · exact ⟨hb.content, hb.document, hb.keys, hb.report, hb.present, hb.valid, hb.required⟩
  · exact ⟨hc.content, hc.document, hc.keys, hc.report, hc.present, hc.valid, hc.required⟩

/-! ### The order of members is without meaning -/

/-- A decoder does not notice that members of an unambiguous document were permuted. -/
theorem decode_shuffled {α : Type} (c : Codec α) {v v' : Value} (hv : Unambiguous v)
    (h : Shuffled v v') :
  c.decode v' = c.decode v
  := (c.stable v v' hv h c.zero).symm

/-- The scan of a document that is one value does not give up. -/
theorem scanDocument_ne_malformed {ls : List Lexeme} {v : Value}
    (h : parseDocument ls = some v) :
  scanDocument ls ≠ .error .malformed
  := by
  intro hscan
  have houtcome := scanDocument_outcome h
  rw [hscan] at houtcome
  exact houtcome rfl

/-- A document that is loaded has no object, at any depth, with two keys that bind to one
field, so that its members may be permuted without changing what is decoded; and where the
scan for such keys stops because the document is malformed or too deep, the document is not
loaded. -/
theorem loadEvidence_unambiguous (files : Files) (explain : Str → Str) (path side : Str) :
  (∀ ev, loadEvidence files explain path side = .ok ev →
    ∃ blob v, files path = .ok blob ∧ parseDocument (lexemes blob) = some v ∧
      (∀ ms, Within (.object ms) v → DistinctKeys ms ∧ BindOnce ms) ∧
      ∀ v', Shuffled v v' → reportJSON.decode v' = some ev.report ∧
        presenceOf (rawPresenceJSON.decode v') ev.report.targets.length
          = (ev.requiredPresent, ev.commandExitCodePresent)) ∧
  ∀ blob, files path = .ok blob →
    scanDocument (lexemes blob) = .error .malformed ∨
      scanDocument (lexemes blob) = .error .tooDeep →
    ∀ ev, loadEvidence files explain path side ≠ .ok ev
  := by
  constructor
  · intro ev h
    obtain ⟨blob, v, hloaded⟩ := loadEvidence_eq_ok h
    have hv := unambiguous_of_not_rejected hloaded.document hloaded.keys
    refine ⟨blob, v, hloaded.content, hloaded.document, ?_, ?_⟩
    · intro ms hms
      have hdistinct := hv.distinctKeys hms
      use hdistinct, hdistinct.bindOnce
    · intro v' hshuffled
      rw [decode_shuffled reportJSON hv hshuffled, decode_shuffled rawPresenceJSON hv hshuffled]
      use hloaded.report, hloaded.present.symm
  · intro blob hblob hscan ev h
    obtain ⟨blob', v, hloaded⟩ := loadEvidence_eq_ok h
    obtain rfl : blob = blob' := by
      have hcontent := hloaded.content
      rw [hblob] at hcontent
      exact Except.ok.inj hcontent
    obtain hscan | hscan := hscan
    · exact scanDocument_ne_malformed hloaded.document hscan
    · have hkeys := hloaded.keys
      rw [rejectDuplicateKeys, hscan] at hkeys
      cases hkeys

end

end

section

attribute [local instance] asciiTables

/-- Every path holds the document of a report with one target and nothing else. -/
def sampleFiles : Files := fun _ =>
  .ok (str "\x7b\"targets\":[\x7b\"profile_id\":\"a\",\"required\":true\x7d]\x7d")

theorem loadEvidence_unambiguous_sample :
  ∃ ev, loadEvidence sampleFiles (fun _ => []) [] [] = .ok ev ∧
    ∃ blob v, sampleFiles [] = .ok blob ∧ parseDocument (lexemes blob) = some v ∧
      (∀ ms, Within (.object ms) v → DistinctKeys ms ∧ BindOnce ms) ∧
      ∀ v', Shuffled v v' → reportJSON.decode v' = some ev.report ∧
        presenceOf (rawPresenceJSON.decode v') ev.report.targets.length
          = (ev.requiredPresent, ev.commandExitCodePresent)
  := by
  have hloaded : (loadEvidence sampleFiles (fun _ => []) [] []).isOk = true := by
    decide +kernel
  cases h : loadEvidence sampleFiles (fun _ => []) [] [] with
  | error e =>
      rw [h] at hloaded
      cases hloaded
  | ok ev =>
      use ev, rfl
      exact (loadEvidence_unambiguous sampleFiles (fun _ => []) [] []).1 ev h

end

end RegressionDiff
