import BpfCompat.Agent.Ledger
import BpfCompat.Go.Json.Lines
import BpfCompat.Go.Path

/-!
# The file of the load ledger

The ledger is a file of lines, one for each entry, that is only ever appended to.  It is read line by
line through a buffer of bounded size.

What was appended is listed, and the last successful load found, exactly if every line fits the
buffer, no text has stray bytes, and no name has white space around it (`ledger_reads_back_iff`).
-/

namespace Agent

open Go Go.Json

/-! ### Entries -/

/-- An entry with all its members. -/
structure LoadLedgerRecord extends LoadLedgerEntry where
  schemaVersion : Str := []
  entryID : Str := []
  createdAt : Str := []
  approvalPinsRequired : Bool := false
  approvalPinsVerified : Bool := false
  approvalExpectedDecisionID : Str := []
  approvalExpectedSHA256 : Str := []
  manifestIntentRequired : Bool := false
  manifestIntentVerified : Bool := false
  manifestPath : Str := []
  manifestProgramCount : Int64 := 0
  policyRule : Str := []
  policyAction : Str := []
  policyReason : Str := []
  executionRunDir : Str := []
  auditTracePath : Str := []
  pins : List Str := []
deriving DecidableEq

section

variable [UnicodeTables]

/-- The members of an entry. -/
@[reducible]
def loadLedgerFields :=
  (Fields.field "schema_version" string).pair <|
    (Fields.field "entry_id" string).pair <|
    (Fields.field "created_at" string).pair <|
    (Fields.field "operation" string).pair <|
    (Fields.field "status" string).pair <|
    (Fields.omitempty "agent_id" string).pair <|
    (Fields.omitempty "tenant" string).pair <|
    (Fields.omitempty "project" string).pair <|
    (Fields.omitempty "artifact_name" string).pair <|
    (Fields.omitempty "selected_version" string).pair <|
    (Fields.omitempty "selected_sha256" string).pair <|
    (Fields.omitempty "artifact_path" string).pair <|
    (Fields.omitempty "decision_id" string).pair <|
    (Fields.omitempty "target_profile" string).pair <|
    (Fields.omitempty "host_profile_hint" string).pair <|
    (Fields.field "load_approved" bool).pair <|
    (Fields.omitempty "approval_pins_required" bool).pair <|
    (Fields.omitempty "approval_pins_verified" bool).pair <|
    (Fields.omitempty "approval_expected_decision_id" string).pair <|
    (Fields.omitempty "approval_expected_sha256" string).pair <|
    (Fields.omitempty "manifest_intent_required" bool).pair <|
    (Fields.omitempty "manifest_intent_verified" bool).pair <|
    (Fields.omitempty "manifest_path" string).pair <|
    (Fields.omitempty "manifest_program_count" int64).pair <|
    (Fields.omitempty "policy_rule" string).pair <|
    (Fields.omitempty "policy_action" string).pair <|
    (Fields.omitempty "policy_reason" string).pair <|
    (Fields.omitempty "execution_run_dir" string).pair <|
    (Fields.omitempty "audit_trace_path" string).pair <|
    (Fields.omitempty "previous_loaded_version" string).pair <|
    (Fields.omitempty "previous_loaded_sha256" string).pair <|
    (Fields.omitempty "previous_loaded_artifact_path" string).pair <|
    (Fields.omitempty "rollback_hint" string).pair <|
    (Fields.omitempty "error" string).pair <|
    (Fields.omitempty "pins" (slice string)).pair <|
    Fields.omitempty "notes" (slice string)

/-- An entry as the values of its members. -/
def loadLedgerEquiv :
    LoadLedgerRecord ≃ Str × Str × Str × Str × Str × Str × Str × Str × Str × Str × Str × Str × Str ×
      Str × Str × Bool × Bool × Bool × Str × Str × Bool × Bool × Str × Int64 × Str × Str × Str ×
      Str × Str × Str × Str × Str × Str × Str × List Str × List Str :=
  ⟨fun r => (r.schemaVersion, r.entryID, r.createdAt, r.operation, r.status, r.agentID, r.tenant,
      r.project, r.artifactName, r.selectedVersion, r.selectedSHA256, r.artifactPath, r.decisionID,
      r.targetProfile, r.hostProfileHint, r.loadApproved, r.approvalPinsRequired,
      r.approvalPinsVerified, r.approvalExpectedDecisionID, r.approvalExpectedSHA256,
      r.manifestIntentRequired, r.manifestIntentVerified, r.manifestPath, r.manifestProgramCount,
      r.policyRule, r.policyAction, r.policyReason, r.executionRunDir, r.auditTracePath,
      r.previousLoadedVersion, r.previousLoadedSHA256, r.previousLoadedArtifactPath, r.rollbackHint,
      r.error, r.pins, r.notes),
    fun (schemaVersion, entryID, createdAt, operation, status, agentID, tenant, project,
        artifactName, selectedVersion, selectedSHA256, artifactPath, decisionID, targetProfile,
        hostProfileHint, loadApproved, approvalPinsRequired, approvalPinsVerified,
        approvalExpectedDecisionID, approvalExpectedSHA256, manifestIntentRequired,
        manifestIntentVerified, manifestPath, manifestProgramCount, policyRule, policyAction,
        policyReason, executionRunDir, auditTracePath, previousLoadedVersion, previousLoadedSHA256,
        previousLoadedArtifactPath, rollbackHint, error, pins, notes) =>
      { schemaVersion, entryID, createdAt, operation, status, agentID, tenant, project,
        artifactName, selectedVersion, selectedSHA256, artifactPath, decisionID, targetProfile,
        hostProfileHint, loadApproved, approvalPinsRequired, approvalPinsVerified,
        approvalExpectedDecisionID, approvalExpectedSHA256, manifestIntentRequired,
        manifestIntentVerified, manifestPath, manifestProgramCount, policyRule, policyAction,
        policyReason, executionRunDir, auditTracePath, previousLoadedVersion, previousLoadedSHA256,
        previousLoadedArtifactPath, rollbackHint, error, pins, notes },
    fun _ => rfl, fun _ => rfl⟩

theorem nodup_loadLedger :
  loadLedgerFields.names.Nodup
  := by
  simp [str_inj]

def loadLedgerJSON : Codec LoadLedgerRecord :=
  struct loadLedgerFields loadLedgerEquiv nodup_loadLedger

instance marshalsLoadLedger : Marshals loadLedgerJSON :=
  inferInstanceAs (Marshals (struct loadLedgerFields loadLedgerEquiv nodup_loadLedger))

theorem depth_loadLedger :
  loadLedgerJSON.depth ≤ maxNestingDepth
  := by
  simp [loadLedgerJSON, struct, maxNestingDepth, string, int64, Json.bool, slice]

/-- The texts of an entry. -/
def LoadLedgerRecord.texts (r : LoadLedgerRecord) : List Str :=
  [r.schemaVersion, r.entryID, r.createdAt, r.operation, r.status, r.agentID, r.tenant, r.project,
    r.artifactName, r.selectedVersion, r.selectedSHA256, r.artifactPath, r.decisionID,
    r.targetProfile, r.hostProfileHint, r.approvalExpectedDecisionID, r.approvalExpectedSHA256,
    r.manifestPath, r.policyRule, r.policyAction, r.policyReason, r.executionRunDir,
    r.auditTracePath, r.previousLoadedVersion, r.previousLoadedSHA256, r.previousLoadedArtifactPath,
    r.rollbackHint, r.error] ++ r.pins ++ r.notes

/-- An entry survives if it has no stray bytes. -/
theorem canon_loadLedger_eq_iff {r : LoadLedgerRecord} :
  loadLedgerJSON.canon r = r ↔ ∀ s ∈ r.texts, toValidUTF8 s = s
  := by
  have hcanon : loadLedgerEquiv (loadLedgerJSON.canon r)
      = loadLedgerFields.canon (loadLedgerEquiv r) := rfl
  rw [← loadLedgerEquiv.injective.eq_iff, hcanon]
  simp only [loadLedgerEquiv, Equiv.coe_fn_mk, Fields.pair, Fields.field, Fields.omitempty,
    Prod.mk.injEq, string, int64, Json.bool, slice, map_toValidUTF8_eq_iff, LoadLedgerRecord.texts,
    List.forall_mem_append, List.forall_mem_cons, List.not_mem_nil, false_imp_iff, implies_true,
    true_and, and_assoc]

/-- The line of an entry. -/
def marshalEntry (r : LoadLedgerRecord) : Str := marshal loadLedgerJSON r

/-- The entry a line denotes. -/
def unmarshalEntry (line : Str) : Option LoadLedgerRecord :=
  (parseDocument (lexemes line)).bind loadLedgerJSON.decode

end

/-! ### Appending -/

def loadLedgerSchemaVersion : Str := str "agent_load_ledger.v0.1"

def loadLedgerPath (workDir : Str) : Str :=
  let cleanWorkDir := trimSpace workDir
  joinPath [clean (if cleanWorkDir = [] then str ".bpfcompat" else cleanWorkDir),
    str "agent-load-ledger.jsonl"]

/-- What an append meets: the hour, a new identifier, and the failures of the file system, with how
many bytes are written if writing fails. -/
structure LedgerHost where
  now : Str
  newDecisionID : Except Str Str
  mkdirAll : Option Str := none
  openFile : Option Str := none
  write : Option (Str × Nat) := none
  close : Option Str := none

/-- An entry with its blanks filled in. -/
def completeEntry (w : LedgerHost) (entry : LoadLedgerRecord) : Except Str LoadLedgerRecord :=
  let entry := { entry with
    schemaVersion :=
      if entry.schemaVersion = [] then loadLedgerSchemaVersion else entry.schemaVersion
    createdAt := if entry.createdAt = [] then w.now else entry.createdAt }
  if entry.entryID ≠ [] then .ok entry
  else
    match w.newDecisionID with
    | .error e => .error (str "generate load ledger entry id: " ++ e)
    | .ok id => .ok { entry with entryID := id }

namespace LedgerFile

section

variable [UnicodeTables]

/-- The path of the ledger and the file after an append.  A write that fails may leave a part of the
line. -/
def appendLoadLedgerEntry (w : LedgerHost) (workDir : Str) (file : Option Str)
    (entry : LoadLedgerRecord) : Except Str Str × Option Str :=
  match completeEntry w entry with
  | .error e => (.error e, file)
  | .ok entry =>
    let text := file.getD []
    let line := marshalEntry entry ++ [10]
    match w.mkdirAll, w.openFile, w.write, w.close with
    | some e, _, _, _ => (.error (str "create load ledger directory: " ++ e), file)
    | none, some e, _, _ => (.error (str "open load ledger: " ++ e), file)
    | none, none, some (e, n), _ =>
      (.error (str "write load ledger entry: " ++ e), some (text ++ line.take n))
    | none, none, none, some e => (.error (str "close load ledger: " ++ e), some (text ++ line))
    | none, none, none, none => (.ok (loadLedgerPath workDir), some (text ++ line))

/-! ### Reading -/

/-- The size of the buffer of the scanner. -/
def maxLedgerLine : Nat := 4 * 1024 * 1024

/-- The entries of the lines in turn; blank lines are skipped.  What the decoder says of a line that
denotes no entry is left out of the error. -/
def decodeLines : List Str → Except Str (List LoadLedgerRecord)
  | [] => .ok []
  | line :: rest =>
    if trimSpace line = [] then decodeLines rest
    else
      match unmarshalEntry (trimSpace line) with
      | none => .error (str "decode load ledger entry")
      | some entry => (decodeLines rest).map (entry :: ·)

/-- The entries of a ledger.  The scanner stops at a line that does not fit its buffer. -/
def readEntries (text : Str) : Except Str (List LoadLedgerRecord) := do
  let fitting := (lines text).takeWhile (·.length < maxLedgerLine)
  let entries ← decodeLines (fitting.map dropCR)
  if fitting.length < (lines text).length then
    .error (str "read load ledger: bufio.Scanner: token too long")
  else .ok entries

def listLoadLedgerEntries (openError : Option Str) (file : Option Str) (artifactName : Str)
    (limit : Int) : Except Str (List LoadLedgerRecord) :=
  match openError, file with
  | some e, _ => .error (str "open load ledger: " ++ e)
  | none, none => .ok []
  | none, some text => do
    let artifactName := trimSpace artifactName
    let entries ← readEntries text
    let entries := (entries.filter fun entry =>
      artifactName = [] || entry.artifactName = artifactName).reverse
    .ok (if 0 < limit then entries.take limit.toNat else entries)

def lastSuccessfulLoad (openError : Option Str) (file : Option Str) (artifactName : Str) :
    Except Str (Option LoadLedgerRecord) :=
  (listLoadLedgerEntries openError file artifactName 0).map fun entries =>
    entries.find? fun entry => entry.isSuccessfulLoad

/-- The entries read are those the ledger of the apply runs is kept as. -/
theorem listLoadLedgerEntries_eq {text : Str} {es : List LoadLedgerRecord}
    (h : readEntries text = .ok es) (artifactName : Str) (limit : Nat) :
  (listLoadLedgerEntries none (some text) artifactName limit).map
      (List.map LoadLedgerRecord.toLoadLedgerEntry)
    = .ok (Agent.listLoadLedgerEntries (es.map LoadLedgerRecord.toLoadLedgerEntry) artifactName
        limit)
  := by
  simp only [listLoadLedgerEntries, h, Agent.listLoadLedgerEntries, List.filter_map,
    ← List.map_reverse, ← List.map_take]
  show Except.ok (List.map _ (if 0 < (limit : Int) then _ else _)) = _
  by_cases hlimit : 0 < limit
  · rw [if_pos hlimit, if_pos (Int.natCast_pos.mpr hlimit), Int.toNat_natCast]
    rfl
  · rw [if_neg hlimit, if_neg (by rwa [Int.natCast_pos])]
    rfl

/-! ### What is written is read back -/

theorem unmarshalEntry_marshalEntry (e : LoadLedgerRecord) :
  unmarshalEntry (marshalEntry e) = some (loadLedgerJSON.canon e)
  := decode_marshal loadLedgerJSON depth_loadLedger e

theorem dropCR_marshalEntry (e : LoadLedgerRecord) :
  dropCR (marshalEntry e) = marshalEntry e
  := dropCR_marshal loadLedgerJSON e

theorem decodeLines_marshalEntry (es : List LoadLedgerRecord) :
  decodeLines (es.map marshalEntry) = .ok (es.map loadLedgerJSON.canon)
  := by
  induction es with
  | nil => rfl
  | cons e es ih =>
      have htrim : trimSpace (marshalEntry e) = marshalEntry e :=
        trimSpace_marshal_struct loadLedgerFields loadLedgerEquiv nodup_loadLedger e
      have hne : marshalEntry e ≠ [] := marshal_ne_nil loadLedgerJSON depth_loadLedger e
      rw [List.map_cons, decodeLines, htrim, if_neg hne, unmarshalEntry_marshalEntry, ih]
      rfl

/-- The line of the entry fits the buffer of the scanner. -/
def Fits (e : LoadLedgerRecord) : Prop := (marshalEntry e).length < maxLedgerLine

instance (e : LoadLedgerRecord) : Decidable (Fits e) :=
  inferInstanceAs (Decidable ((marshalEntry e).length < maxLedgerLine))

/-- One line that does not fit makes the whole ledger unreadable. -/
theorem readEntries_unlines (es : List LoadLedgerRecord) :
  readEntries (unlines (es.map marshalEntry))
    = if ∀ e ∈ es, Fits e then .ok (es.map loadLedgerJSON.canon)
      else .error (str "read load ledger: bufio.Scanner: token too long")
  := by
  have hlines : lines (unlines (es.map marshalEntry)) = es.map marshalEntry :=
    lines_unlines_marshal loadLedgerJSON es
  have hfitting : (es.map marshalEntry).takeWhile (·.length < maxLedgerLine)
      = (es.takeWhile (decide <| Fits ·)).map marshalEntry := by
    rw [List.takeWhile_map]
    rfl
  have hcr : ∀ es : List LoadLedgerRecord,
      (es.map marshalEntry).map dropCR = es.map marshalEntry := by
    intro es
    rw [List.map_map]
    apply List.map_congr_left
    intro e _
    rw [Function.comp_apply, dropCR_marshalEntry]
  have hall : (es.takeWhile (decide <| Fits ·)).length < es.length ↔ ¬ ∀ e ∈ es, Fits e :=
    length_takeWhile_lt_iff
  rw [readEntries]
  simp only [hlines, hfitting, hcr, decodeLines_marshalEntry, List.length_map, hall]
  split_ifs with hfits
  · have hself : es.takeWhile (decide <| Fits ·) = es := by
      rw [List.takeWhile_eq_self_iff]
      simpa using hfits
    rw [hself]
    rfl
  · rfl

/-! ### Appended entries -/

/-- The entries that were appended, as they were completed, and the file they make up. -/
inductive Appended : List LoadLedgerRecord → Option Str → Prop
  | nil : Appended [] none
  | append {es : List LoadLedgerRecord} {file file' : Option Str} {w : LedgerHost}
      {workDir path : Str} {entry e : LoadLedgerRecord} (previous : Appended es file)
      (complete : completeEntry w entry = .ok e)
      (accepted : appendLoadLedgerEntry w workDir file entry = (.ok path, file')) :
      Appended (es ++ [e]) file'

theorem appendLoadLedgerEntry_eq_ok {w : LedgerHost} {workDir path : Str} {file file' : Option Str}
    {entry e : LoadLedgerRecord} (complete : completeEntry w entry = .ok e)
    (accepted : appendLoadLedgerEntry w workDir file entry = (.ok path, file')) :
  file' = some (file.getD [] ++ unlines [marshalEntry e])
  := by
  rw [appendLoadLedgerEntry, complete] at accepted
  rw [unlines_singleton]
  obtain ⟨now, newID, mkdir, openFile, write, close⟩ := w
  cases mkdir <;> cases openFile <;> cases write <;> cases close <;> cases accepted
  rfl

/-- An accepted append adds the line of the entry. -/
theorem Appended.text {es : List LoadLedgerRecord} {file : Option Str} (h : Appended es file) :
  file.getD [] = unlines (es.map marshalEntry) ∧ (file = none → es = [])
  := by
  induction h with
  | nil => exact ⟨rfl, fun _ => rfl⟩
  | append _ complete accepted ih =>
      rw [appendLoadLedgerEntry_eq_ok complete accepted, Option.getD_some, ih.1, ← unlines_append,
        List.map_append, List.map_singleton]
      simp

/-- The newest of the entries with a property, the newest first; all of them unless there is a
positive limit. -/
def newest (p : LoadLedgerRecord → Bool) (limit : Int) (es : List LoadLedgerRecord) :
    List LoadLedgerRecord :=
  let found := es.reverse.filter p
  if 0 < limit then found.take limit.toNat else found

omit [UnicodeTables] in
theorem mem_newest {p : LoadLedgerRecord → Bool} {es : List LoadLedgerRecord}
    {e : LoadLedgerRecord} :
  e ∈ newest p 0 es ↔ e ∈ es ∧ p e = true
  := by
  rw [newest, if_neg (Int.lt_irrefl 0), List.mem_filter, List.mem_reverse]

omit [UnicodeTables] in
theorem newest_all {p : LoadLedgerRecord → Bool} (h : ∀ e, p e = true)
    (es : List LoadLedgerRecord) :
  newest p 0 es = es.reverse
  := by
  rw [newest, if_neg (Int.lt_irrefl 0), List.filter_eq_self]
  exact fun e _ => h e

/-- The entry is one of the artifact, white space around the names apart; a blank name stands for all
artifacts. -/
def isOf (artifactName : Str) (e : LoadLedgerRecord) : Bool :=
  trimSpace artifactName = [] || trimSpace e.artifactName = trimSpace artifactName

/-- The ledger gives back the entries: those of an artifact up to a limit, and the last load of an
artifact that succeeded. -/
def ReadsBack (es : List LoadLedgerRecord) (file : Option Str) : Prop :=
  (∀ artifactName limit, listLoadLedgerEntries none file artifactName limit
      = .ok (newest (isOf artifactName) limit es)) ∧
    ∀ artifactName, lastSuccessfulLoad none file artifactName
      = .ok (es.reverse.find? fun e => isOf artifactName e && e.isSuccessfulLoad)

/-- The entries a listing looks for: names are compared as they were stored. -/
def isStoredAs (artifactName : Str) (e : LoadLedgerRecord) : Bool :=
  trimSpace artifactName = [] || e.artifactName = trimSpace artifactName

theorem listLoadLedgerEntries_of_appended {es : List LoadLedgerRecord} {file : Option Str}
    (h : Appended es file) (artifactName : Str) (limit : Int) :
  listLoadLedgerEntries none file artifactName limit
    = if ∀ e ∈ es, Fits e then
        .ok (newest (isStoredAs artifactName) limit (es.map loadLedgerJSON.canon))
      else .error (str "read load ledger: bufio.Scanner: token too long")
  := by
  obtain ⟨htext, hnone⟩ := h.text
  cases file with
  | none =>
      rw [hnone rfl]
      simp [listLoadLedgerEntries, newest]
  | some text =>
      rw [Option.getD_some] at htext
      simp only [listLoadLedgerEntries, htext, readEntries_unlines]
      split_ifs with hfits hlimit hlimit
      · simp only [newest, if_pos hlimit, List.filter_reverse]
        rfl
      · simp only [newest, if_neg hlimit, List.filter_reverse]
        rfl
      · rfl
      · rfl

/-- A ledger that can be listed at all gives back all its entries. -/
theorem fits_of_list {es found : List LoadLedgerRecord} {file : Option Str} (h : Appended es file)
    (hlist : listLoadLedgerEntries none file [] 0 = .ok found) :
  (∀ e ∈ es, Fits e) ∧ found = (es.map loadLedgerJSON.canon).reverse
  := by
  rw [listLoadLedgerEntries_of_appended h] at hlist
  split_ifs at hlist with hfits
  rw [Except.ok.injEq] at hlist
  refine ⟨hfits, ?_⟩
  rw [← hlist]
  apply newest_all
  exact fun _ => rfl

theorem lastSuccessfulLoad_of_appended {es : List LoadLedgerRecord} {file : Option Str}
    (h : Appended es file) (hfits : ∀ e ∈ es, Fits e) (artifactName : Str) :
  lastSuccessfulLoad none file artifactName
    = .ok ((es.map loadLedgerJSON.canon).reverse.find? fun e =>
        isStoredAs artifactName e && e.isSuccessfulLoad)
  := by
  rw [lastSuccessfulLoad, listLoadLedgerEntries_of_appended h, if_pos hfits]
  simp only [newest, Int.lt_irrefl, if_false, Except.map, List.find?_filter]
  congr 2
  funext e
  rw [Bool.decide_and, Bool.decide_eq_true, Bool.decide_eq_true]

/-! ### The entries that can be kept -/

/-- The entry fits the buffer of the scanner, its texts have no stray bytes, and its name has no white
space around it, unless it is blank. -/
structure Keepable (e : LoadLedgerRecord) : Prop where
  fits : Fits e
  valid : ∀ s ∈ e.texts, toValidUTF8 s = s
  trimmed : trimSpace e.artifactName = e.artifactName ∨ trimSpace e.artifactName = []

theorem map_canon_eq_iff {es : List LoadLedgerRecord} :
  es.map loadLedgerJSON.canon = es ↔ ∀ e ∈ es, ∀ s ∈ e.texts, toValidUTF8 s = s
  := by
  conv_lhs => rhs; rw [← List.map_id es]
  rw [List.map_inj_left]
  exact forall₂_congr fun e _ => canon_loadLedger_eq_iff

omit [UnicodeTables] in
/-- The name of the entry is compared as if it had no white space around it. -/
theorem isStoredAs_eq_isOf {e : LoadLedgerRecord}
    (h : trimSpace e.artifactName = e.artifactName ∨ trimSpace e.artifactName = [])
    (artifactName : Str) :
  isStoredAs artifactName e = isOf artifactName e
  := by
  rw [isStoredAs, isOf]
  rcases h with htrim | hblank
  · rw [htrim]
  · -- A name that is not blank is not a blank one once the white space is off.
    by_cases hname : trimSpace artifactName = []
    · simp [hname]
    · have hne : e.artifactName ≠ trimSpace artifactName := by
        intro heq
        rw [heq, trimSpace_trimSpace] at hblank
        exact hname hblank
      simp [hname, hne, hblank, Ne.symm hname]

/-- The ledger gives back the entries that were appended exactly if each of them can be kept. -/
theorem ledger_reads_back_iff {es : List LoadLedgerRecord} {file : Option Str}
    (h : Appended es file) :
  ReadsBack es file ↔ ∀ e ∈ es, Keepable e
  := by
  constructor
  · rintro ⟨hlist, -⟩ e he
    obtain ⟨hfits, hall⟩ := fits_of_list h (hlist [] 0)
    have hcanon : es.map loadLedgerJSON.canon = es := by
      have hblank : ∀ e, isOf [] e = true := fun _ => rfl
      rw [newest_all hblank, List.reverse_inj] at hall
      exact hall.symm
    refine ⟨hfits e he, map_canon_eq_iff.mp hcanon e he, ?_⟩
    -- The entry is asked for under its own name.
    have hown := hlist e.artifactName 0
    rw [listLoadLedgerEntries_of_appended h, if_pos hfits, Except.ok.injEq, hcanon] at hown
    have hmem : e ∈ newest (isStoredAs e.artifactName) 0 es := by
      rw [hown, mem_newest]
      exact ⟨he, by simp [isOf]⟩
    have hname := (mem_newest.mp hmem).2
    simp only [isStoredAs, Bool.or_eq_true, decide_eq_true_eq] at hname
    exact hname.symm.imp_left Eq.symm
  · intro hkeep
    have hfits : ∀ e ∈ es, Fits e := fun e he => (hkeep e he).fits
    have hcanon : es.map loadLedgerJSON.canon = es :=
      map_canon_eq_iff.mpr fun e he => (hkeep e he).valid
    have hnames : ∀ artifactName, ∀ e ∈ es.reverse,
        isStoredAs artifactName e = isOf artifactName e := by
      intro artifactName e he
      exact isStoredAs_eq_isOf (hkeep e (List.mem_reverse.mp he)).trimmed artifactName
    constructor
    · intro artifactName limit
      rw [listLoadLedgerEntries_of_appended h, if_pos hfits, hcanon, newest, newest,
        List.filter_congr (hnames artifactName)]
    · intro artifactName
      rw [lastSuccessfulLoad_of_appended h hfits, hcanon, List.find?_congr]
      intro e he
      rw [hnames artifactName e he]

/-! ### An entry that is too long -/

/-- The line of an entry holds the text of its error. -/
theorem length_error_lt {e : LoadLedgerRecord} (hne : e.error ≠ [])
    (h : ∀ b ∈ e.error, isPlain b = true) :
  e.error.length < (marshalEntry e).length
  := by
  have hlength : (marshalEntry e).length
      = membersLength (MarshalsFields.raw loadLedgerFields (loadLedgerEquiv e)) + 1 := by
    apply length_compact_object
    apply List.append_ne_nil_of_left_ne_nil
    apply List.cons_ne_nil
  have herror := Registry.optionalBytes_plain "error" hne h
  rw [Registry.optionalBytes] at herror
  simp only [hlength, membersLength_pair, loadLedgerEquiv, Equiv.coe_fn_mk, herror]
  omega

/-- A host on which an append succeeds. -/
def quietHost : LedgerHost where
  now := str "2026-01-01T00:00:00Z"
  newDecisionID := .ok (str "0102")

/-- What an entry of a load of `falco` is completed to, with the text of an error. -/
def falcoEntry (error : Str) : LoadLedgerRecord where
  schemaVersion := loadLedgerSchemaVersion
  entryID := str "0102"
  createdAt := str "2026-01-01T00:00:00Z"
  operation := str "load"
  status := str "pass"
  artifactName := str "falco"
  error := error

theorem appended_falcoEntry (error : Str) :
  Appended [falcoEntry error] (some (marshalEntry (falcoEntry error) ++ [10]))
  := by
  have accepted : appendLoadLedgerEntry quietHost [] none { falcoEntry error with entryID := [] }
      = (.ok (loadLedgerPath []), some (marshalEntry (falcoEntry error) ++ [10])) := rfl
  exact .append .nil rfl accepted

end

attribute [local instance] asciiTables

/-- The entry of a load that succeeded is listed and found. -/
theorem falco_reads_back :
  ReadsBack [falcoEntry []] (some (marshalEntry (falcoEntry []) ++ [10]))
  := by
  apply (ledger_reads_back_iff (appended_falcoEntry [])).mpr
  rw [List.forall_mem_singleton]
  constructor
  · decide +kernel
  · decide +kernel
  · left
    rfl

/-- An error of 4 MiB. -/
def longError : Str := List.replicate maxLedgerLine 'x'.toUInt8

theorem length_longError :
  longError.length = maxLedgerLine
  := List.length_replicate

theorem isPlain_longError :
  ∀ b ∈ longError, isPlain b = true
  := by
  intro b hb
  rw [List.eq_of_mem_replicate hb]
  decide

/-- An entry with an error of 4 MiB is accepted, and the ledger cannot be read any more. -/
theorem long_error_unreadable :
  Appended [falcoEntry longError] (some (marshalEntry (falcoEntry longError) ++ [10])) ∧
    ¬ ReadsBack [falcoEntry longError] (some (marshalEntry (falcoEntry longError) ++ [10]))
  := by
  have happended := appended_falcoEntry longError
  use happended
  rintro ⟨hlist, -⟩
  have hfits : Fits (falcoEntry longError) :=
    (fits_of_list happended (hlist [] 0)).1 _ (List.mem_singleton_self _)
  have hne : (falcoEntry longError).error ≠ [] := by
    apply List.ne_nil_of_length_pos
    rw [falcoEntry, length_longError]
    decide
  have hlong := length_error_lt hne isPlain_longError
  rw [falcoEntry, length_longError] at hlong
  exact Nat.lt_asymm hlong hfits

end LedgerFile

end Agent
