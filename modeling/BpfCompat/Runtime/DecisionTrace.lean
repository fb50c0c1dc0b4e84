import BpfCompat.Audit.Rotation
import BpfCompat.Go.Join
import BpfCompat.Runtime.Execute
import BpfCompat.Runtime.Fetch
import BpfCompat.Runtime.Select

/-!
# Decision traces

Every runtime decision is written to a file of its own below the work directory, named by the id of
the decision, and to a line of the stream of decisions.  The id may come from a caller.  It is joined
to the directory of the traces as a path: dot segments are resolved, and only ids that lead out of
the directory are refused.

Two ids that are accepted are written to two files right in the directory exactly if neither has a
directory part once it is cleaned, and they differ behind their last slash (`traces_apart_iff`).
-/

namespace Runtime

open Go

/-! ### Traces and events -/

structure ProbeOptions where
  preferPrivileged : Bool := false
  useSudo : Bool := false
  sudoNonInteractive : Bool := false

structure DecisionTrace where
  schemaVersion : Str := []
  decisionID : Str := []
  createdAt : Str := []
  source : Str := []
  operation : Str := []
  workDir : Str := []
  artifactName : Str := []
  requestedVersion : Str := []
  targetProfileID : Str := []
  policy : Option SelectionPolicy := none
  probe : Option ProbeOptions := none
  hostProbe : Option HostCapabilities := none
  selection : Option SelectionResult := none
  fetch : Option FetchResult := none
  execution : Option ExecuteResult := none
  status : Str := []
  error : Str := []
  notes : List Str := []

structure DecisionEvent where
  schemaVersion : Str
  decisionID : Str
  createdAt : Str
  source : Str
  operation : Str
  status : Str
  artifactName : Str
  requestedVersion : Str
  selectedVersion : Str
  executionStatus : Str
  tracePath : Str
deriving DecidableEq

structure DecisionPersistResult where
  decisionID : Str
  tracePath : Str
  eventStreamPath : Str
  event : DecisionEvent
deriving DecidableEq

def decisionTraceSchemaVersion : Str := str "runtime_decision_trace.v0.1"

def decisionEventSchemaVersion : Str := str "runtime_decision_event.v0.1"

/-- What a decision meets: the clock as the time of creation and as the front of an id, the random
suffix, the failures of the file system, and the encodings of a trace and of an event. -/
structure AuditHost where
  cwd : Str
  rooted : isAbs cwd = true
  getenv : Str → Str
  createdAt : Str
  stamp : Str
  randomHex : Except Str Str
  mkdirAll : Str → Option Str
  writeFile : Str → Option Str
  stream : Audit.Weather
  marshalTrace : DecisionTrace → Except Str Str
  marshalEvent : DecisionEvent → Except Str Str

/-- The traces by their absolute paths, and the stream of decisions. -/
structure AuditStore where
  traces : Files
  stream : Audit.Files

/-! ### The source -/

def decisionEventMaxBytesEnv : Str := str "BPFCOMPAT_RUNTIME_DECISIONS_MAX_BYTES"

def decisionEventMaxFilesEnv : Str := str "BPFCOMPAT_RUNTIME_DECISIONS_MAX_FILES"

def decisionRotationLimits (getenv : Str → Str) : Audit.RotationConfig where
  maxBytes := (atoi (trimSpace (getenv decisionEventMaxBytesEnv))).getD (64 * 2 ^ 20)
  maxFiles :=
    match atoi (trimSpace (getenv decisionEventMaxFilesEnv)) with
    | some n => if 1 ≤ n then n else 10
    | none => 10

def inferArtifactName (trace : DecisionTrace) : Str :=
  let selected := (trace.selection.map fun s => trimSpace s.artifactName).getD []
  if selected ≠ [] then selected
  else (trace.fetch.map fun f => trimSpace f.artifactName).getD []

def buildDecisionEvent (trace : DecisionTrace) (tracePath : Str) : DecisionEvent :=
  let selected := (trace.selection.map fun s => trimSpace s.selected.artifactVersion).getD []
  { schemaVersion := decisionEventSchemaVersion
    decisionID := trace.decisionID
    createdAt := trace.createdAt
    source := trace.source
    operation := trace.operation
    status := trace.status
    artifactName := trimSpace trace.artifactName
    requestedVersion := trimSpace trace.requestedVersion
    selectedVersion :=
      if selected ≠ [] then selected
      else (trace.fetch.map fun f => trimSpace f.artifactVersion).getD []
    executionStatus := (trace.execution.map fun e => trimSpace e.status).getD []
    tracePath := tracePath }

/-- The directory of the traces. -/
def decisionsDir (workDir : Str) : Str :=
  joinPath [clean (trimSpace workDir), str "runtime-audit", str "decisions"]

def eventStreamPath (workDir : Str) : Str :=
  joinPath [joinPath [clean (trimSpace workDir), str "registry"], str "runtime_decisions.jsonl"]

section

variable [CaseTables]

omit [CaseTables] in
/-- An id that is missing is made of the time and a suffix. -/
def fillDecisionID (w : AuditHost) (decisionID : Str) : Except Str Str :=
  if decisionID ≠ [] then .ok decisionID
  else
    match w.randomHex with
    | .error e => .error (str "generate decision id: " ++ e)
    | .ok suffix => .ok (w.stamp ++ str "-" ++ suffix)

/-- A trace with its blanks filled in. -/
def completeTrace (w : AuditHost) (workDir : Str) (trace : DecisionTrace) :
    Except Str DecisionTrace := do
  let workDir := trimSpace workDir
  if workDir = [] then .error (str "workdir is required")
  else
    let operation := trimSpace (toLower trace.operation)
    let source := trimSpace (toLower trace.source)
    if operation = [] then .error (str "decision operation is required")
    else
      let trace := { trace with
        workDir := clean workDir
        operation := operation
        source := if source = [] then str "unknown" else source
        schemaVersion :=
          if trace.schemaVersion = [] then decisionTraceSchemaVersion else trace.schemaVersion
        status := if trace.status = [] then str "success" else trace.status
        createdAt := if trace.createdAt = [] then w.createdAt else trace.createdAt }
      let decisionID ← fillDecisionID w trace.decisionID
      let trace := { trace with decisionID := decisionID }
      .ok { trace with
        artifactName :=
          if trace.artifactName = [] then inferArtifactName trace else trace.artifactName }

/-- The file of a trace and its bytes. -/
def resolveTrace (w : AuditHost) (workDir : Str) (trace : DecisionTrace) : Except Str (Str × Str) :=
  let traceDir := decisionsDir workDir
  match w.mkdirAll traceDir with
  | some e => .error (str "create runtime decision directory: " ++ e)
  | none =>
    match localJoin traceDir (trace.decisionID ++ str ".json") with
    | .error e => .error (str "resolve decision trace path: " ++ e)
    | .ok tracePath =>
      match w.marshalTrace trace with
      | .error e => .error (str "marshal decision trace: " ++ e)
      | .ok payload =>
        match w.writeFile tracePath with
        | some e => .error (str "write decision trace file: " ++ e)
        | none => .ok (tracePath, payload ++ [10])

end

/-- The line of a decision, appended to the stream. -/
def appendDecisionEvent (w : AuditHost) (workDir : Str) (event : DecisionEvent)
    (stream : Audit.Files) : Except Str Unit × Audit.Files :=
  match w.mkdirAll (joinPath [clean (trimSpace workDir), str "registry"]) with
  | some e => (.error (str "create registry directory for runtime decisions: " ++ e), stream)
  | none =>
    match w.marshalEvent event with
    | .error e => (.error (str "marshal decision event: " ++ e), stream)
    | .ok line =>
      match Audit.appendEvent Audit.rotateDecisionEventStreamIfNeeded
        (decisionRotationLimits w.getenv) w.stream line stream with
      | (.ok _, stream) => (.ok (), stream)
      | (.error (.rotation _), stream) =>
        (.error (str "rotate runtime decision event stream"), stream)
      | (.error (.stream .openStream), stream) =>
        (.error (str "open runtime decision event stream"), stream)
      | (.error (.stream .closeStream), stream) =>
        (.error (str "close runtime decision event stream"), stream)

def persistDecisionTrace [CaseTables] (w : AuditHost) (store : AuditStore) (workDir : Str)
    (trace : DecisionTrace) : Except Str DecisionPersistResult × AuditStore :=
  match completeTrace w workDir trace with
  | .error e => (.error e, store)
  | .ok trace =>
    match resolveTrace w workDir trace with
    | .error e => (.error e, store)
    | .ok (tracePath, payload) =>
      let traces := store.traces.set (absPath w.cwd tracePath) (some payload)
      let event := buildDecisionEvent trace tracePath
      match appendDecisionEvent w workDir event store.stream with
      | (.error e, stream) => (.error e, ⟨traces, stream⟩)
      | (.ok _, stream) =>
        (.ok {
          decisionID := trace.decisionID
          tracePath := tracePath
          eventStreamPath := eventStreamPath workDir
          event := event }, ⟨traces, stream⟩)

/-! ### The file of a trace -/

/-- The path is one component right inside the directory of the traces. -/
def Direct (workDir path : Str) : Prop := ∃ c, Name c ∧ path = decisionsDir workDir ++ 47 :: c

/-- The id has no directory part once it is cleaned. -/
def Flat (id : Str) : Prop := dir (id ++ str ".json") = str "."

theorem decisionsDir_cleaned (workDir : Str) :
  clean (decisionsDir workDir) = decisionsDir workDir ∧ kept (decisionsDir workDir) ≠ [] ∧
    decisionsDir workDir ≠ []
  := by
  have hjoin : decisionsDir workDir =
      clean ((clean (trimSpace workDir) ++ 47 :: str "runtime-audit") ++ 47 :: str "decisions") := by
    have hne : clean (trimSpace workDir) ≠ [] := clean_ne_nil _
    have haudit : str "runtime-audit" ≠ [] := by decide
    have hdecisions : str "decisions" ≠ [] := by decide
    simp [decisionsDir, joinPath, hne, haudit, hdecisions, join, str_slash]
  have hkept : kept (decisionsDir workDir) =
      kept (clean (trimSpace workDir) ++ 47 :: str "runtime-audit") ++ [str "decisions"] := by
    rw [hjoin, kept_clean, (kept_append (by simp) _).2, splitOn_of_notMem (by decide), List.foldl_cons,
      List.foldl_nil, pushComponent_name _ (by decide) (by decide) (by decide), List.reverse_cons,
      List.reverse_reverse]
  have hne : kept (decisionsDir workDir) ≠ [] := by
    rw [hkept]
    exact List.concat_ne_nil _ _
  refine ⟨?_, hne, ?_⟩
  · rw [hjoin, clean_clean]
  · intro hnil
    rw [hnil] at hne
    exact hne (by decide)

/-- The name a trace gets behind the last slash of its id. -/
theorem exists_trace_name (id : Str) :
  ∃ front c, id ++ str ".json" = front ++ c ∧ (front = [] ∨ ∃ s, front = s ++ [47]) ∧ Name c
  := by
  obtain ⟨front, last, rfl, hfront, hlast⟩ := exists_last_slash id
  refine ⟨front, last ++ str ".json", List.append_assoc _ _ _, hfront, Name.of_length ?_ ?_⟩
  · rw [List.length_append]
    exact Nat.lt_of_lt_of_le (by decide) (Nat.le_add_left 5 last.length)
  · rw [List.mem_append, not_or]
    exact ⟨hlast, by decide⟩

section

variable {workDir id path : Str}

/-- A path that was accepted for an id, by its components. -/
structure Accepted (workDir id path : Str) : Prop where
  relative : isAbs (id ++ str ".json") = false
  cleaned : clean path = path
  begins : isAbs path = isAbs (decisionsDir workDir)
  continues : kept path = kept (decisionsDir workDir) ++ kept (id ++ str ".json")

theorem accepted_of_localJoin [CaseTables]
    (h : localJoin (decisionsDir workDir) (id ++ str ".json") = .ok path) :
  Accepted workDir id path
  := by
  have hne : id ++ str ".json" ≠ [] := List.append_ne_nil_of_right_ne_nil id (by decide)
  have hsingle : joinPath [id ++ str ".json"] = clean (id ++ str ".json") := by
    simp [joinPath, hne, join]
  rw [localJoin, hsingle] at h
  split at h
  · cases h
  · rename_i hlocal
    rw [Bool.not_eq_true, Bool.not_eq_false'] at hlocal
    cases h
    obtain ⟨-, -, hdir⟩ := decisionsDir_cleaned workDir
    obtain ⟨habs, hclean⟩ := joinPath_pair hdir (clean (id ++ str ".json"))
    obtain ⟨hrelative, -⟩ := name_of_isLocal hlocal
    rw [isAbs_clean] at hrelative
    exact ⟨hrelative, hclean, habs, by rw [kept_joinPath_local hdir hlocal, kept_clean]⟩

/-- The trace is right in the directory exactly if the id is flat, under the last part of the id. -/
theorem Accepted.direct_iff (h : Accepted workDir id path) :
  (Direct workDir path ↔ Flat id) ∧
    (Flat id → Name (base (id ++ str ".json")) ∧
      path = joinPath [decisionsDir workDir, base (id ++ str ".json")])
  := by
  obtain ⟨front, c, hsplit, hfront, hc⟩ := exists_trace_name id
  obtain ⟨hclean, hkept, hdir⟩ := decisionsDir_cleaned workDir
  obtain ⟨habs, hcontinues⟩ := kept_append_name hfront hc
  have hbase : base (id ++ str ".json") = c := by
    rw [hsplit, base_append hfront hc.toComponent]
  have hrelative := h.relative
  rw [hsplit, habs] at hrelative
  have hcleaned := cleaned_kept front
  rw [hrelative] at hcleaned
  have hflat : Flat id ↔ kept front = [] := by
    rw [Flat, hsplit, dir_append hfront hc.slash, clean_eq_render, hrelative,
      render_eq_dot_iff hcleaned]
  have hpath : kept path = kept (decisionsDir workDir) ++ (kept front ++ [c]) := by
    rw [h.continues, hsplit, hcontinues]
  have hjoin : kept front = [] → path = joinPath [decisionsDir workDir, c] := by
    intro hnil
    obtain ⟨habs', hclean'⟩ := joinPath_pair hdir c
    apply clean_ext h.cleaned hclean' (h.begins.trans habs'.symm)
    rw [hpath, hnil, kept_joinPath_name hdir hc, List.nil_append]
  rw [hbase]
  refine ⟨?_, fun hid => ⟨hc, hjoin (hflat.mp hid)⟩⟩
  rw [hflat]
  constructor
  · rintro ⟨c', hc', rfl⟩
    rw [(kept_append hdir c').2, splitOn_of_notMem hc'.slash, List.foldl_cons, List.foldl_nil,
      hc'.push, List.reverse_cons, List.reverse_reverse, List.append_right_inj] at hpath
    have hlength := congrArg List.length hpath
    rw [List.length_append, List.length_singleton, List.length_singleton] at hlength
    exact List.length_eq_zero_iff.mp (by omega)
  · intro hnil
    refine ⟨c, hc, ?_⟩
    rw [hjoin hnil, joinPath_name hdir hc, render_append _ hkept, ← clean_eq_render, hclean]

end

/-! ### Two traces -/

/-- Two traces are in two files right in the directory, wherever the process runs. -/
structure Apart (workDir path path' : Str) : Prop where
  direct : Direct workDir path
  direct' : Direct workDir path'
  differ : ∀ cwd, isAbs cwd = true → absPath cwd path ≠ absPath cwd path'

theorem Accepted.apart_iff {workDir id id' path path' : Str} (h : Accepted workDir id path)
    (h' : Accepted workDir id' path') :
  Apart workDir path path' ↔
    Flat id ∧ Flat id' ∧ base (id ++ str ".json") ≠ base (id' ++ str ".json")
  := by
  obtain ⟨hdirect, hpath⟩ := h.direct_iff
  obtain ⟨hdirect', hpath'⟩ := h'.direct_iff
  obtain ⟨-, -, hdir⟩ := decisionsDir_cleaned workDir
  have hfiles : Flat id → Flat id' → ∀ cwd, isAbs cwd = true →
      (absPath cwd path = absPath cwd path' ↔
        base (id ++ str ".json") = base (id' ++ str ".json")) := by
    intro hid hid' cwd hcwd
    obtain ⟨hname, hjoin⟩ := hpath hid
    obtain ⟨hname', hjoin'⟩ := hpath' hid'
    rw [hjoin, hjoin']
    exact absPath_joinPath_inj hcwd hname hname'
  constructor
  · rintro ⟨hd, hd', hdiffer⟩
    have hid := hdirect.mp hd
    have hid' := hdirect'.mp hd'
    have hroot : isAbs (str "/") = true := by decide
    exact ⟨hid, hid', (hfiles hid hid' _ hroot).not.mp (hdiffer _ hroot)⟩
  · rintro ⟨hid, hid', hne⟩
    exact ⟨hdirect.mpr hid, hdirect'.mpr hid',
      fun cwd hcwd => (hfiles hid hid' cwd hcwd).not.mpr hne⟩

/-- An id without a slash is flat, and is itself the name of its trace. -/
theorem flat_of_notMem {id : Str} (h : 47 ∉ id) :
  Flat id ∧ base (id ++ str ".json") = id ++ str ".json"
  := by
  have hname : Component (id ++ str ".json") := by
    refine (Name.of_length ?_ ?_).toComponent
    · rw [List.length_append]
      exact Nat.lt_of_lt_of_le (by decide) (Nat.le_add_left 5 id.length)
    · rw [List.mem_append, not_or]
      exact ⟨h, by decide⟩
  exact ⟨dir_of_notMem hname.slash, base_append (.inl rfl) hname⟩

section

variable [CaseTables] {w w' : AuditHost} {store store' : AuditStore} {workDir : Str}
  {trace trace' : DecisionTrace} {r r' : DecisionPersistResult}

theorem completeTrace_decisionID {trace' : DecisionTrace} (hid : trace.decisionID ≠ [])
    (h : completeTrace w workDir trace = .ok trace') :
  trace'.decisionID = trace.decisionID
  := by
  rw [completeTrace, refuse_if_eq_ok_iff, refuse_if_eq_ok_iff] at h
  obtain ⟨-, -, h⟩ := h
  obtain ⟨decisionID, hdecision, h⟩ := bind_eq_ok_iff.mp h
  rw [fillDecisionID, if_pos hid] at hdecision
  cases h
  exact (Except.ok.inj hdecision).symm

theorem resolveTrace_eq_ok {tracePath payload : Str}
    (h : resolveTrace w workDir trace = .ok (tracePath, payload)) :
  localJoin (decisionsDir workDir) (trace.decisionID ++ str ".json") = .ok tracePath
  := by
  rw [resolveTrace] at h
  split at h
  · cases h
  · split at h
    · cases h
    · rename_i hjoin
      split at h
      · cases h
      · split at h
        · cases h
        · cases h
          exact hjoin

/-- What a trace that was persisted leaves: its file, and no other. -/
theorem persistDecisionTrace_eq_ok (h : (persistDecisionTrace w store workDir trace).1 = .ok r)
    (hid : trace.decisionID ≠ []) :
  r.decisionID = trace.decisionID ∧
    localJoin (decisionsDir workDir) (trace.decisionID ++ str ".json") = .ok r.tracePath ∧
    ∃ payload, (persistDecisionTrace w store workDir trace).2.traces =
      store.traces.set (absPath w.cwd r.tracePath) (some payload)
  := by
  rw [persistDecisionTrace] at h ⊢
  cases hcomplete : completeTrace w workDir trace with
  | error e =>
      rw [hcomplete] at h
      cases h
  | ok completed =>
      rw [hcomplete] at h
      have hcompleted := completeTrace_decisionID hid hcomplete
      cases hresolve : resolveTrace w workDir completed with
      | error e =>
          dsimp only at h
          rw [hresolve] at h
          cases h
      | ok resolved =>
          obtain ⟨tracePath, payload⟩ := resolved
          have hjoin := resolveTrace_eq_ok hresolve
          dsimp only at h ⊢
          rw [hresolve] at h ⊢
          dsimp only at h ⊢
          split at h
          · cases h
          · cases h
            rw [hcompleted] at hjoin
            exact ⟨hcompleted, hjoin, payload, rfl⟩

/-- Two traces with different ids of their callers are in two files right in the directory of the
traces exactly if neither id has a directory part once it is cleaned, and they differ behind their
last slash; ids without a slash do. -/
theorem traces_apart_iff (hid : trace.decisionID ≠ []) (hid' : trace'.decisionID ≠ [])
    (hne : trace.decisionID ≠ trace'.decisionID)
    (h : (persistDecisionTrace w store workDir trace).1 = .ok r)
    (h' : (persistDecisionTrace w' store' workDir trace').1 = .ok r') :
  (Apart workDir r.tracePath r'.tracePath ↔
      Flat trace.decisionID ∧ Flat trace'.decisionID ∧
        base (trace.decisionID ++ str ".json") ≠ base (trace'.decisionID ++ str ".json")) ∧
    (47 ∉ trace.decisionID → 47 ∉ trace'.decisionID → Apart workDir r.tracePath r'.tracePath)
  := by
  obtain ⟨-, hjoin, -⟩ := persistDecisionTrace_eq_ok h hid
  obtain ⟨-, hjoin', -⟩ := persistDecisionTrace_eq_ok h' hid'
  have hiff := (accepted_of_localJoin hjoin).apart_iff (accepted_of_localJoin hjoin')
  refine ⟨hiff, ?_⟩
  intro hslash hslash'
  obtain ⟨hflat, hbase⟩ := flat_of_notMem hslash
  obtain ⟨hflat', hbase'⟩ := flat_of_notMem hslash'
  refine hiff.mpr ⟨hflat, hflat', ?_⟩
  rw [hbase, hbase']
  exact fun heq => hne (List.append_cancel_right heq)

/-- A trace stays as it was written when one apart from it is persisted. -/
theorem persistDecisionTrace_keeps (hid' : trace'.decisionID ≠ [])
    (h' : (persistDecisionTrace w store workDir trace').1 = .ok r')
    (hapart : Apart workDir r.tracePath r'.tracePath) :
  (persistDecisionTrace w store workDir trace').2.traces (absPath w.cwd r.tracePath) =
    store.traces (absPath w.cwd r.tracePath)
  := by
  obtain ⟨-, -, payload, htraces⟩ := persistDecisionTrace_eq_ok h' hid'
  rw [htraces]
  exact if_neg (hapart.differ w.cwd w.rooted)

end

attribute [local instance] asciiCaseTables

theorem isAbs_srv :
  isAbs (str "/srv") = true
  := by
  decide

/-- A host on which nothing fails; of a decision only the id is encoded. -/
def quietHost : AuditHost where
  cwd := str "/srv"
  rooted := isAbs_srv
  getenv _ := []
  createdAt := str "2026-01-02T03:04:05Z"
  stamp := str "20260102T030405Z"
  randomHex := .ok (str "00c0de")
  mkdirAll _ := none
  writeFile _ := none
  stream := {}
  marshalTrace trace := .ok (str "\x7b\"decision_id\":" ++ quote trace.decisionID ++ str "\x7d")
  marshalEvent event := .ok (str "\x7b\"decision_id\":" ++ quote event.decisionID ++ str "\x7d")

def emptyStore : AuditStore where
  traces _ := none
  stream _ := none

/-- The path of a decision with the given id that only states its operation. -/
def persistedPath (id : Str) : Option Str :=
  match (persistDecisionTrace quietHost emptyStore (str "work")
    { decisionID := id, operation := str "select" }).1 with
  | .ok r => some r.tracePath
  | .error _ => none

theorem persisted_of_path (id path : Str) (h : persistedPath id = some path) :
  ∃ r, (persistDecisionTrace quietHost emptyStore (str "work")
    { decisionID := id, operation := str "select" }).1 = .ok r ∧ r.tracePath = path
  := by
  rw [persistedPath] at h
  split at h
  · rename_i r hr
    exact ⟨r, hr, Option.some.inj h⟩
  · cases h

theorem traces_apart_plain :
  ∃ r r', (persistDecisionTrace quietHost emptyStore (str "work")
      { decisionID := str "a", operation := str "select" }).1 = .ok r ∧
    (persistDecisionTrace quietHost emptyStore (str "work")
      { decisionID := str "b", operation := str "select" }).1 = .ok r' ∧
    Apart (str "work") r.tracePath r'.tracePath
  := by
  obtain ⟨r, hr, -⟩ := persisted_of_path (str "a")
    (str "work/runtime-audit/decisions/a.json") (by decide +kernel)
  obtain ⟨r', hr', -⟩ := persisted_of_path (str "b")
    (str "work/runtime-audit/decisions/b.json") (by decide +kernel)
  have h := traces_apart_iff (by decide) (by decide) (by decide) hr hr'
  exact ⟨r, r', hr, hr', h.2 (by decide) (by decide)⟩

/-- An id with dot segments is written over another one. -/
theorem dotted_id_overwrites :
  ¬∀ r r', (persistDecisionTrace quietHost emptyStore (str "work")
      { decisionID := str "y", operation := str "select" }).1 = .ok r →
    (persistDecisionTrace quietHost emptyStore (str "work")
      { decisionID := str "x/../y", operation := str "select" }).1 = .ok r' →
    Apart (str "work") r.tracePath r'.tracePath
  := by
  intro h
  obtain ⟨r, hr, hpath⟩ := persisted_of_path (str "y")
    (str "work/runtime-audit/decisions/y.json") (by decide +kernel)
  obtain ⟨r', hr', hpath'⟩ := persisted_of_path (str "x/../y")
    (str "work/runtime-audit/decisions/y.json") (by decide +kernel)
  have hdiffer := (h r r' hr hr').differ (str "/") (by decide)
  rw [hpath, hpath'] at hdiffer
  exact hdiffer rfl

end Runtime
