import BpfCompat.CloudRegistry.Authorize
import BpfCompat.CloudRegistry.Metadata
import BpfCompat.Registry.Writers
import BpfCompat.Schema.Json

/-!
# Uploading an artifact

An upload is checked against the history of its project, staged in a temporary file, checked
against the limits and the hash that was expected of it, moved to its place, described in a
report file and appended to the history.  Any call of the operating system may fail on the way.

What an upload leaves behind is stated once (`uploadArtifact_cases`): an upload that fails early
touches its temporary file only, and a later one touches its own artifact file and report file
and, if it comes that far, the history.
-/

namespace CloudRegistry

open Go Go.Json Schema Registry

section

variable [UnicodeTables]

/-! ### The source -/

/-- The limits of a project; zero is no limit. -/
structure QuotaLimits where
  maxArtifactBytes : Int := 0
  maxArtifactVersionsPerName : Int := 0
  maxProjectStorageBytes : Int := 0

structure UploadInput where
  tenant : Str := []
  project : Str := []
  artifactName : Str := []
  artifactVersion : Str := []
  artifactVariant : Str := []
  artifactURI : Str := []
  manifestPath : Str := []
  expectedSHA256 : Str := []
  sourceRunID : Str := []
  /-- What the reader yields, where there is one. -/
  artifact : Option Str := none
  compatibility : CompatibilityMetadata := {}
  report : Option ReportV01 := none

/-- The files of a project: the ones of its history, and the others by their path. -/
structure ProjectDir where
  registry : WorkDir
  files : Str → Option Str

/-- A call of the operating system that fails, with what it leaves behind. -/
inductive Fault where
  | getProject
  | listVersions
  | makeTempDir
  | createTemp
  | copyPayload (written : Str)
  | closeTemp
  | storageUsage
  | makeFinalDir
  | rename
  | makeReportDir
  | writeReport (left : Option Str)
  | readKeys
  | appendIndex
  | closeIndex
  | findStored
deriving DecidableEq

/-- What an upload meets: the call that fails, if one does, whether the temporary file can be
removed and the final one be examined, the hour in its three forms, and the randomness for a
new signing key. -/
structure Surroundings where
  fault : Option Fault := none
  keepsTemp : Bool := false
  statFails : Bool := false
  unixNano : Int := 0
  now : Str := []
  stamp : Str := []
  seed : Str
  length_seed : seed.length = 32

inductive UploadError where
  | invalid (message : Str)
  | readerMissing
  | historyUnreadable
  | quotaExceeded
  | conflict
  | sha256Mismatch (expected got : Str)
  | io (fault : Fault)
  | persist (e : PersistError)
  | notStored
deriving DecidableEq

structure UploadResult where
  record : ArtifactVersionRecord
  storedArtifact : Str
  artifactSizeBytes : Nat

/-- The directory with one file written, or removed. -/
def ProjectDir.write (p : ProjectDir) (path : Str) (content : Option Str) : ProjectDir :=
  { p with files := Function.update p.files path content }

/-! The paths are joined from a clean root and identifiers, in which there is nothing to clean. -/

def tempPath (root : Str) (unixNano : Int) : Str :=
  root ++ (str "/artifacts/.tmp/upload-" ++ (itoa unixNano ++ str ".bin"))

def artifactPath (root name version sha : Str) : Str :=
  root ++ (str "/artifacts/" ++ (name ++ (str "/" ++ (version ++ (str "/" ++ (sha ++
    str ".bpf.o"))))))

/-- The name of a report file. -/
def reportName (name version sha : Str) : Str :=
  name ++ (str "-" ++ (version ++ (str "-" ++ sha.take 12)))

def reportPath (root name version sha : Str) : Str :=
  root ++ (str "/reports/" ++ (reportName name version sha ++ str ".json"))

/-- The limits on the versions of one name, and that the version is a new one. -/
def checkVersions (limits : QuotaLimits) (index : Option Str) (name version : Str) :
    Except UploadError Unit :=
  match listArtifactVersions index name 0 with
  | none => .error .historyUnreadable
  | some existing =>
    if 0 < limits.maxArtifactVersionsPerName ∧
        limits.maxArtifactVersionsPerName ≤ existing.length then .error .quotaExceeded
    else if ∃ r ∈ existing, r.artifactVersion = version then .error .conflict
    else .ok ()

/-- The call fails. -/
def failWith (env : Surroundings) (fault : Fault) : Except UploadError Unit :=
  if env.fault = some fault then .error (.io fault) else .ok ()

/-- An identifier of the form. -/
def uploadID (field value : Str) : Except UploadError Str :=
  match validateID field value with
  | .ok v => .ok v
  | .error message => .error (.invalid message)

/-- The checks before the artifact is read: the name and version, and the bytes to store. -/
def admitUpload (limits : QuotaLimits) (env : Surroundings) (input : UploadInput)
    (index : Option Str) : Except UploadError (Str × Str × Str) := do
  let _ ← uploadID (str "tenant") input.tenant
  let _ ← uploadID (str "project") input.project
  let name ← uploadID (str "artifact_name") input.artifactName
  let version ← uploadID (str "artifact_version") input.artifactVersion
  match input.artifact with
  | none => .error .readerMissing
  | some payload =>
    failWith env .getProject
    failWith env .listVersions
    checkVersions limits index name version
    .ok (name, version, payload)

/-- The bytes of the files the records refer to, from the ones not seen yet. -/
def storageUsageFrom (files : Str → Option Str) (seen : List Str) :
    List ArtifactVersionRecord → Nat
  | [] => 0
  | r :: records =>
    let path := trimSpace r.artifactPath
    if path = [] ∨ path ∈ seen then storageUsageFrom files seen records
    else ((files path).map List.length).getD 0 + storageUsageFrom files (path :: seen) records

def projectStorageUsage (p : ProjectDir) : Option Nat :=
  (listArtifactVersions p.registry.index [] 0).map (storageUsageFrom p.files [])

def checkStorage (limits : QuotaLimits) (env : Surroundings) (size : Nat) (p : ProjectDir) :
    Except UploadError Unit :=
  if 0 < limits.maxProjectStorageBytes then
    match failWith env .storageUsage, projectStorageUsage p with
    | .error e, _ => .error e
    | .ok _, none => .error .historyUnreadable
    | .ok _, some current =>
      if limits.maxProjectStorageBytes < current + size then .error .quotaExceeded else .ok ()
  else .ok ()

/-- The hash a form expects of the artifact. -/
def expectedHash (expectedSHA256 : Str) : Str := trimSpace (toLower expectedSHA256)

/-- The checks of the staged artifact, and its hash. -/
def checkStaged (c : Crypto) (limits : QuotaLimits) (env : Surroundings)
    (expectedSHA256 payload : Str) (p : ProjectDir) : Except UploadError Str :=
  if 0 < limits.maxArtifactBytes ∧ limits.maxArtifactBytes < payload.length then
    .error .quotaExceeded
  else
    match checkStorage limits env payload.length p with
    | .error e => .error e
    | .ok _ =>
      let artifactSHA := hexEncode (c.sha256 payload)
      let expected := expectedHash expectedSHA256
      if expected ≠ [] ∧ expected ≠ artifactSHA then .error (.sha256Mismatch expected artifactSHA)
      else .ok artifactSHA

/-- The temporary file is removed, where that works. -/
def discard (env : Surroundings) (p : ProjectDir) : ProjectDir :=
  if env.keepsTemp then p else p.write (tempPath p.registry.path env.unixNano) none

/-- The artifact is written to a temporary file and checked. -/
def stageArtifact (c : Crypto) (limits : QuotaLimits) (env : Surroundings)
    (expectedSHA256 payload : Str) (p : ProjectDir) : Except UploadError Str × ProjectDir :=
  let temp := tempPath p.registry.path env.unixNano
  match env.fault with
  | some .makeTempDir => (.error (.io .makeTempDir), p)
  | some .createTemp => (.error (.io .createTemp), p)
  | some (.copyPayload written) =>
    (.error (.io (.copyPayload written)), discard env (p.write temp (some written)))
  | some .closeTemp => (.error (.io .closeTemp), discard env (p.write temp (some payload)))
  | _ =>
    let staged := p.write temp (some payload)
    match checkStaged c limits env expectedSHA256 payload staged with
    | .error e => (.error e, discard env staged)
    | .ok sha => (.ok sha, staged)

/-- The artifact is moved to its place, or the one that is there is used. -/
def placeArtifact (env : Surroundings) (name version sha : Str) (p : ProjectDir) :
    Except UploadError Str × ProjectDir :=
  let temp := tempPath p.registry.path env.unixNano
  let final := artifactPath p.registry.path name version sha
  if env.fault = some .makeFinalDir then (.error (.io .makeFinalDir), discard env p)
  else if (p.files final).isSome ∧ env.statFails = false then (.ok final, discard env p)
  else if env.fault = some .rename then (.error (.io .rename), discard env p)
  else (.ok final, (p.write final (p.files temp)).write temp none)

/-- A member that is left out when it is empty. -/
def optionalMember (name : String) (empty : Bool) (v : Value) : List (Str × Value) :=
  if empty then [] else [(str name, v)]

/-- The metadata as they stand in a summary. -/
def compatibilityValue (m : CompatibilityMetadata) : Value :=
  .object (optionalMember "summary_status" m.summaryStatus.isEmpty (.string m.summaryStatus) ++
    optionalMember "required_passed" (m.requiredPassed == 0)
      (.number (itoa m.requiredPassed.toInt)) ++
    optionalMember "required_failed" (m.requiredFailed == 0)
      (.number (itoa m.requiredFailed.toInt)) ++
    optionalMember "total_profiles" (m.totalProfiles == 0) (.number (itoa m.totalProfiles.toInt)) ++
    optionalMember "supported_profiles" m.supportedProfiles.isEmpty
      (.array (m.supportedProfiles.map .string)) ++
    optionalMember "failed_profiles" m.failedProfiles.isEmpty
      (.array (m.failedProfiles.map .string)) ++
    optionalMember "classification_codes" m.classificationCode.isEmpty
      (.array (m.classificationCode.map .string)) ++
    optionalMember "matrix_path" m.matrixPath.isEmpty (.string m.matrixPath) ++
    optionalMember "matrix_name" m.matrixName.isEmpty (.string m.matrixName) ++
    optionalMember "markdown_path" m.markdownPath.isEmpty (.string m.markdownPath))

/-- The text of the report file: the report of the form, or a summary of the upload. -/
def summaryText (name version sha : Str) (size : Nat) (compat : CompatibilityMetadata)
    (report : Option ReportV01) : Str :=
  match report with
  | some report => writeJSON report
  | none =>
    marshalIndent (.object
      [(str "artifact", .object
        [(str "name", .string name), (str "sha256", .string sha),
          (str "size_bytes", .number (itoa size)), (str "version", .string version)]),
        (str "compatibility", compatibilityValue compat),
        (str "schema_version", .string (str "cloud_registry_upload_summary.v0.1"))]) ++ [10]

def writeUploadSummary (env : Surroundings) (name version sha : Str) (size : Nat)
    (compat : CompatibilityMetadata) (report : Option ReportV01) (p : ProjectDir) :
    Except UploadError Str × ProjectDir :=
  let path := reportPath p.registry.path name version sha
  match env.fault with
  | some .makeReportDir => (.error (.io .makeReportDir), p)
  | some (.writeReport none) => (.error (.io (.writeReport none)), p)
  | some (.writeReport (some left)) =>
    (.error (.io (.writeReport (some left))), p.write path (some left))
  | _ => (.ok path, p.write path (some (summaryText name version sha size compat report)))

/-- The record of an upload. -/
def uploadRecord (env : Surroundings) (input : UploadInput) (name version sha path report : Str) :
    ArtifactVersionRecord :=
  withCompatibility
    { runID :=
        if trimSpace input.sourceRunID = [] then str "upload-" ++ env.stamp
        else trimSpace input.sourceRunID
      runStartedAt := env.now
      createdAt := env.now
      artifactName := name
      artifactVersion := version
      artifactVariant := trimSpace input.artifactVariant
      artifactPath := path
      artifactURI := trimSpace input.artifactURI
      artifactSHA256 := sha
      manifestPath := trimSpace input.manifestPath
      jsonReportPath := report }
    (uploadCompatibility input.compatibility input.report)

/-- The record is appended to the history; a history that can not be opened is left alone, and
a line that was written stays when closing fails. -/
def persistUpload (c : Crypto) (env : Surroundings) (r : ArtifactVersionRecord) (dir : WorkDir) :
    Except UploadError Unit × WorkDir :=
  if env.fault = some .readKeys then (.error (.io .readKeys), dir)
  else
    match persistArtifactVersion c env.seed dir r with
    | .error e => (.error (.persist e), dir)
    | .ok dir' =>
      if env.fault = some .appendIndex then
        (.error (.io .appendIndex), { dir' with index := dir.index })
      else if env.fault = some .closeIndex then (.error (.io .closeIndex), dir')
      else (.ok (), dir')

/-- The record that was stored under a name and version. -/
def findStored (env : Surroundings) (index : Option Str) (name version : Str) :
    Except UploadError ArtifactVersionRecord :=
  match failWith env .findStored, findArtifactVersion index name version with
  | .error e, _ => .error e
  | .ok _, none => .error .notStored
  | .ok _, some r => .ok r

def uploadArtifact (c : Crypto) (limits : QuotaLimits) (env : Surroundings) (input : UploadInput)
    (p : ProjectDir) : Except UploadError UploadResult × ProjectDir :=
  match admitUpload limits env input p.registry.index with
  | .error e => (.error e, p)
  | .ok (name, version, payload) =>
    match stageArtifact c limits env input.expectedSHA256 payload p with
    | (.error e, p) => (.error e, p)
    | (.ok sha, p) =>
      match placeArtifact env name version sha p with
      | (.error e, p) => (.error e, p)
      | (.ok path, p) =>
        match writeUploadSummary env name version sha payload.length
            (uploadCompatibility input.compatibility input.report) input.report p with
        | (.error e, p) => (.error e, p)
        | (.ok report, p) =>
          match persistUpload c env (uploadRecord env input name version sha path report)
              p.registry with
          | (.error e, dir) => (.error e, { p with registry := dir })
          | (.ok _, dir) =>
            match findStored env dir.index name version with
            | .error e => (.error e, { p with registry := dir })
            | .ok r =>
              (.ok { record := r, storedArtifact := path, artifactSizeBytes := payload.length },
                { p with registry := dir })

/-! ### Paths -/

omit [UnicodeTables] in
theorem isIDHead_iff_ne {b : UInt8} (h : isIDHead b = true) :
  b ≠ 46 ∧ b ≠ 47
  := by
  constructor
  · rintro rfl
    cases h
  · rintro rfl
    cases h

omit [UnicodeTables] in
/-- An identifier begins with a letter or digit and has no separator of paths in it. -/
theorem of_matchesIDPattern {s : Str} (h : matchesIDPattern s = true) :
  (∃ b t, s = b :: t ∧ b ≠ 46) ∧ (47 : UInt8) ∉ s ∧ ∀ b ∈ s, 32 < b ∧ b < 127
  := by
  cases s with
  | nil => cases h
  | cons b t =>
      simp only [matchesIDPattern, Bool.and_eq_true, List.all_eq_true] at h
      obtain ⟨⟨hhead, htail⟩, -⟩ := h
      have hall : ∀ x ∈ b :: t, isIDTail x = true := by
        rw [List.forall_mem_cons]
        exact ⟨by rw [isIDTail, hhead, Bool.true_or, Bool.true_or, Bool.true_or], htail⟩
      have hbytes : ∀ x : UInt8, isIDTail x = true → x ≠ 47 ∧ 32 < x ∧ x < 127 := by
        intro x
        revert x
        decide +kernel
      refine ⟨⟨b, t, rfl, (isIDHead_iff_ne hhead).1⟩, ?_, ?_⟩
      · intro hmem
        exact (hbytes 47 (hall 47 hmem)).1 rfl
      · intro x hx
        exact (hbytes x (hall x hx)).2

omit [UnicodeTables] in
theorem matchesIDPattern_of_uploadID {field value v : Str} (h : uploadID field value = .ok v) :
  matchesIDPattern v = true
  := by
  rw [uploadID] at h
  cases hv : validateID field value with
  | error message =>
      rw [hv] at h
      cases h
  | ok v' =>
      rw [hv] at h
      cases h
      rw [validateID] at hv
      split_ifs at hv with hblank hpattern
      cases hv
      simpa using hpattern

omit [UnicodeTables] in
/-- Two texts that are cut at the same byte, which is in neither of the first parts. -/
theorem append_cons_inj {a a' : Str} {x : UInt8} {b b' : Str} (ha : x ∉ a) (ha' : x ∉ a')
    (h : a ++ x :: b = a' ++ x :: b') :
  a = a' ∧ b = b'
  := by
  induction a generalizing a' with
  | nil =>
      cases a' with
      | nil => exact ⟨rfl, (List.cons.inj h).2⟩
      | cons y a' =>
          obtain ⟨rfl, -⟩ := List.cons.inj h
          exact absurd List.mem_cons_self ha'
  | cons y a ih =>
      cases a' with
      | nil =>
          obtain ⟨rfl, -⟩ := List.cons.inj h
          exact absurd List.mem_cons_self ha
      | cons z a' =>
          obtain ⟨rfl, hrest⟩ := List.cons.inj h
          rw [List.mem_cons, not_or] at ha ha'
          obtain ⟨rfl, rfl⟩ := ih ha.2 ha'.2 hrest
          exact ⟨rfl, rfl⟩

omit [UnicodeTables] in
/-- An artifact file belongs to one name, version and hash. -/
theorem artifactPath_inj {root name version sha name' version' sha' : Str}
    (hname : matchesIDPattern name = true) (hversion : matchesIDPattern version = true)
    (hname' : matchesIDPattern name' = true) (hversion' : matchesIDPattern version' = true)
    (h : artifactPath root name version sha = artifactPath root name' version' sha') :
  name = name' ∧ version = version' ∧ sha = sha'
  := by
  have hslash : str "/" = [47] := by decide
  simp only [artifactPath, hslash, List.append_cancel_left_eq, List.singleton_append] at h
  obtain ⟨rfl, hrest⟩ :=
    append_cons_inj (of_matchesIDPattern hname).2.1 (of_matchesIDPattern hname').2.1 h
  obtain ⟨rfl, hlast⟩ :=
    append_cons_inj (of_matchesIDPattern hversion).2.1 (of_matchesIDPattern hversion').2.1 hrest
  exact ⟨rfl, rfl, List.append_cancel_right hlast⟩

omit [UnicodeTables] in
theorem tempPath_ne_artifactPath {root name version sha : Str} (hname : matchesIDPattern name = true)
    (unixNano : Int) :
  tempPath root unixNano ≠ artifactPath root name version sha
  := by
  obtain ⟨⟨b, t, rfl, hb⟩, -⟩ := of_matchesIDPattern hname
  have htemp : str "/artifacts/.tmp/upload-" = str "/artifacts/" ++ 46 :: str "tmp/upload-" := by
    decide
  intro h
  rw [tempPath, artifactPath, htemp, List.append_cancel_left_eq, List.append_assoc,
    List.append_cancel_left_eq, List.cons_append, List.cons_append] at h
  exact hb (List.cons.inj h).1.symm

omit [UnicodeTables] in
theorem reportPath_ne_artifactPath {root name version sha name' version' sha' : Str} :
  reportPath root name version sha ≠ artifactPath root name' version' sha'
  := by
  have hreports : str "/reports/" = 47 :: 114 :: str "eports/" := by decide
  have hartifacts : str "/artifacts/" = 47 :: 97 :: str "rtifacts/" := by decide
  intro h
  rw [reportPath, artifactPath, hreports, hartifacts, List.append_cancel_left_eq] at h
  cases (List.cons.inj (List.cons.inj h).2).1

omit [UnicodeTables] in
theorem reportPath_ne_tempPath {root name version sha : Str} {unixNano : Int} :
  reportPath root name version sha ≠ tempPath root unixNano
  := by
  have hreports : str "/reports/" = 47 :: 114 :: str "eports/" := by decide
  have hartifacts : str "/artifacts/.tmp/upload-" = 47 :: 97 :: str "rtifacts/.tmp/upload-" := by
    decide
  intro h
  rw [reportPath, tempPath, hreports, hartifacts, List.append_cancel_left_eq] at h
  cases (List.cons.inj (List.cons.inj h).2).1

omit [UnicodeTables] in
/-- A report file belongs to the name it is made of, which need not determine its parts. -/
theorem reportPath_inj {root name version sha name' version' sha' : Str} :
  reportPath root name version sha = reportPath root name' version' sha' ↔
    reportName name version sha = reportName name' version' sha'
  := by
  rw [reportPath, reportPath, List.append_cancel_left_eq, List.append_cancel_left_eq]
  exact List.append_left_inj _

/-! ### What an upload leaves behind -/

section

variable {c : Crypto} {limits : QuotaLimits} {env : Surroundings} {input : UploadInput}
  {p : ProjectDir}

omit [UnicodeTables] in
theorem ProjectDir.write_of_ne {path path' : Str} (h : path' ≠ path) (content : Option Str) :
  (p.write path content).files path' = p.files path'
  := Function.update_of_ne h _ _

omit [UnicodeTables] in
theorem ProjectDir.write_self (path : Str) (content : Option Str) :
  (p.write path content).files path = content
  := Function.update_self _ _ _

/-- What the checks before the artifact is read have established. -/
structure Admitted (limits : QuotaLimits) (input : UploadInput) (index : Option Str)
    (name version payload : Str) : Prop where
  name_eq : name = trimSpace input.artifactName
  version_eq : version = trimSpace input.artifactVersion
  name_id : matchesIDPattern name = true
  version_id : matchesIDPattern version = true
  payload_eq : input.artifact = some payload
  versions : checkVersions limits index name version = .ok ()

omit [UnicodeTables] in
theorem uploadID_eq_ok {field value v : Str} (h : uploadID field value = .ok v) :
  v = trimSpace value ∧ matchesIDPattern v = true
  := by
  constructor
  · rw [uploadID] at h
    cases hv : validateID field value with
    | error message =>
        rw [hv] at h
        cases h
    | ok v' =>
        rw [hv] at h
        cases h
        exact eq_trimSpace_of_validateID hv
  · exact matchesIDPattern_of_uploadID h

theorem admitted_of_admitUpload {index : Option Str} {name version payload : Str}
    (h : admitUpload limits env input index = .ok (name, version, payload)) :
  Admitted limits input index name version payload
  := by
  simp only [admitUpload, bind_eq_ok_iff] at h
  obtain ⟨-, -, -, -, name', hname, version', hversion, h⟩ := h
  cases hartifact : input.artifact with
  | none =>
      rw [hartifact] at h
      cases h
  | some payload' =>
      rw [hartifact] at h
      simp only [bind_eq_ok_iff] at h
      obtain ⟨-, -, -, -, ⟨⟩, hversions, hout⟩ := h
      cases hout
      obtain ⟨hname_eq, hname_id⟩ := uploadID_eq_ok hname
      obtain ⟨hversion_eq, hversion_id⟩ := uploadID_eq_ok hversion
      exact ⟨hname_eq, hversion_eq, hname_id, hversion_id, hartifact, hversions⟩

/-- What the checks of the staged artifact have established. -/
structure Checked (c : Crypto) (limits : QuotaLimits) (env : Surroundings)
    (expectedSHA256 payload : Str) (p : ProjectDir) : Prop where
  size : 0 < limits.maxArtifactBytes → payload.length ≤ limits.maxArtifactBytes
  storage : checkStorage limits env payload.length p = .ok ()
  expected : expectedHash expectedSHA256 = [] ∨
    expectedHash expectedSHA256 = hexEncode (c.sha256 payload)

theorem checkStaged_eq_ok_iff {expectedSHA256 payload sha : Str} :
  checkStaged c limits env expectedSHA256 payload p = .ok sha ↔
    Checked c limits env expectedSHA256 payload p ∧ sha = hexEncode (c.sha256 payload)
  := by
  rw [checkStaged]
  constructor
  · intro h
    split_ifs at h with hsize
    cases hstorage : checkStorage limits env payload.length p with
    | error e =>
        rw [hstorage] at h
        cases h
    | ok u =>
        rw [hstorage] at h
        dsimp only at h
        split_ifs at h with hexpected
        rw [not_and_or, not_not, not_not] at hexpected
        refine ⟨⟨?_, hstorage, hexpected⟩, (Except.ok.inj h).symm⟩
        intro hlimit
        by_contra hlarge
        exact hsize ⟨hlimit, not_le.mp hlarge⟩
  · rintro ⟨⟨hsize, hstorage, hexpected⟩, rfl⟩
    rw [if_neg, hstorage]
    · dsimp only
      rw [if_neg]
      rintro ⟨hne, hne'⟩
      exact hexpected.elim hne hne'
    · rintro ⟨hlimit, hlarge⟩
      exact not_lt.mpr (hsize hlimit) hlarge

/-- The path of the temporary file of an upload. -/
def tempOf (env : Surroundings) (p : ProjectDir) : Str := tempPath p.registry.path env.unixNano

/-- The directory differs from another at most in the temporary file. -/
structure SameButTemp (env : Surroundings) (p q : ProjectDir) : Prop where
  registry : q.registry = p.registry
  files : ∀ path, path ≠ tempOf env p → q.files path = p.files path

omit [UnicodeTables] in
theorem sameButTemp_write (content : Option Str) :
  SameButTemp env p (p.write (tempOf env p) content)
  := ⟨rfl, fun _ hpath => ProjectDir.write_of_ne hpath content⟩

omit [UnicodeTables] in
theorem SameButTemp.discard {q : ProjectDir} (h : SameButTemp env p q) :
  SameButTemp env p (discard env q)
  := by
  rw [CloudRegistry.discard]
  split_ifs
  · exact h
  · refine ⟨h.registry, ?_⟩
    intro path hpath
    rw [h.registry]
    exact (ProjectDir.write_of_ne hpath none).trans (h.files path hpath)

/-- Staging changes the temporary file at most; what passes is staged there. -/
theorem stageArtifact_cases (c : Crypto) (limits : QuotaLimits) (env : Surroundings)
    (expectedSHA256 payload : Str) (p : ProjectDir) :
  (∃ e q, stageArtifact c limits env expectedSHA256 payload p = (.error e, q) ∧
      SameButTemp env p q) ∨
    (stageArtifact c limits env expectedSHA256 payload p
        = (.ok (hexEncode (c.sha256 payload)), p.write (tempOf env p) (some payload)) ∧
      Checked c limits env expectedSHA256 payload (p.write (tempOf env p) (some payload)))
  := by
  have hsame : SameButTemp env p p := ⟨rfl, fun _ _ => rfl⟩
  have hstaged : ∀ content, SameButTemp env p (p.write (tempOf env p) content) := fun content =>
    sameButTemp_write content
  rw [stageArtifact]
  dsimp only
  split
  · exact .inl ⟨_, _, rfl, hsame⟩
  · exact .inl ⟨_, _, rfl, hsame⟩
  · exact .inl ⟨_, _, rfl, (hstaged _).discard⟩
  · exact .inl ⟨_, _, rfl, (hstaged _).discard⟩
  · split
    · exact .inl ⟨_, _, rfl, (hstaged _).discard⟩
    · rename_i sha hsha
      obtain ⟨hchecked, rfl⟩ := checkStaged_eq_ok_iff.mp hsha
      exact .inr ⟨rfl, hchecked⟩

/-- The artifact file holds what was uploaded, or what it held before. -/
structure Placed (name version payload sha : Str) (p q : ProjectDir) (env : Surroundings) :
    Prop where
  registry : q.registry = p.registry
  artifact : q.files (artifactPath p.registry.path name version sha) = some payload ∨
    (p.files (artifactPath p.registry.path name version sha)).isSome = true ∧
      q.files (artifactPath p.registry.path name version sha)
        = p.files (artifactPath p.registry.path name version sha)
  others : ∀ path, path ≠ tempOf env p → path ≠ artifactPath p.registry.path name version sha →
    path ≠ reportPath p.registry.path name version sha → q.files path = p.files path

omit [UnicodeTables] in
theorem placeArtifact_cases {name payload : Str} (version sha : Str)
    (hname : matchesIDPattern name = true)
    {q : ProjectDir} (hq : q = p.write (tempOf env p) (some payload)) :
  (∃ e q', placeArtifact env name version sha q = (.error e, q') ∧ SameButTemp env p q') ∨
    ∃ q', placeArtifact env name version sha q
        = (.ok (artifactPath p.registry.path name version sha), q') ∧
      Placed name version payload sha p q' env
  := by
  have hsame : SameButTemp env p q := hq ▸ sameButTemp_write _
  have htemp : tempOf env p ≠ artifactPath p.registry.path name version sha :=
    tempPath_ne_artifactPath hname env.unixNano
  have hpath : q.registry.path = p.registry.path := by rw [hsame.registry]
  have hown : tempPath p.registry.path env.unixNano = tempOf env p := rfl
  have hfinal := hsame.files _ htemp.symm
  rw [placeArtifact, hpath, hown]
  split_ifs with hdir hthere hrename
  · exact .inl ⟨_, _, rfl, hsame.discard⟩
  · right
    refine ⟨_, rfl, ⟨hsame.discard.registry, .inr ⟨?_, ?_⟩, ?_⟩⟩
    · rw [← hfinal]
      exact hthere.1
    · exact hsame.discard.files _ htemp.symm
    · intro path hpath _ _
      exact hsame.discard.files path hpath
  · exact .inl ⟨_, _, rfl, hsame.discard⟩
  · right
    refine ⟨_, rfl, ⟨hsame.registry, .inl ?_, ?_⟩⟩
    · have hstaged : q.files (tempOf env p) = some payload := by
        rw [hq]
        exact ProjectDir.write_self _ _
      rw [ProjectDir.write_of_ne htemp.symm, ProjectDir.write_self]
      exact hstaged
    · intro path hne hne' _
      rw [ProjectDir.write_of_ne hne, ProjectDir.write_of_ne hne', hsame.files path hne]

/-- The report file is written after the artifact was placed. -/
theorem writeUploadSummary_cases {name version payload sha : Str} (size : Nat)
    (compat : CompatibilityMetadata) (report : Option ReportV01) {q : ProjectDir}
    (hq : Placed name version payload sha p q env) :
  ∃ q', Placed name version payload sha p q' env ∧
    ((∃ e, writeUploadSummary env name version sha size compat report q = (.error e, q')) ∨
      writeUploadSummary env name version sha size compat report q
        = (.ok (reportPath p.registry.path name version sha), q'))
  := by
  have hwrite : ∀ content, Placed name version payload sha p
      (q.write (reportPath p.registry.path name version sha) content) env := by
    intro content
    have hne : artifactPath p.registry.path name version sha
        ≠ reportPath p.registry.path name version sha := reportPath_ne_artifactPath.symm
    refine ⟨hq.registry, ?_, ?_⟩
    · rw [ProjectDir.write_of_ne hne]
      exact hq.artifact
    · intro path htemp hartifact hreport
      rw [ProjectDir.write_of_ne hreport]
      exact hq.others path htemp hartifact hreport
  have hpath : q.registry.path = p.registry.path := by rw [hq.registry]
  rw [writeUploadSummary, hpath]
  split
  · exact ⟨_, hq, .inl ⟨_, rfl⟩⟩
  · exact ⟨_, hq, .inl ⟨_, rfl⟩⟩
  · exact ⟨_, hwrite _, .inl ⟨_, rfl⟩⟩
  · exact ⟨_, hwrite _, .inr rfl⟩

/-- The name, version and bytes of an upload that came to be placed. -/
structure Accepted (c : Crypto) (limits : QuotaLimits) (env : Surroundings) (input : UploadInput)
    (p : ProjectDir) (name version payload : Str) : Prop where
  admitted : Admitted limits input p.registry.index name version payload
  checked : Checked c limits env input.expectedSHA256 payload
    (p.write (tempOf env p) (some payload))

/-- The record of an upload in a directory. -/
def recordOf (c : Crypto) (env : Surroundings) (input : UploadInput)
    (root name version payload : Str) : ArtifactVersionRecord :=
  let sha := hexEncode (c.sha256 payload)
  uploadRecord env input name version sha (artifactPath root name version sha)
    (reportPath root name version sha)

/-- Everything an upload can do. -/
inductive Outcome (c : Crypto) (limits : QuotaLimits) (env : Surroundings) (input : UploadInput)
    (p : ProjectDir) : Except UploadError UploadResult × ProjectDir → Prop where
  /-- It fails before it touches anything but the temporary file. -/
  | early (e : UploadError) (q : ProjectDir) (same : SameButTemp env p q) :
      Outcome c limits env input p (.error e, q)
  /-- It fails after the artifact was placed, before the history. -/
  | placed (name version payload : Str) (e : UploadError) (q : ProjectDir)
      (accepted : Accepted c limits env input p name version payload)
      (placed : Placed name version payload (hexEncode (c.sha256 payload)) p q env) :
      Outcome c limits env input p (.error e, q)
  /-- It comes to the history. -/
  | persisted (name version payload : Str) (q : ProjectDir) (dir : WorkDir)
      (res : Except UploadError UploadResult) (appended : Except UploadError Unit)
      (accepted : Accepted c limits env input p name version payload)
      (placed : Placed name version payload (hexEncode (c.sha256 payload)) p q env)
      (persisted : persistUpload c env
        (recordOf c env input p.registry.path name version payload) p.registry = (appended, dir))
      (found : ∀ r, res = .ok r → appended = .ok () ∧
        findStored env dir.index name version = .ok r.record)
      (lost : ∀ e, res = .error e → appended = .error e ∨
        appended = .ok () ∧ findStored env dir.index name version = .error e) :
      Outcome c limits env input p (res, { q with registry := dir })

theorem uploadArtifact_cases (c : Crypto) (limits : QuotaLimits) (env : Surroundings)
    (input : UploadInput) (p : ProjectDir) :
  Outcome c limits env input p (uploadArtifact c limits env input p)
  := by
  rw [uploadArtifact]
  cases hadmission : admitUpload limits env input p.registry.index with
  | error e => exact .early e p ⟨rfl, fun _ _ => rfl⟩
  | ok admitted =>
      obtain ⟨name, version, payload⟩ := admitted
      have hadmitted := admitted_of_admitUpload hadmission
      dsimp only
      obtain ⟨e, q, hstage, hsame⟩ | ⟨hstage, hchecked⟩ :=
        stageArtifact_cases c limits env input.expectedSHA256 payload p
      · rw [hstage]
        exact .early e q hsame
      · rw [hstage]
        dsimp only
        obtain ⟨e, q, hplace, hsame⟩ | ⟨q, hplace, hplaced⟩ :=
          placeArtifact_cases version (hexEncode (c.sha256 payload)) hadmitted.name_id rfl
        · rw [hplace]
          exact .early e q hsame
        · rw [hplace]
          dsimp only
          have haccepted : Accepted c limits env input p name version payload :=
            ⟨hadmitted, hchecked⟩
          obtain ⟨q', hplaced', ⟨e, hsummary⟩ | hsummary⟩ :=
            writeUploadSummary_cases payload.length
              (uploadCompatibility input.compatibility input.report) input.report hplaced
          · rw [hsummary]
            exact .placed name version payload e q' haccepted hplaced'
          · rw [hsummary]
            dsimp only
            rw [hplaced'.registry]
            cases hpersist : persistUpload c env
              (recordOf c env input p.registry.path name version payload) p.registry with
            | mk appended dir =>
                rw [recordOf] at hpersist
                rw [hpersist]
                cases appended with
                | error e =>
                    exact .persisted name version payload q' dir _ _ haccepted hplaced' hpersist
                      (fun _ h => nomatch h) (fun _ h => .inl (Except.error.inj h ▸ rfl))
                | ok u =>
                    dsimp only
                    cases hfind : findStored env dir.index name version with
                    | error e =>
                        exact .persisted name version payload q' dir _ _ haccepted hplaced' hpersist
                          (fun _ h => nomatch h)
                          (fun _ h => .inr ⟨rfl, Except.error.inj h ▸ hfind⟩)
                    | ok r =>
                        exact .persisted name version payload q' dir _ _ haccepted hplaced' hpersist
                          (fun _ h => ⟨rfl, Except.ok.inj h ▸ hfind⟩) (fun _ h => nomatch h)

end

end

end CloudRegistry
