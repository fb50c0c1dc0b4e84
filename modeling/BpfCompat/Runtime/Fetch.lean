import BpfCompat.Go.Glob
import BpfCompat.Go.Path
import BpfCompat.Go.Url
import BpfCompat.Registry.Signing

/-!
# Fetching an artifact

The bytes of a record are copied from a local path or downloaded, put below the output directory
under a name made of the record, and hashed where they lie.  A record that states a hash is fetched
only with bytes of that hash (`fetchArtifact_spec`).
-/

namespace Runtime

open Go Registry

/-! ### Files -/

/-- The regular files of a host, by their absolute paths. -/
abbrev Files : Type := Str → Option Str

/-- The files with one of them written or removed. -/
def Files.set (files : Files) (path : Str) (content : Option Str) : Files :=
  fun p => if p = path then content else files p

@[simp]
theorem Files.set_same (files : Files) (path : Str) (content : Option Str) :
  files.set path content path = content
  := if_pos rfl

/-- What the operating system may fail at. -/
inductive Operation where
  | mkdirAll
  | stat
  | create
  | copy
  | close
  | rename
  | open
deriving DecidableEq

/-- The host a fetch runs on: its working directory and environment, the failures of its file
system, and what a guarded download of a URL yields. -/
structure FetchHost where
  cwd : Str
  getenv : Str → Str
  ioError : Operation → Str → Option Str
  download : Str → Except Str Str

/-- What was fetched, from where to where. -/
structure FetchResult where
  artifactName : Str
  artifactVersion : Str
  artifactVariant : Str
  outputPath : Str
  expectedSHA256 : Str
  actualSHA256 : Str
deriving DecidableEq

/-! ### Names -/

/-- A text with the given byte taken away at both ends. -/
def trimByte (b : UInt8) (s : Str) : Str := trimBoth (· = b) s

section

variable [CaseTables]

/-- A name in lower case, with hyphens for what is no letter, digit, dot or underscore. -/
def sanitizeFragment (value : Str) : Str :=
  let value := trimSpace (toLower value)
  if value = [] then str "artifact"
  else
    let out := trimByte 45 ((runes value).map fun r =>
      match r with
      | .char c =>
        if ('a' ≤ c ∧ c ≤ 'z') ∨ ('0' ≤ c ∧ c ≤ '9') ∨ c = '-' ∨ c = '_' ∨ c = '.' then
          c.toUInt8 else 45
      | .bad _ => 45)
    if out = [] then str "artifact" else out

/-! ### Sources -/

/-- The scheme of a URI, in lower case. -/
def fetchURIScheme (raw : Str) : Option Str :=
  (parseUrl (trimSpace raw)).map fun u => toLower (trimSpace u.scheme)

def fetchAllowFileURIEnv : Str := str "BPFCOMPAT_FETCH_ALLOW_FILE_URI"

def fetchAllowFileURIEnabled (w : FetchHost) : Bool :=
  trimSpace (toLower (w.getenv fetchAllowFileURIEnv)) ∈
    [str "1", str "true", str "yes", str "on"]

/-- A URI that may be downloaded. -/
def resolveURI (w : FetchHost) (label uri scheme : Str) : Option (Except Str (Str × Bool)) :=
  if scheme = str "http" ∨ scheme = str "https" then some (.ok (uri, true))
  else if scheme = str "file" then
    if fetchAllowFileURIEnabled w then some (.ok (uri, true))
    else some (.error (str "file " ++ label ++ str " is disabled; set " ++ fetchAllowFileURIEnv ++
      str "=true only for local-dev proof runs"))
  else none

/-- The source of a record by its URI. -/
def resolveArtifactURI (w : FetchHost) (record : ArtifactVersionRecord) : Except Str (Str × Bool) :=
  let artifactPath := trimSpace record.artifactPath
  let artifactURI := trimSpace record.artifactURI
  if artifactURI ≠ [] then
    match fetchURIScheme artifactURI with
    | none => .error (str "parse artifact_uri")
    | some scheme =>
      (resolveURI w (str "artifact_uri") artifactURI scheme).getD
        (.error (str "artifact_uri must use one of: http, https (file requires " ++
          fetchAllowFileURIEnv ++ str "=true)"))
  else if artifactPath = [] then
    .error (str "record has empty artifact source metadata (artifact_path/artifact_uri)")
  else
    .error (str "artifact source not found at " ++ quote (clean artifactPath) ++
      str " and no artifact_uri provided")

/-- Where the bytes of a record come from, and whether they have to be downloaded. -/
def resolveFetchSource (w : FetchHost) (files : Files) (record : ArtifactVersionRecord) :
    Except Str (Str × Bool) :=
  let artifactPath := trimSpace record.artifactPath
  if artifactPath = [] then resolveArtifactURI w record
  else
    match fetchURIScheme artifactPath with
    | none => .error (str "parse artifact_path URI")
    | some scheme =>
      match resolveURI w (str "artifact_path URI") artifactPath scheme with
      | some source => source
      | none =>
        if scheme ≠ [] then
          .error (str "artifact_path URI scheme " ++ quote scheme ++
            str " is not supported (use http, https; file requires " ++ fetchAllowFileURIEnv ++
            str "=true)")
        else
          let cleanPath := clean artifactPath
          match w.ioError .stat cleanPath with
          | some e => .error (str "stat artifact source path: " ++ e)
          | none =>
            if (files (absPath w.cwd cleanPath)).isSome then .ok (cleanPath, false)
            else resolveArtifactURI w record

omit [CaseTables] in
/-- The suffix of the file a source names. -/
def artifactExtensionFromSource (source : Str) (remote : Bool) : Str :=
  if !remote then ext (base source)
  else
    match parseUrl source with
    | none => []
    | some u => ext (base u.path)

omit [CaseTables] in
def localJoin (dir component : Str) : Except Str Str :=
  let rel := joinPath [component]
  if !isLocal rel then
    .error (str "path component " ++ quote rel ++ str " escapes base directory " ++ quote dir)
  else .ok (joinPath [dir, rel])

/-! ### Copying and downloading -/

omit [CaseTables] in
/-- A file is copied next to the target under its own name, which must be free there, and then
renamed; the path is absolute. -/
def copyLocalArtifactToPath (w : FetchHost) (files : Files) (sourcePath targetPath : Str) :
    Except Str (Str × Files) :=
  let source := absPath w.cwd sourcePath
  let staged := joinPath [absPath w.cwd (dir targetPath), base source]
  match files source with
  | none => .error (str "copy artifact to output directory: open source artifact")
  | some content =>
    if (files staged).isSome then
      .error (str "copy artifact to output directory: create staged artifact")
    else
      match w.ioError .copy staged with
      | some e => .error (str "copy artifact to output directory: " ++ e)
      | none =>
        if base staged = base targetPath then .ok (staged, files.set staged (some content))
        else
          let renamed := joinPath [dir staged, base targetPath]
          match w.ioError .rename renamed with
          | some e => .error (str "rename fetched artifact: " ++ e)
          | none => .ok (renamed, (files.set staged none).set renamed (some content))

/-- A URI is downloaded, or copied where it names a local file. -/
def fetchRemoteArtifact (w : FetchHost) (files : Files) (sourceURI targetPath : Str) :
    Except Str Files :=
  match parseUrl sourceURI with
  | none => .error (str "parse remote artifact URI")
  | some u =>
    let scheme := toLower (trimSpace u.scheme)
    if scheme = str "http" ∨ scheme = str "https" then
      match w.download sourceURI with
      | .error e => .error e
      | .ok content => .ok (files.set (absPath w.cwd targetPath) (some content))
    else if scheme = str "file" then
      if !fetchAllowFileURIEnabled w then
        .error (str "file artifact URI is disabled; set " ++ fetchAllowFileURIEnv ++
          str "=true only for local-dev proof runs")
      else if trimSpace u.host ≠ [] ∧ trimSpace u.host ≠ str "localhost" then
        .error (str "file URI host " ++ quote u.host ++ str " is not supported")
      else if trimSpace u.path = [] then .error (str "file URI path is empty")
      else (copyLocalArtifactToPath w files (clean u.path) targetPath).map Prod.snd
    else .error (str "unsupported artifact URI scheme " ++ quote u.scheme)

/-- The bytes of a source, put at the target path or, where they are copied, at the absolute path
of it. -/
def stageArtifact (w : FetchHost) (files : Files) (source targetPath : Str) (remote : Bool) :
    Except Str (Str × Files) :=
  if remote then (fetchRemoteArtifact w files source targetPath).map fun files => (targetPath, files)
  else copyLocalArtifactToPath w files source targetPath

omit [CaseTables] in
/-- The hash of the file at a path. -/
def inspectArtifact (sha256 : Str → Str) (w : FetchHost) (files : Files) (path : Str) :
    Except Str Str :=
  match w.ioError .open path, files (absPath w.cwd path) with
  | some e, _ => .error e
  | none, none => .error (str "open artifact")
  | none, some content => .ok (hexEncode (sha256 content))

/-- The file name of a record below the output directory. -/
def fetchTargetPath (record : ArtifactVersionRecord) (source : Str) (remote : Bool) (outDir : Str) :
    Except Str Str :=
  let targetName := record.artifactName ++ str "-" ++ record.artifactVersion ++
    if record.artifactVariant ≠ [] then str "-" ++ sanitizeFragment record.artifactVariant else []
  let suffix := artifactExtensionFromSource source remote
  let suffix := if suffix = [] then str ".bpf.o" else suffix
  localJoin outDir (sanitizeFragment targetName ++ suffix)

def fetchArtifact (sha256 : Str → Str) (w : FetchHost) (files : Files)
    (record : ArtifactVersionRecord) (outDir : Str) : Except Str (FetchResult × Files) := do
  if trimSpace outDir = [] then .error (str "output directory is required")
  else
    let (source, remote) ← resolveFetchSource w files record
    match w.ioError .mkdirAll outDir with
    | some e => .error (str "create output directory: " ++ e)
    | none =>
      let targetPath ← fetchTargetPath record source remote outDir
      let (stagedPath, files) ← stageArtifact w files source targetPath remote
      let actual ← inspectArtifact sha256 w files stagedPath
      let expected := trimSpace record.artifactSHA256
      if expected ≠ [] ∧ actual ≠ expected then
        .error (str "fetched artifact hash mismatch: expected=" ++ expected ++ str " got=" ++ actual)
      else
        .ok ({
          artifactName := record.artifactName
          artifactVersion := record.artifactVersion
          artifactVariant := record.artifactVariant
          outputPath := stagedPath
          expectedSHA256 := expected
          actualSHA256 := actual }, files)

/-! ### What a fetch guarantees -/

/-- The file at the output path has the hash the result reports, and the hash that was expected if
one was. -/
structure Fetched (sha256 : Str → Str) (cwd expected : Str) (result : FetchResult) (files : Files) :
    Prop where
  stored : ∃ content, files (absPath cwd result.outputPath) = some content ∧
    result.actualSHA256 = hexEncode (sha256 content)
  expected_eq : result.expectedSHA256 = expected
  actual_eq : expected ≠ [] → result.actualSHA256 = expected

omit [CaseTables] in
theorem inspectArtifact_eq_ok {sha256 : Str → Str} {w : FetchHost} {files : Files}
    {path actual : Str} (h : inspectArtifact sha256 w files path = .ok actual) :
  ∃ content, files (absPath w.cwd path) = some content ∧ actual = hexEncode (sha256 content)
  := by
  rw [inspectArtifact] at h
  split at h
  · cases h
  · cases h
  · rename_i content _ hcontent
    exact ⟨content, hcontent, (Except.ok.inj h).symm⟩

theorem fetchArtifact_spec {sha256 : Str → Str} {w : FetchHost} {files files' : Files}
    {record : ArtifactVersionRecord} {outDir : Str} {result : FetchResult}
    (h : fetchArtifact sha256 w files record outDir = .ok (result, files')) :
  Fetched sha256 w.cwd (trimSpace record.artifactSHA256) result files'
  := by
  rw [fetchArtifact, refuse_if_eq_ok_iff] at h
  obtain ⟨-, h⟩ := h
  obtain ⟨⟨source, remote⟩, -, h⟩ := bind_eq_ok_iff.mp h
  dsimp only at h
  split at h
  · cases h
  · obtain ⟨targetPath, -, h⟩ := bind_eq_ok_iff.mp h
    obtain ⟨⟨stagedPath, files''⟩, -, h⟩ := bind_eq_ok_iff.mp h
    obtain ⟨actual, hactual, h⟩ := bind_eq_ok_iff.mp h
    rw [refuse_if_eq_ok_iff, Except.ok.injEq, Prod.mk.injEq] at h
    obtain ⟨hmatch, rfl, rfl⟩ := h
    refine ⟨inspectArtifact_eq_ok hactual, rfl, ?_⟩
    intro hne
    by_contra hactual'
    exact hmatch ⟨hne, hactual'⟩

end

end Runtime
