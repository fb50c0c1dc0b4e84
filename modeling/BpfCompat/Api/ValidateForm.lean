import BpfCompat.Api.WriteAuth
import BpfCompat.CloudRegistry.Evidence
import BpfCompat.Go.Duration
import BpfCompat.Go.Join
import BpfCompat.Overwrite
import BpfCompat.Runner.Report

/-!
# The files of a validate request

A validate request brings an artifact, or a source that is compiled, and perhaps a manifest, and it
may select profiles, from which a matrix is generated.  All of it is written into one directory, one
file after the other, the uploaded files under the names the client gave them as far as these are
safe.

A name that is safe in a shell may still be the name of another input.  What is uploaded and
generated is where the configuration of the run says exactly if no two inputs of different contents
have the same name and the compiler writes what it is asked for (`inputs_kept_iff`).
-/

namespace Api

open Go Matrices Runner Overwrite
open CloudRegistry (collectMultiValues parseIntOrDefault)

/-! ### The source -/

structure UploadedFile where
  filename : Str
  content : Str

/-- A multipart form: the first value of a field, all its values, and its first file. -/
structure ValidateForm where
  value : Str → Str
  values : Str → List Str
  file : Str → Option UploadedFile

/-- The files by their cleaned paths. -/
abbrev Files := Str → Option Str

/-- A run of the compiler: the error with which it ends, whether its time was over, what it prints,
and the object it writes.  A run may end without an error and write nothing, as it does for a source
that has the name of an object. -/
structure ClangRun where
  failure : Option Str := none
  timedOut : Bool := false
  output : Str := []
  object : Option Str := none

/-- The settings of a server, and what it finds around it: the identifiers it draws, the errors of
the file system, the compiler, the profiles, and the encoder of matrices. -/
structure ValidateServer where
  host : Host
  workDir : Str
  defaultMatrixPath : Str
  defaultTimeout : Int
  defaultConcurrency : Int64
  uploadID : Str
  reportID : Str
  mkdirError : Str → Option Str
  createError : Str → Option Str
  copyError : Str → Option Str
  writeError : Str → Option Str
  clang : List Str → Files → ClangRun
  loadMatrix : Str → Except Str ProfileMatrix
  profilePaths : Except Str (List Str)
  loadProfile : Str → Except Str Vm.Profile
  marshalMatrix : ProfileMatrix → Except Str Str

/-- Why there is no configuration. -/
inductive ValidateError where
  | parseForm (err : Str)
  | createUploadDir (err : Str)
  | createUploadFile (err : Str)
  | writeUploadFile (err : Str)
  | writeSourceText (err : Str)
  | artifactMissing
  | clangFlagsDisabled
  | unsupportedClangFlag (flag : Str)
  | compileTimedOut (timeout : Int)
  | compileFailed (err output hint : Str)
  | writeManifestText (err : Str)
  | defaultMatrixMissing
  | tooManyProfiles (allowed : Int)
  | loadCatalog (err : Str)
  | emptyCatalog
  | invalidProfileID (id : Str)
  | unknownProfileID (id : Str)
  | invalidRequiredProfileID (id : Str)
  | requiredNotSelected (id : Str)
  | marshalMatrix (err : Str)
  | writeMatrix (err : Str)
  | invalidTimeout (err : Str)
  | timeoutNotPositive
  | timeoutExceeds (allowed : Int)
  | concurrencyExceeds (allowed : Int)
  | invalidConfig (err : ConfigError)

def ValidateError.status : ValidateError → Nat
  | .createUploadDir _ => 500
  | _ => 400

/-- The names `apiSafeUploadFileNamePattern` matches. -/
def matchesSafeUploadFileName (s : Str) : Bool :=
  s ≠ [] && s.length ≤ 128 && s.all fun b => isAlphanumeric b || b == 46 || b == 95 || b == 45

/-- The identifiers of preprocessor flags. -/
def isIdentifier : Str → Bool
  | [] => false
  | b :: rest =>
    (isAlphanumeric b && !isDecimal b || b == 95) && rest.all fun b => isAlphanumeric b || b == 95

/-- The flags `apiAllowedClangFlagPattern` matches. -/
def matchesAllowedClangFlag (flag : Str) : Bool :=
  if (str "-D").isPrefixOf flag then
    let body := flag.drop 2
    isIdentifier (body.takeWhile (· ≠ 61)) && !(body.dropWhile (· ≠ 61)).contains 10
  else if (str "-U").isPrefixOf flag then isIdentifier (flag.drop 2)
  else false

section

variable [UnicodeTables]

def parseBoundedIntEnv (host : Host) (key : String) (fallback minValue maxValue : Int) : Int :=
  let value := trimSpace (host.getenv (str key))
  if value = [] then fallback
  else
    match atoi value with
    | none => fallback
    | some parsed => max minValue (min parsed maxValue)

def parseBoundedDurationEnv [Fractions] (host : Host) (key : String) (fallback minValue maxValue : Int) : Int :=
  let value := trimSpace (host.getenv (str key))
  if value = [] then fallback
  else
    match parseDuration value with
    | .error _ => fallback
    | .ok parsed => max minValue (min parsed maxValue)

/-- A second, in nanoseconds. -/
def second : Int := 1000000000

def maxValidateConcurrency (host : Host) : Int :=
  parseBoundedIntEnv host "BPFCOMPAT_API_MAX_VALIDATE_CONCURRENCY" 8 1 64

def maxValidateProfiles (host : Host) : Int :=
  parseBoundedIntEnv host "BPFCOMPAT_API_MAX_VALIDATE_PROFILES" 32 1 256

def maxValidateTimeout [Fractions] (host : Host) : Int :=
  parseBoundedDurationEnv host "BPFCOMPAT_API_MAX_VALIDATE_TIMEOUT" (900 * second) (60 * second)
    (7200 * second)

def sourceCompileTimeout [Fractions] (host : Host) : Int :=
  parseBoundedDurationEnv host "BPFCOMPAT_API_SOURCE_COMPILE_TIMEOUT" (30 * second) (5 * second)
    (300 * second)

def sourceCompileAllowExtraFlags (host : Host) : Bool :=
  parseBoolEnv host "BPFCOMPAT_API_SOURCE_COMPILE_ALLOW_EXTRA_FLAGS" false

/-- The name of an uploaded file, or the given one where its own is not safe. -/
def sanitizeFileName (value fallback : Str) : Str :=
  let cleaned := trimSpace (base value)
  if cleaned = [] ∨ cleaned = str "." ∨ cleaned = str "/" then fallback
  else if matchesSafeUploadFileName cleaned then cleaned
  else fallback

variable (srv : ValidateServer)

omit [UnicodeTables] in
def newUploadDir : Except ValidateError Str :=
  let dir := joinPath [clean srv.workDir, str "uploads", srv.uploadID]
  match srv.mkdirError dir with
  | some err => .error (.createUploadDir err)
  | none => .ok dir

omit [UnicodeTables] in
def writeUploadedFile (path content : Str) (files : Files) : Except ValidateError Files :=
  match srv.createError (clean path) with
  | some err => .error (.createUploadFile err)
  | none =>
    match srv.copyError (clean path) with
    | some err => .error (.writeUploadFile err)
    | none => .ok (Function.update files (clean path) (some content))

omit [UnicodeTables] in
/-- A file is written as a whole. -/
def writeFile (wrap : Str → ValidateError) (path content : Str) (files : Files) :
    Except ValidateError Files :=
  match srv.writeError path with
  | some err => .error (wrap err)
  | none => .ok (Function.update files (clean path) (some content))

def splitShellWords (input : Str) : List Str :=
  ((Go.fields input).map trimSpace).filter (· ≠ [])

def sanitizeExtraClangFlags (extraFlags : Str) : Except ValidateError (List Str) :=
  let flags := splitShellWords extraFlags
  if flags = [] then .ok []
  else if sourceCompileAllowExtraFlags srv.host = false then .error .clangFlagsDisabled
  else
    match flags.find? fun flag => !matchesAllowedClangFlag flag with
    | some flag => .error (.unsupportedClangFlag flag)
    | none => .ok flags

def compileFailureHint (output : Str) : Str :=
  let lower := toLower output
  if str "incomplete definition of type" <:+: lower ∨ str "unknown type name" <:+: lower then
    str "the uploaded source references kernel types without required headers; provide vmlinux.h/include headers or upload a prebuilt .bpf.o artifact"
  else if str "fatal error:" <:+: lower ∧ str "file not found" <:+: lower then
    str "a required header is missing; bundle headers with the source flow or upload a prebuilt .bpf.o artifact"
  else []

omit [UnicodeTables] in
/-- What the compiler is called with. -/
def clangArgs (allowedExtraFlags : List Str) (sourcePath outPath : Str) : List Str :=
  allowedExtraFlags ++ [str "-O2", str "-g", str "-target", str "bpf", str "-D__TARGET_ARCH_x86",
    str "-I/usr/include/x86_64-linux-gnu", str "-c", sourcePath, str "-o", outPath]

def compiledName : Str := str "compiled.bpf.o"

def compileSourceFile [Fractions] (sourcePath requestDir extraFlags : Str) (files : Files) :
    Except ValidateError (Str × Files) := do
  let outPath := joinPath [requestDir, compiledName]
  let allowedExtraFlags ← sanitizeExtraClangFlags srv extraFlags
  let run := srv.clang (clangArgs allowedExtraFlags sourcePath outPath) files
  match run.failure with
  | some err =>
    if run.timedOut then .error (.compileTimedOut (sourceCompileTimeout srv.host))
    else
      let trimmed := trimSpace run.output
      .error (.compileFailed err trimmed (compileFailureHint trimmed))
  | none =>
    match run.object with
    | some object => .ok (outPath, Function.update files (clean outPath) (some object))
    | none => .ok (outPath, files)

variable (form : ValidateForm)

def extractArtifact [Fractions] (requestDir : Str) (files : Files) : Except ValidateError (Str × Files) :=
  match form.file (str "artifact_file") with
  | some file => do
    let path := joinPath [requestDir, sanitizeFileName file.filename (str "uploaded-artifact.bpf.o")]
    let files ← writeUploadedFile srv path file.content files
    return (path, files)
  | none =>
    match form.file (str "source_file") with
    | some file => do
      let sourcePath :=
        joinPath [requestDir, sanitizeFileName file.filename (str "uploaded-source.bpf.c")]
      let files ← writeUploadedFile srv sourcePath file.content files
      compileSourceFile srv sourcePath requestDir (trimSpace (form.value (str "clang_flags"))) files
    | none =>
      let sourceText := form.value (str "source_code")
      if trimSpace sourceText ≠ [] then do
        let sourcePath := joinPath [requestDir, str "uploaded-source.bpf.c"]
        let files ← writeFile srv .writeSourceText sourcePath sourceText files
        compileSourceFile srv sourcePath requestDir (trimSpace (form.value (str "clang_flags"))) files
      else .error .artifactMissing

def extractManifest (requestDir : Str) (files : Files) : Except ValidateError (Str × Files) :=
  match form.file (str "manifest_file") with
  | some file => do
    let path := joinPath [requestDir, sanitizeFileName file.filename (str "manifest.yaml")]
    let files ← writeUploadedFile srv path file.content files
    return (path, files)
  | none =>
    let manifestText := trimSpace (form.value (str "manifest_text"))
    if manifestText = [] then .ok ([], files)
    else do
      let path := joinPath [requestDir, str "manifest.yaml"]
      let files ← writeFile srv .writeManifestText path manifestText files
      return (path, files)

/-- The identifiers of the profiles that are found. -/
def listProfiles : Except Str (List Str) := do
  if trimSpace srv.defaultMatrixPath ≠ [] then
    match srv.loadMatrix srv.defaultMatrixPath with
    | .error err => .error (str "load default matrix: " ++ err)
    | .ok _ => .ok ()
  let paths ← srv.profilePaths
  (sortKeys paths).mapM fun p =>
    match srv.loadProfile p with
    | .error err => .error (str "load profile " ++ quote p ++ str ": " ++ err)
    | .ok profile =>
      if matchesProfileIDPattern (trimSpace profile.id) = false then
        .error (str "profile " ++ quote p ++ str " has invalid id " ++ quote profile.id)
      else .ok profile.id

def profileCatalogSet : Except ValidateError (List Str) :=
  match listProfiles srv with
  | .error err => .error (.loadCatalog (str "load profile catalog: " ++ err))
  | .ok profiles =>
    let catalog := (profiles.map trimSpace).filter (· ≠ [])
    if catalog = [] then .error .emptyCatalog else .ok catalog

def ValidateForm.selectedProfiles : List Str := collectMultiValues (form.values (str "profiles"))

def ValidateForm.requiredProfiles : List Str :=
  collectMultiValues (form.values (str "required_profiles"))

omit [UnicodeTables] in
def checkSelected (catalog : List Str) (selected : List Str) : Except ValidateError Unit :=
  selected.forM fun id =>
    if matchesProfileIDPattern id = false then .error (.invalidProfileID id)
    else if id ∉ catalog then .error (.unknownProfileID id)
    else .ok ()

omit [UnicodeTables] in
def checkRequired (selected required : List Str) : Except ValidateError Unit :=
  required.forM fun id =>
    if matchesProfileIDPattern id = false then .error (.invalidRequiredProfileID id)
    else if id ∉ selected then .error (.requiredNotSelected id)
    else .ok ()

/-- The matrix of the selected profiles. -/
def ValidateForm.matrixDoc : ProfileMatrix where
  name := str "ui-selection"
  profiles := form.selectedProfiles.map fun id =>
    { id, required := some (decide (id ∈ form.requiredProfiles)) }

def matrixName : Str := str "matrix.yaml"

def resolveMatrixPath (requestDir : Str) (files : Files) : Except ValidateError (Str × Files) :=
  let selectedProfiles := form.selectedProfiles
  if selectedProfiles = [] then
    if trimSpace srv.defaultMatrixPath = [] then .error .defaultMatrixMissing
    else .ok (srv.defaultMatrixPath, files)
  else if maxValidateProfiles srv.host < selectedProfiles.length then
    .error (.tooManyProfiles (maxValidateProfiles srv.host))
  else do
    let catalog ← profileCatalogSet srv
    checkSelected catalog selectedProfiles
    checkRequired selectedProfiles form.requiredProfiles
    match srv.marshalMatrix form.matrixDoc with
    | .error err => .error (.marshalMatrix err)
    | .ok payload =>
      let matrixPath := joinPath [requestDir, matrixName]
      let files ← writeFile srv .writeMatrix matrixPath payload files
      return (matrixPath, files)

/-- The timeout of a run. -/
def requestedTimeout [Fractions] : Except ValidateError Int := do
  let timeoutText := trimSpace (form.value (str "timeout"))
  let timeout ←
    if timeoutText = [] then .ok srv.defaultTimeout
    else
      match parseDuration timeoutText with
      | .error err => .error (.invalidTimeout err)
      | .ok timeout => .ok timeout
  if timeout ≤ 0 then .error .timeoutNotPositive
  else if maxValidateTimeout srv.host < timeout then
    .error (.timeoutExceeds (maxValidateTimeout srv.host))
  else .ok timeout

/-- The number of targets that are executed at a time. -/
def requestedConcurrency : Except ValidateError Int64 :=
  let concurrency := max 1 (parseIntOrDefault (form.value (str "concurrency")) srv.defaultConcurrency)
  if maxValidateConcurrency srv.host < concurrency.toInt then
    .error (.concurrencyExceeds (maxValidateConcurrency srv.host))
  else .ok concurrency

/-- The configuration of the run that a form asks for, and the files after it was made. -/
def buildValidateRunnerConfig [Fractions] (form : Except Str ValidateForm) (files : Files) :
    Except ValidateError (Config × Files) := do
  let form ← form.mapError .parseForm
  let requestDir ← newUploadDir srv
  let (artifactPath, files) ← extractArtifact srv form requestDir files
  let (manifestPath, files) ← extractManifest srv form requestDir files
  let (matrixPath, files) ← resolveMatrixPath srv form requestDir files
  let timeout ← requestedTimeout srv form
  let concurrency ← requestedConcurrency srv form
  let reportBase := str "ui-" ++ srv.reportID
  let cfg : Config :=
    { artifactPath
      artifactURI := trimSpace (form.value (str "artifact_uri"))
      artifactName := trimSpace (form.value (str "artifact_name"))
      artifactVersion := trimSpace (form.value (str "artifact_version"))
      artifactVariant := trimSpace (form.value (str "artifact_variant"))
      validationMode := trimSpace (form.value (str "validation_mode"))
      matrixPath
      manifestPath
      outPath := joinPath [str "reports", reportBase ++ str ".json"]
      markdownPath := joinPath [str "reports", reportBase ++ str ".md"]
      workDir := srv.workDir
      runner := str "vm"
      concurrency
      timeout }
  match cfg.validate with
  | .error err => .error (.invalidConfig err)
  | .ok () => return (cfg, files)

/-! ### What a form brings -/

/-- The name under which the artifact is kept. -/
def ValidateForm.artifactName : Str :=
  match form.file (str "artifact_file") with
  | some file => sanitizeFileName file.filename (str "uploaded-artifact.bpf.o")
  | none => compiledName

/-- The source and the name under which it is kept. -/
def ValidateForm.source : Str × Str :=
  match form.file (str "source_file") with
  | some file => (sanitizeFileName file.filename (str "uploaded-source.bpf.c"), file.content)
  | none => (str "uploaded-source.bpf.c", form.value (str "source_code"))

/-- The object the compiler writes for the source. -/
def compiledObject (requestDir : Str) (files : Files) : Option Str :=
  match sanitizeExtraClangFlags srv (trimSpace (form.value (str "clang_flags"))) with
  | .error _ => none
  | .ok flags =>
    let sourcePath := joinPath [requestDir, form.source.1]
    (srv.clang (clangArgs flags sourcePath (joinPath [requestDir, compiledName]))
      (Function.update files (clean sourcePath) (some form.source.2))).object

/-- The artifact that is uploaded or compiled. -/
def givenArtifact (requestDir : Str) (files : Files) : Option Str :=
  match form.file (str "artifact_file") with
  | some file => some file.content
  | none => compiledObject srv form requestDir files

/-- The manifest and the name under which it is kept. -/
def ValidateForm.manifest : Option (Str × Str) :=
  match form.file (str "manifest_file") with
  | some file => some (sanitizeFileName file.filename (str "manifest.yaml"), file.content)
  | none =>
    let manifestText := trimSpace (form.value (str "manifest_text"))
    if manifestText = [] then none else some (str "manifest.yaml", manifestText)

/-- The selection that is generated, where profiles are selected, and its name. -/
def generatedSelection : Option (Str × Str) :=
  if form.selectedProfiles = [] then none
  else
    match srv.marshalMatrix form.matrixDoc with
    | .error _ => none
    | .ok payload => some (matrixName, payload)

omit [UnicodeTables] in
/-- The directory of a request. -/
def ValidateServer.requestDir : Str := joinPath [clean srv.workDir, str "uploads", srv.uploadID]

/-- Each input is where the configuration says. -/
structure InputsKept (files : Files) (cfg : Config) (files' : Files) : Prop where
  artifact : ∃ content, givenArtifact srv form srv.requestDir files = some content ∧
    files' (clean cfg.artifactPath) = some content
  manifest : ∀ m, form.manifest = some m → files' (clean cfg.manifestPath) = some m.2
  matrix : ∀ m, generatedSelection srv form = some m → files' (clean cfg.matrixPath) = some m.2

/-- The inputs and their names, in the order in which they are written. -/
def givenInputs (artifact : Str) : List (Str × Str) :=
  (form.artifactName, artifact) :: (form.manifest.toList ++ (generatedSelection srv form).toList)

/-- There is an artifact, and no two inputs of different contents have the same name. -/
def InputsApart (files : Files) : Prop :=
  ∃ artifact, givenArtifact srv form srv.requestDir files = some artifact ∧
    (givenInputs srv form artifact).Pairwise fun w w' => w.1 = w'.1 → w.2 = w'.2

/-! ### Where the inputs are written -/

omit [UnicodeTables] in
theorem component_of_safe {name : Str} (h : matchesSafeUploadFileName name = true)
    (hdot : name ≠ str ".") :
  Component name
  := by
  simp only [matchesSafeUploadFileName, Bool.and_eq_true, decide_eq_true_eq, List.all_eq_true] at h
  refine ⟨h.1.1, hdot, fun hslash => ?_⟩
  exact absurd (h.2 47 hslash) (by decide)

omit [UnicodeTables] in
theorem component_sanitizeFileName (value : Str) {fallback : Str} (h : Component fallback) :
  Component (sanitizeFileName value fallback)
  := by
  rw [sanitizeFileName]
  split_ifs with hempty hsafe
  · exact h
  · exact component_of_safe hsafe fun hdot => hempty (.inr (.inl hdot))
  · exact h

omit [UnicodeTables] in
theorem component_fixed {name : Str} (h : name ∈ [str "uploaded-artifact.bpf.o", compiledName,
    str "manifest.yaml", matrixName]) :
  Component name
  := by
  apply component_of_safe
  · revert name
    decide
  · revert name
    decide

omit [UnicodeTables] in
theorem component_artifactName :
  Component form.artifactName
  := by
  rw [ValidateForm.artifactName]
  split
  · exact component_sanitizeFileName _ (component_fixed (by simp))
  · exact component_fixed (by simp)

omit [UnicodeTables] in
theorem component_manifest {m : Str × Str} (h : form.manifest = some m) :
  Component m.1
  := by
  rw [ValidateForm.manifest] at h
  split at h
  · cases h
    exact component_sanitizeFileName _ (component_fixed (by simp))
  · dsimp only at h
    split_ifs at h
    cases h
    exact component_fixed (by simp)

omit [UnicodeTables] in
theorem component_generatedSelection {m : Str × Str} (h : generatedSelection srv form = some m) :
  Component m.1
  := by
  rw [generatedSelection] at h
  split_ifs at h
  split at h
  · cases h
  · cases h
    exact component_fixed (by simp)

variable {srv form}

omit [UnicodeTables] in
theorem newUploadDir_eq_ok {dir : Str} (h : newUploadDir srv = .ok dir) :
  dir = srv.requestDir
  := by
  rw [newUploadDir] at h
  split at h
  · cases h
  · exact (Except.ok.inj h).symm

omit [UnicodeTables] in
theorem writeUploadedFile_eq_ok {path content : Str} {files files' : Files}
    (h : writeUploadedFile srv path content files = .ok files') :
  files' = Function.update files (clean path) (some content)
  := by
  rw [writeUploadedFile] at h
  split at h
  · cases h
  · split at h
    · cases h
    · exact (Except.ok.inj h).symm

omit [UnicodeTables] in
theorem writeFile_eq_ok {wrap : Str → ValidateError} {path content : Str} {files files' : Files}
    (h : writeFile srv wrap path content files = .ok files') :
  files' = Function.update files (clean path) (some content)
  := by
  rw [writeFile] at h
  split at h
  · cases h
  · exact (Except.ok.inj h).symm

/-- What is compiled is kept where the compiler is told to write. -/
theorem compileSourceFile_eq_ok [Fractions] {sourcePath requestDir extraFlags path : Str} {files files' : Files}
    (h : compileSourceFile srv sourcePath requestDir extraFlags files = .ok (path, files')) :
  path = joinPath [requestDir, compiledName] ∧
    ∃ flags, sanitizeExtraClangFlags srv extraFlags = .ok flags ∧
      ∀ object, (srv.clang (clangArgs flags sourcePath path) files).object = some object →
        files' = Function.update files (clean path) (some object)
  := by
  obtain ⟨flags, hflags, h⟩ := bind_eq_ok_iff.mp h
  dsimp only at h
  split at h
  · split_ifs at h
  · split at h
    · rename_i object hobject
      cases h
      refine ⟨rfl, flags, hflags, ?_⟩
      intro object' hobject'
      rw [hobject] at hobject'
      rw [Option.some.inj hobject']
    · rename_i hobject
      cases h
      refine ⟨rfl, flags, hflags, ?_⟩
      intro object' hobject'
      rw [hobject] at hobject'
      cases hobject'

theorem extractArtifact_eq_ok [Fractions] {requestDir path : Str} {files files' : Files}
    (h : extractArtifact srv form requestDir files = .ok (path, files')) :
  path = joinPath [requestDir, form.artifactName] ∧
    ∀ content, givenArtifact srv form requestDir files = some content →
      ∃ before, files' = Function.update before (clean path) (some content)
  := by
  cases hfile : form.file (str "artifact_file") with
  | some file =>
      simp only [extractArtifact, hfile] at h
      simp only [ValidateForm.artifactName, givenArtifact, hfile]
      obtain ⟨written, hwritten, h⟩ := bind_eq_ok_iff.mp h
      cases h
      refine ⟨rfl, fun content hcontent => ⟨files, ?_⟩⟩
      cases hcontent
      exact writeUploadedFile_eq_ok hwritten
  | none =>
      simp only [extractArtifact, hfile] at h
      simp only [ValidateForm.artifactName, givenArtifact, hfile]
      cases hsource : form.file (str "source_file") with
      | some source =>
          simp only [hsource] at h
          obtain ⟨written, hwritten, h⟩ := bind_eq_ok_iff.mp h
          obtain ⟨hpath, flags, hflags, hobject⟩ := compileSourceFile_eq_ok h
          refine ⟨hpath, fun content hcontent => ⟨written, ?_⟩⟩
          simp only [compiledObject, hflags, ValidateForm.source, hsource] at hcontent
          apply hobject
          rw [writeUploadedFile_eq_ok hwritten, hpath]
          exact hcontent
      | none =>
          simp only [hsource] at h
          split_ifs at h
          obtain ⟨written, hwritten, h⟩ := bind_eq_ok_iff.mp h
          obtain ⟨hpath, flags, hflags, hobject⟩ := compileSourceFile_eq_ok h
          refine ⟨hpath, fun content hcontent => ⟨written, ?_⟩⟩
          simp only [compiledObject, hflags, ValidateForm.source, hsource] at hcontent
          apply hobject
          rw [writeFile_eq_ok hwritten, hpath]
          exact hcontent

omit [UnicodeTables] in
/-- A form brings a manifest, which is written, or none. -/
theorem extractManifest_eq_ok {requestDir path : Str} {files files' : Files}
    (h : extractManifest srv form requestDir files = .ok (path, files')) :
  (∀ m, form.manifest = some m → path = joinPath [requestDir, m.1]) ∧
    files' = writeAll files
      (form.manifest.toList.map fun m => (clean (joinPath [requestDir, m.1]), m.2))
  := by
  cases hfile : form.file (str "manifest_file") with
  | some file =>
      simp only [extractManifest, hfile] at h
      simp only [ValidateForm.manifest, hfile]
      obtain ⟨written, hwritten, h⟩ := bind_eq_ok_iff.mp h
      cases h
      refine ⟨fun m hm => ?_, writeUploadedFile_eq_ok hwritten⟩
      cases hm
      rfl
  | none =>
      simp only [extractManifest, hfile] at h
      simp only [ValidateForm.manifest, hfile]
      split_ifs at h ⊢
      · cases h
        exact ⟨fun m hm => absurd hm (by simp), rfl⟩
      · obtain ⟨written, hwritten, h⟩ := bind_eq_ok_iff.mp h
        cases h
        refine ⟨fun m hm => ?_, writeFile_eq_ok hwritten⟩
        cases hm
        rfl

theorem resolveMatrixPath_eq_ok {requestDir path : Str} {files files' : Files}
    (h : resolveMatrixPath srv form requestDir files = .ok (path, files')) :
  (∀ m, generatedSelection srv form = some m → path = joinPath [requestDir, m.1]) ∧
    files' = writeAll files
      ((generatedSelection srv form).toList.map fun m => (clean (joinPath [requestDir, m.1]), m.2))
  := by
  rw [resolveMatrixPath] at h
  rw [generatedSelection]
  dsimp only at h
  split_ifs at h ⊢
  · cases h
    exact ⟨fun m hm => absurd hm (by simp), rfl⟩
  · obtain ⟨catalog, -, h⟩ := bind_eq_ok_iff.mp h
    obtain ⟨-, -, h⟩ := bind_eq_ok_iff.mp h
    obtain ⟨-, -, h⟩ := bind_eq_ok_iff.mp h
    split at h
    · cases h
    · obtain ⟨written, hwritten, h⟩ := bind_eq_ok_iff.mp h
      cases h
      refine ⟨fun m hm => ?_, writeFile_eq_ok hwritten⟩
      cases hm
      rfl

/-- What is written where for a form. -/
theorem buildValidateRunnerConfig_eq_ok [Fractions] {cfg : Config} {files files' : Files}
    (h : buildValidateRunnerConfig srv (.ok form) files = .ok (cfg, files')) :
  cfg.artifactPath = joinPath [srv.requestDir, form.artifactName] ∧
    (∀ m, form.manifest = some m → cfg.manifestPath = joinPath [srv.requestDir, m.1]) ∧
    (∀ m, generatedSelection srv form = some m → cfg.matrixPath = joinPath [srv.requestDir, m.1]) ∧
    ∀ artifact, givenArtifact srv form srv.requestDir files = some artifact → ∃ before,
      files' = writeAll before
        ((givenInputs srv form artifact).map fun w => (clean (joinPath [srv.requestDir, w.1]), w.2))
  := by
  obtain ⟨_, hform, h⟩ := bind_eq_ok_iff.mp h
  cases hform
  obtain ⟨requestDir, hdir, h⟩ := bind_eq_ok_iff.mp h
  rw [newUploadDir_eq_ok hdir] at h
  obtain ⟨⟨artifactPath, files₁⟩, hartifact, h⟩ := bind_eq_ok_iff.mp h
  obtain ⟨⟨manifestPath, files₂⟩, hmanifest, h⟩ := bind_eq_ok_iff.mp h
  obtain ⟨⟨matrixPath, files₃⟩, hmatrix, h⟩ := bind_eq_ok_iff.mp h
  obtain ⟨timeout, -, h⟩ := bind_eq_ok_iff.mp h
  obtain ⟨concurrency, -, h⟩ := bind_eq_ok_iff.mp h
  obtain ⟨hartifactPath, hgiven⟩ := extractArtifact_eq_ok hartifact
  obtain ⟨hmanifestPath, hmanifestFiles⟩ := extractManifest_eq_ok hmanifest
  obtain ⟨hmatrixPath, hmatrixFiles⟩ := resolveMatrixPath_eq_ok hmatrix
  dsimp only at h
  split at h
  · cases h
  · cases h
    refine ⟨hartifactPath, hmanifestPath, hmatrixPath, fun artifact hsome => ?_⟩
    obtain ⟨before, hbefore⟩ := hgiven artifact hsome
    use before
    rw [hmatrixFiles, hmanifestFiles, hbefore, givenInputs, List.map_cons, writeAll_cons,
      List.map_append, writeAll_append, hartifactPath]

omit [UnicodeTables] in
theorem requestDir_ne_nil (srv : ValidateServer) :
  srv.requestDir ≠ []
  := by
  have hmem : str "uploads" ∈ [clean srv.workDir, str "uploads", srv.uploadID].filter (· ≠ []) := by
    rw [List.mem_filter]
    exact ⟨by simp, by decide⟩
  rw [ValidateServer.requestDir, joinPath, if_neg (List.ne_nil_of_mem hmem)]
  exact clean_ne_nil _

omit [UnicodeTables] in
theorem component_givenInputs {artifact : Str} {w : Str × Str} (h : w ∈ givenInputs srv form artifact) :
  Component w.1
  := by
  rw [givenInputs, List.mem_cons, List.mem_append, Option.mem_toList, Option.mem_toList] at h
  obtain rfl | h | h := h
  · exact component_artifactName form
  · exact component_manifest form h
  · exact component_generatedSelection srv form h

omit [UnicodeTables] in
/-- Inputs are written to one place exactly if they have one name. -/
theorem clean_joinPath_inj {w w' : Str × Str} (hw : Component w.1) (hw' : Component w'.1) :
  clean (joinPath [srv.requestDir, w.1]) = clean (joinPath [srv.requestDir, w'.1]) ↔ w.1 = w'.1
  := by
  rw [(joinPath_pair (requestDir_ne_nil srv) w.1).2, (joinPath_pair (requestDir_ne_nil srv) w'.1).2]
  constructor
  · exact joinPath_injective (requestDir_ne_nil srv) hw hw'
  · intro h
    rw [h]

/-- What a form brings is where the configuration of the run says exactly if there is an artifact and
no two inputs of different contents have the same name. -/
theorem inputs_kept_iff [Fractions] {cfg : Config} {files files' : Files}
    (h : buildValidateRunnerConfig srv (.ok form) files = .ok (cfg, files')) :
  InputsKept srv form files cfg files' ↔ InputsApart srv form files
  := by
  obtain ⟨hartifact, hmanifest, hmatrix, hwritten⟩ := buildValidateRunnerConfig_eq_ok h
  have happart : ∀ artifact, givenArtifact srv form srv.requestDir files = some artifact →
      ((∀ w ∈ givenInputs srv form artifact,
          files' (clean (joinPath [srv.requestDir, w.1])) = some w.2)
        ↔ (givenInputs srv form artifact).Pairwise fun w w' => w.1 = w'.1 → w.2 = w'.2) := by
    intro artifact hsome
    obtain ⟨before, rfl⟩ := hwritten artifact hsome
    have hheld := forall_held_iff before
      ((givenInputs srv form artifact).map fun w => (clean (joinPath [srv.requestDir, w.1]), w.2))
    rw [List.forall_mem_map, List.pairwise_map] at hheld
    rw [hheld]
    apply List.Pairwise.iff_of_mem
    intro w w' hw hw'
    rw [clean_joinPath_inj (component_givenInputs hw) (component_givenInputs hw')]
  constructor
  · rintro ⟨⟨artifact, hsome, hkept⟩, hkeptManifest, hkeptMatrix⟩
    refine ⟨artifact, hsome, (happart artifact hsome).mp ?_⟩
    intro w hw
    rw [givenInputs, List.mem_cons, List.mem_append, Option.mem_toList, Option.mem_toList] at hw
    obtain rfl | hw | hw := hw
    · rw [← hartifact]
      exact hkept
    · rw [← hmanifest w hw]
      exact hkeptManifest w hw
    · rw [← hmatrix w hw]
      exact hkeptMatrix w hw
  · rintro ⟨artifact, hsome, hpairwise⟩
    have hkept := (happart artifact hsome).mpr hpairwise
    refine ⟨⟨artifact, hsome, ?_⟩, fun m hm => ?_, fun m hm => ?_⟩
    · rw [hartifact]
      exact hkept (form.artifactName, artifact) List.mem_cons_self
    · rw [hmanifest m hm]
      apply hkept
      simp [givenInputs, hm]
    · rw [hmatrix m hm]
      apply hkept
      simp [givenInputs, hm]

end

section

attribute [local instance] asciiTables exactFractions

/-- A host without settings. -/
def plainHost : Host where
  getenv _ := []
  now := 0
  keySet _ _ := .error []
  forceRefreshAllowed _ := false
  identityMap _ := .error []
  hmacSHA256 _ _ := []
  sha256 _ := []
  verifyPKCS1v15 _ _ _ _ := false
  float64 _ := none
  base64Error _ := []
  jsonError _ := []

/-- A server with one profile, whose compiler rejects every source. -/
def plainServer : ValidateServer where
  host := plainHost
  workDir := str ".bpfcompat"
  defaultMatrixPath := str "matrices/mvp.yaml"
  defaultTimeout := 120 * second
  defaultConcurrency := 2
  uploadID := str "a1"
  reportID := str "b2"
  mkdirError _ := none
  createError _ := none
  copyError _ := none
  writeError _ := none
  clang _ _ := { failure := some (str "exit status 1") }
  loadMatrix _ := .ok quick
  profilePaths := .ok [str "vm/profiles/debian-12-6.1.yaml"]
  loadProfile _ := .ok { id := str "debian-12-6.1" }
  marshalMatrix m := .ok (str "name: " ++ m.name ++ str "\nprofiles:\n" ++ m.profiles.flatMap fun p =>
    str "    - id: " ++ p.id ++ str "\n      required: " ++
      (if p.requiredBool then str "true" else str "false") ++ str "\n")

/-- A form with an artifact, a manifest of the given name, and a profile. -/
def probeForm (manifestName : Str) : ValidateForm where
  value _ := []
  values key := if key = str "profiles" then [str "debian-12-6.1"] else []
  file key :=
    if key = str "artifact_file" then some { filename := str "probe.bpf.o", content := str "\x7fELF" }
    else if key = str "manifest_file" then
      some { filename := manifestName, content := str "programs: []" }
    else none

/-- A manifest that has the name of the artifact takes its place. -/
theorem manifest_in_place_of_artifact :
  ∃ cfg files', buildValidateRunnerConfig plainServer (.ok (probeForm (str "probe.bpf.o")))
      (fun _ => none) = .ok (cfg, files') ∧
    ¬ InputsKept plainServer (probeForm (str "probe.bpf.o")) (fun _ => none) cfg files'
  := by
  refine ⟨_, _, rfl, ?_⟩
  rintro ⟨⟨content, hgiven, hkept⟩, -, -⟩
  cases hgiven
  exact absurd hkept (by decide)

theorem inputs_kept_manifest_yaml :
  ∃ cfg files', buildValidateRunnerConfig plainServer (.ok (probeForm (str "manifest.yaml")))
      (fun _ => none) = .ok (cfg, files') ∧
    InputsKept plainServer (probeForm (str "manifest.yaml")) (fun _ => none) cfg files'
  := by
  refine ⟨_, _, rfl, (inputs_kept_iff rfl).mpr ⟨_, rfl, ?_⟩⟩
  decide

end

end Api
