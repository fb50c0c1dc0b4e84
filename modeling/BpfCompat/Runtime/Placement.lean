import BpfCompat.Go.Join
import BpfCompat.Runtime.Fetch

/-!
# The files a fetch leaves behind

Here a fetch is followed through every step on the file system, with the files as they are when a
step fails.  Bytes that are downloaded are written next to the output path and moved there; a local
file is copied to the output directory under its own name and renamed.  Only then is the file hashed,
where it lies.

The output path is a name in the output directory (`fetchTargetPath_eq_ok`), so that the files on the
way to it are others unless they have its name.  A transfer puts the bytes of the source there, or it
fails and does nothing to it, or it fails and cannot take back what it wrote (`stageArtifact_effect`).
-/

namespace Runtime

open Go Registry

/-! ### The disk -/

/-- What may fail on the way to the output path. -/
inductive FileOperation where
  | stat
  | mkdirAll
  | openRoot
  | open
  | create
  | chmod
  | copy
  | sync
  | close
  | rename
  | remove
  | inspect
deriving DecidableEq

/-- A host with each failure of its file system: `fault` tells whether an operation on a path fails,
`written` how many bytes are in a file when copying to it fails, and `get` what the guarded request
for a URL answers. -/
structure FetchDisk where
  cwd : Str
  rooted : isAbs cwd = true
  getenv : Str → Str
  fault : FileOperation → Str → Option Str
  written : Str → Nat
  get : Str → Except Str Str

namespace FetchDisk

/-- A step on the file system, with the label of its failure. -/
def step (d : FetchDisk) (op : FileOperation) (path label : Str) : Except Str Unit :=
  match d.fault op path with
  | some e => .error (label ++ e)
  | none => .ok ()

/-- A file that was being written is removed, if it can be. -/
def discard (d : FetchDisk) (files : Files) (path bytes : Str) : Files :=
  files.set path (if (d.fault .remove path).isSome then some bytes else none)

def fetchMaxBytesEnv : Str := str "BPFCOMPAT_FETCH_MAX_BYTES"

def runtimeFetchMaxBytes (d : FetchDisk) : Nat :=
  match atoi (trimSpace (d.getenv fetchMaxBytesEnv)) with
  | some n => if n ≤ 0 then 128 * 2 ^ 20 else n.toNat
  | none => 128 * 2 ^ 20

/-- What is read of a body.  The limit is one byte more than the maximum, as a signed number: after
the greatest of these nothing is read. -/
def limited (d : FetchDisk) (body : Str) : Str :=
  body.take ((d.runtimeFetchMaxBytes + 1) % 2 ^ 63)

/-- The host as a fetch that succeeds sees it. -/
def host (d : FetchDisk) : FetchHost where
  cwd := d.cwd
  getenv := d.getenv
  ioError
    | .stat, path => d.fault .stat path
    | .mkdirAll, path => d.fault .mkdirAll path
    | .copy, path => (d.fault .create path).or (d.fault .copy path)
    | .rename, path => d.fault .rename path
    | .open, path => d.fault .inspect (absPath d.cwd path)
    | _, _ => none
  download uri := (d.get uri).map d.limited

/-! ### Copying a file -/

/-- The steps that fill a staged file, each with what is in the file if it fails. -/
def stageFault (d : FetchDisk) (staged content : Str) : Option (Str × Str) :=
  [(FileOperation.chmod, str "set staged artifact permissions: ", []),
    (.copy, str "copy artifact: ", content.take (d.written staged)),
    (.sync, str "sync staged artifact: ", content),
    (.close, str "close staged artifact: ", content)].findSome? fun (op, label, bytes) =>
      (d.fault op staged).map fun e => (label ++ e, bytes)

/-- The path a file is staged at: its own name in the directory. -/
def stagedPath (d : FetchDisk) (srcPath dstDir : Str) : Str :=
  joinPath [absPath d.cwd dstDir, base (absPath d.cwd srcPath)]

/-- The bytes to stage, once both files are open.  The new one must not exist. -/
def openStaged (d : FetchDisk) (files : Files) (srcPath dstDir : Str) : Except Str Str := do
  let srcAbs := absPath d.cwd srcPath
  let dstName := base srcAbs
  let staged := d.stagedPath srcPath dstDir
  let _ ← d.step .openRoot (absPath d.cwd dstDir) (str "open existing destination directory: ")
  let _ ← d.step .open srcAbs (str "open source artifact: ")
  match files srcAbs with
  | none => .error (str "open source artifact: open " ++ srcAbs ++ str ": no such file or directory")
  | some content =>
    if !isLocal dstName then
      .error (str "create staged artifact: openat " ++ dstName ++ str ": path escapes from parent")
    else if (files staged).isSome then
      .error (str "create staged artifact: openat " ++ dstName ++ str ": file exists")
    else
      let _ ← d.step .create staged (str "create staged artifact: ")
      .ok content

def stage (d : FetchDisk) (files : Files) (srcPath dstDir : Str) : Except Str Str × Files :=
  let staged := d.stagedPath srcPath dstDir
  match d.openStaged files srcPath dstDir with
  | .error e => (.error e, files)
  | .ok content =>
    match d.stageFault staged content with
    | none => (.ok staged, files.set staged (some content))
    | some (e, bytes) =>
      let e := match d.fault .remove staged with
        | none => e
        | some e' => e ++ str "\nremove incomplete staged artifact: " ++ e'
      (.error e, d.discard files staged bytes)

def copyLocalArtifactToPath (d : FetchDisk) (files : Files) (sourcePath targetPath : Str) :
    Except Str Str × Files :=
  match d.stage files sourcePath (dir targetPath) with
  | (.error e, files) => (.error (str "copy artifact to output directory: " ++ e), files)
  | (.ok stagedPath, files) =>
    if base stagedPath = base targetPath then (.ok stagedPath, files)
    else
      let renamedPath := joinPath [dir stagedPath, base targetPath]
      match d.fault .rename renamedPath with
      | some e => (.error (str "rename fetched artifact: " ++ e), files)
      | none => (.ok renamedPath, (files.set stagedPath none).set renamedPath (files stagedPath))

/-! ### Downloading -/

def fetchHTTPArtifact (d : FetchDisk) (files : Files) (sourceURI targetPath : Str) :
    Except Str Unit × Files :=
  match d.get sourceURI with
  | .error e => (.error e, files)
  | .ok body =>
    let tmpPath := absPath d.cwd (targetPath ++ str ".partial")
    let target := absPath d.cwd targetPath
    let bytes := d.limited body
    match d.fault .create tmpPath, d.fault .copy tmpPath, d.fault .close tmpPath with
    | some e, _, _ => (.error (str "create artifact temp file: " ++ e), files)
    | none, some e, _ =>
      (.error (str "write downloaded artifact: " ++ e),
        d.discard files tmpPath (bytes.take (d.written tmpPath)))
    | none, none, some e =>
      (.error (str "close downloaded artifact file: " ++ e), d.discard files tmpPath bytes)
    | none, none, none =>
      if d.runtimeFetchMaxBytes < bytes.length then
        (.error (str "downloaded artifact exceeds " ++ decimal d.runtimeFetchMaxBytes ++
          str " bytes limit (set " ++ fetchMaxBytesEnv ++ str " to override)"),
          d.discard files tmpPath bytes)
      else
        match d.fault .rename target with
        | some e =>
          (.error (str "move downloaded artifact into place: " ++ e), d.discard files tmpPath bytes)
        | none => (.ok (), (files.set tmpPath none).set target (some bytes))

/-! ### A fetch -/

/-- The file at its place is hashed and compared. -/
def checkArtifact (d : FetchDisk) (sha256 : Str → Str) (files : Files)
    (record : ArtifactVersionRecord) (stagedPath : Str) : Except Str FetchResult :=
  match inspectArtifact sha256 d.host files stagedPath with
  | .error e => .error (str "inspect fetched artifact: " ++ e)
  | .ok actual =>
    let expected := trimSpace record.artifactSHA256
    if expected ≠ [] ∧ actual ≠ expected then
      .error (str "fetched artifact hash mismatch: expected=" ++ expected ++ str " got=" ++ actual)
    else
      .ok {
        artifactName := record.artifactName
        artifactVersion := record.artifactVersion
        artifactVariant := record.artifactVariant
        outputPath := stagedPath
        expectedSHA256 := expected
        actualSHA256 := actual }

/-- What a source asks for: a download, or a copy of a local file. -/
inductive Feed where
  | download (uri : Str)
  | copy (path : Str)
deriving DecidableEq

section

variable [CaseTables]

/-- What a URI asks for. -/
def remoteFeed (d : FetchDisk) (files : Files) (sourceURI : Str) : Except Str Feed :=
  match parseUrl sourceURI with
  | none => .error (str "parse remote artifact URI")
  | some u =>
    let scheme := toLower (trimSpace u.scheme)
    if scheme = str "http" ∨ scheme = str "https" then .ok (.download sourceURI)
    else if scheme = str "file" then
      if !fetchAllowFileURIEnabled d.host then
        .error (str "file artifact URI is disabled; set " ++ fetchAllowFileURIEnv ++
          str "=true only for local-dev proof runs")
      else if trimSpace u.host ≠ [] ∧ trimSpace u.host ≠ str "localhost" then
        .error (str "file URI host " ++ quote u.host ++ str " is not supported")
      else if trimSpace u.path = [] then .error (str "file URI path is empty")
      else if (d.fault .stat (clean u.path)).isSome ∨ files (absPath d.cwd (clean u.path)) = none then
        .error (str "artifact file URI source not found")
      else .ok (.copy (clean u.path))
    else .error (str "unsupported artifact URI scheme " ++ quote u.scheme)

def fetchRemoteArtifact (d : FetchDisk) (files : Files) (sourceURI targetPath : Str) :
    Except Str Unit × Files :=
  match d.remoteFeed files sourceURI with
  | .error e => (.error e, files)
  | .ok (.download uri) => d.fetchHTTPArtifact files uri targetPath
  | .ok (.copy path) => (d.copyLocalArtifactToPath files path targetPath).map (·.map fun _ => ()) id

/-- The bytes of a source, put at the target path. -/
def stageArtifact (d : FetchDisk) (files : Files) (source targetPath : Str) (remote : Bool) :
    Except Str Str × Files :=
  if remote then
    (d.fetchRemoteArtifact files source targetPath).map (·.map fun _ => targetPath) id
  else d.copyLocalArtifactToPath files source targetPath

/-- The steps before a file is touched: the source and whether it is remote, and the target. -/
def planFetch (d : FetchDisk) (files : Files) (record : ArtifactVersionRecord) (outDir : Str) :
    Except Str (Str × Bool × Str) := do
  if trimSpace outDir = [] then .error (str "output directory is required")
  else
    let (source, remote) ← resolveFetchSource d.host files record
    let _ ← d.step .mkdirAll outDir (str "create output directory: ")
    match fetchTargetPath record source remote outDir with
    | .error e => .error (str "resolve artifact target path: " ++ e)
    | .ok targetPath => .ok (source, remote, targetPath)

def fetchArtifact (d : FetchDisk) (sha256 : Str → Str) (files : Files)
    (record : ArtifactVersionRecord) (outDir : Str) : Except Str FetchResult × Files :=
  match d.planFetch files record outDir with
  | .error e => (.error e, files)
  | .ok (source, remote, targetPath) =>
    match d.stageArtifact files source targetPath remote with
    | (.error e, files) => (.error e, files)
    | (.ok stagedPath, files) => (d.checkArtifact sha256 files record stagedPath, files)

end

end FetchDisk

/-! ### The output path -/

theorem slash_notMem_ext (path : Str) :
  47 ∉ ext path
  := by
  rw [ext]
  split_ifs
  · intro hmem
    rw [List.mem_cons, List.mem_reverse] at hmem
    obtain h | h := hmem
    · cases h
    · have hlast := (List.takeWhile_sublist _).subset h
      rw [List.mem_reverse, List.mem_reverse] at hlast
      have := List.mem_takeWhile_imp hlast
      simp at this
  · exact List.not_mem_nil

theorem slash_notMem_trimByte {s : Str} (h : 47 ∉ s) :
  47 ∉ trimByte 45 s
  := by
  obtain ⟨a, b, hsplit⟩ := trimBoth_infix (· = 45) s
  intro hmem
  apply h
  rw [hsplit]
  exact List.mem_append_right a (List.mem_append_left b hmem)

theorem toUInt8_eq_slash {c : Char} (hc : c.toNat < 256) (h : c.toUInt8 = 47) :
  c = '/'
  := by
  have hnat := congrArg UInt8.toNat h
  rw [Char.toUInt8, UInt32.toNat_toUInt8, Nat.mod_eq_of_lt (by exact hc)] at hnat
  apply Char.ext
  apply UInt32.toNat_inj.mp
  rw [hnat]
  rfl

section

variable [CaseTables]

theorem sanitizeFragment_spec (value : Str) :
  sanitizeFragment value ≠ [] ∧ 47 ∉ sanitizeFragment value
  := by
  rw [sanitizeFragment]
  dsimp only
  have hartifact : str "artifact" ≠ [] ∧ 47 ∉ str "artifact" := by decide
  split_ifs with hvalue hout
  · exact hartifact
  · exact hartifact
  · refine ⟨hout, slash_notMem_trimByte ?_⟩
    rw [List.mem_map]
    rintro ⟨r, -, hr⟩
    cases r with
    | bad b => cases hr
    | char c =>
        dsimp only at hr
        split_ifs at hr with hc
        · have hlt : c.toNat < 256 := by
            obtain ⟨-, h⟩ | ⟨-, h⟩ | rfl | rfl | rfl := hc
            · exact lt_of_le_of_lt (show c.toNat ≤ 'z'.toNat from h) (by decide)
            · exact lt_of_le_of_lt (show c.toNat ≤ '9'.toNat from h) (by decide)
            · decide
            · decide
            · decide
          rw [toUInt8_eq_slash hlt hr] at hc
          revert hc
          decide
        · cases hr

theorem localJoin_component {dir c target : Str} (hc : Component c) :
  localJoin dir c = .ok target ↔ Name c ∧ target = joinPath [dir, c]
  := by
  have hsingle : joinPath [c] = c := by
    simp [joinPath, hc.nonempty, join, clean_component hc]
  rw [localJoin, hsingle, ← isLocal_component hc]
  cases isLocal c with
  | true => simp [eq_comm]
  | false => simp

/-- A target is a name in the output directory, and still one with the suffix of a partial file. -/
theorem fetchTargetPath_eq_ok {record : ArtifactVersionRecord} {source : Str} {remote : Bool}
    {outDir target : Str} (h : fetchTargetPath record source remote outDir = .ok target) :
  ∃ name, Name name ∧ Name (name ++ str ".partial") ∧ target = joinPath [outDir, name]
  := by
  rw [fetchTargetPath] at h
  generalize record.artifactName ++ str "-" ++ record.artifactVersion ++
    (if record.artifactVariant ≠ [] then str "-" ++ sanitizeFragment record.artifactVariant
      else []) = value at h
  obtain ⟨hfragment, hfragment'⟩ := sanitizeFragment_spec value
  have hext : 47 ∉ artifactExtensionFromSource source remote := by
    rw [artifactExtensionFromSource.eq_def]
    split
    · exact slash_notMem_ext _
    · split
      · exact List.not_mem_nil
      · exact slash_notMem_ext _
  generalize artifactExtensionFromSource source remote = suffix at h hext
  have hsuffix : (if suffix = [] then str ".bpf.o" else suffix) ≠ [] ∧
      47 ∉ (if suffix = [] then str ".bpf.o" else suffix) := by
    split_ifs with hnil
    · decide
    · exact ⟨hnil, hext⟩
  generalize (if suffix = [] then str ".bpf.o" else suffix) = suffix' at h hsuffix
  generalize hname : sanitizeFragment value ++ suffix' = name at h
  have hslash : 47 ∉ name := by
    rw [← hname, List.mem_append, not_or]
    exact ⟨hfragment', hsuffix.2⟩
  have hlen : 2 ≤ name.length := by
    rw [← hname, List.length_append]
    have h1 := List.length_pos_iff.mpr hfragment
    have h2 := List.length_pos_iff.mpr hsuffix.1
    omega
  have hne : name ≠ [] := by
    rintro rfl
    cases hlen
  have hdot : name ≠ str "." := by
    rintro rfl
    exact absurd hlen (by decide)
  obtain ⟨hname', rfl⟩ := (localJoin_component ⟨hne, hdot, hslash⟩).mp h
  refine ⟨name, hname', Name.of_length ?_ ?_, rfl⟩
  · rw [List.length_append]
    exact Nat.lt_of_lt_of_le (by decide) (Nat.le_add_left 8 name.length)
  · rw [List.mem_append, not_or]
    exact ⟨hslash, by decide⟩

end

/-! ### What reaches the output path -/

theorem Files.set_other (files : Files) {path path' : Str} (content : Option Str) (h : path' ≠ path) :
  files.set path content path' = files path'
  := if_neg h

theorem Files.set_set (files : Files) (path : Str) (content content' : Option Str) :
  (files.set path content).set path content' = files.set path content'
  := by
  funext p
  by_cases h : p = path
  · rw [h, Files.set_same, Files.set_same]
  · rw [Files.set_other _ _ h, Files.set_other _ _ h, Files.set_other _ _ h]

namespace FetchDisk

/-- A local file can be staged in a directory: it can be opened and holds the bytes, and a new file
of its name can be made there. -/
structure Opens (d : FetchDisk) (files : Files) (path dstDir bytes : Str) : Prop where
  root : d.fault .openRoot (absPath d.cwd dstDir) = none
  source : d.fault .open (absPath d.cwd path) = none
  content : files (absPath d.cwd path) = some bytes
  inside : isLocal (base (absPath d.cwd path)) = true
  free : files (d.stagedPath path dstDir) = none
  create : d.fault .create (d.stagedPath path dstDir) = none

/-- The staged file can be filled. -/
def Fills (d : FetchDisk) (staged : Str) : Prop :=
  ∀ op ∈ [FileOperation.chmod, .copy, .sync, .close], d.fault op staged = none

/-- A local file is copied and renamed to the target. -/
structure Copies (d : FetchDisk) (files : Files) (target path bytes : Str) : Prop where
  opens : d.Opens files path (dir target) bytes
  fills : d.Fills (d.stagedPath path (dir target))
  rename : base (absPath d.cwd path) ≠ base target → d.fault .rename (absPath d.cwd target) = none

/-- A copy under the name of the target itself fails halfway, and what it wrote is not removed. -/
structure Strands (d : FetchDisk) (files : Files) (target path : Str) : Prop where
  opens : ∃ bytes, d.Opens files path (dir target) bytes
  fills : ¬d.Fills (d.stagedPath path (dir target))
  named : base (absPath d.cwd path) = base target
  remove : d.fault .remove (absPath d.cwd target) ≠ none

/-- A download is moved to the target. -/
structure Downloads (d : FetchDisk) (target uri bytes : Str) : Prop where
  body : ∃ body, d.get uri = .ok body ∧ bytes = d.limited body
  fits : bytes.length ≤ d.runtimeFetchMaxBytes
  fills : ∀ op ∈ [FileOperation.create, .copy, .close],
    d.fault op (absPath d.cwd (target ++ str ".partial")) = none
  rename : d.fault .rename (absPath d.cwd target) = none

/-- The bytes that are put at the target if no step fails. -/
def Feed.Moves (d : FetchDisk) (files : Files) (target : Str) : Feed → Str → Prop
  | .download uri, bytes => d.Downloads target uri bytes
  | .copy path, bytes => d.Copies files target path bytes

/-- A step fails and leaves something at the target. -/
def Feed.Strands (d : FetchDisk) (files : Files) (target : Str) : Feed → Prop
  | .download _ => False
  | .copy path => d.Strands files target path

theorem step_eq_ok_iff {d : FetchDisk} {op : FileOperation} {path label : Str} {u : Unit} :
  d.step op path label = .ok u ↔ d.fault op path = none
  := by
  rw [step.eq_def]
  cases d.fault op path with
  | none => simp
  | some e => simp

variable {d : FetchDisk} {files : Files}

theorem openStaged_eq_ok_iff {path dstDir bytes : Str} :
  d.openStaged files path dstDir = .ok bytes ↔ d.Opens files path dstDir bytes
  := by
  rw [openStaged]
  constructor
  · intro h
    obtain ⟨_, hroot, h⟩ := bind_eq_ok_iff.mp h
    obtain ⟨_, hsource, h⟩ := bind_eq_ok_iff.mp h
    rw [step_eq_ok_iff] at hroot hsource
    split at h
    · cases h
    · rename_i content hcontent
      rw [refuse_if_eq_ok_iff, refuse_if_eq_ok_iff] at h
      obtain ⟨hinside, hfree, h⟩ := h
      obtain ⟨_, hcreate, h⟩ := bind_eq_ok_iff.mp h
      rw [step_eq_ok_iff] at hcreate
      cases h
      exact ⟨hroot, hsource, hcontent, by simpa using hinside, by simpa using hfree, hcreate⟩
  · rintro ⟨hroot, hsource, hcontent, hinside, hfree, hcreate⟩
    simp [step, hroot, hsource, hcontent, hinside, hfree, hcreate]
    rfl

theorem stageFault_eq_none_iff {staged content : Str} :
  d.stageFault staged content = none ↔ d.Fills staged
  := by
  simp [stageFault, Fills]

theorem discard_eq_none_iff {path bytes : Str} :
  d.discard files path bytes path = none ↔ d.fault .remove path = none
  := by
  rw [discard, Files.set_same]
  cases d.fault .remove path with
  | none => simp
  | some e => simp

/-! ### What happens to the file at the output path -/

/-- Bytes are put at a path, or left there by a step that failed, or nothing happens to it. -/
inductive Effect {α : Type} (moves : Str → Prop) (strands : Prop) (path : Str) (files files' : Files)
    (placed : α) : Except Str α → Prop
  | moved (bytes : Str) : moves bytes → files' path = some bytes →
      Effect moves strands path files files' placed (.ok placed)
  | stranded (e : Str) : strands → files path = none → files' path ≠ none →
      Effect moves strands path files files' placed (.error e)
  | unchanged (e : Str) : (∀ bytes, ¬moves bytes) → ¬strands → files' path = files path →
      Effect moves strands path files files' placed (.error e)

theorem Effect.map {α β : Type} {moves : Str → Prop} {strands : Prop} {path : Str} {files' : Files}
    {placed : α} {r : Except Str α} (h : Effect moves strands path files files' placed r) (f : α → β) :
  Effect moves strands path files files' (f placed) (r.map f)
  := by
  cases h with
  | moved bytes hmoves hpath => exact .moved bytes hmoves hpath
  | stranded e hstrands hnone hpath => exact .stranded e hstrands hnone hpath
  | unchanged e hmoves hstrands hpath => exact .unchanged e hmoves hstrands hpath

/-- The last component of an absolute path that can be made in a directory is a name. -/
theorem name_base {path : Str} (h : isLocal (base (absPath d.cwd path)) = true) :
  Name (base (absPath d.cwd path))
  := by
  obtain ⟨habs, hclean⟩ := absPath_cleaned d.rooted path
  rw [← hclean, clean_eq_render, habs] at h ⊢
  rcases List.eq_nil_or_concat (kept (absPath d.cwd path)) with hkept | ⟨front, c, hkept⟩
  · rw [hkept] at h
    exact absurd h (by decide)
  · have hmem : c ∈ kept (absPath d.cwd path) := by
      rw [hkept, List.concat_eq_append]
      exact List.mem_concat_self
    have hc : Component c := component_of_mem_kept hmem
    rw [hkept, List.concat_eq_append, render_concat, base_append (lead_cases _ _) hc] at h ⊢
    exact (isLocal_component hc).mp h

theorem base_stagedPath {path : Str} (h : isLocal (base (absPath d.cwd path)) = true) (dstDir : Str) :
  base (d.stagedPath path dstDir) = base (absPath d.cwd path)
  := base_joinPath (absPath_ne_nil d.rooted _) (name_base h)

section

variable {outDir name target : Str} (hout : outDir ≠ []) (hname : Name name)
  (htarget : target = joinPath [outDir, name])

include hout hname htarget

theorem stagedPath_eq {path : Str} (h : isLocal (base (absPath d.cwd path)) = true) :
  d.stagedPath path (dir target) = absPath d.cwd (joinPath [outDir, base (absPath d.cwd path)])
  := by
  rw [stagedPath, htarget, dir_joinPath hout hname, absPath_clean d.rooted]
  exact joinPath_absPath d.rooted _ (name_base h)

/-- The staged file is renamed to the target. -/
theorem renamedPath_eq {path : Str} (h : isLocal (base (absPath d.cwd path)) = true) :
  joinPath [dir (d.stagedPath path (dir target)), base target] = absPath d.cwd target
  := by
  rw [stagedPath, dir_joinPath (absPath_ne_nil d.rooted _) (name_base h), htarget,
    dir_joinPath hout hname, base_joinPath hout hname, absPath_clean d.rooted,
    (absPath_cleaned d.rooted outDir).2]
  exact joinPath_absPath d.rooted _ hname

theorem stagedPath_eq_iff {path : Str} (h : isLocal (base (absPath d.cwd path)) = true) :
  d.stagedPath path (dir target) = absPath d.cwd target ↔ base (absPath d.cwd path) = base target
  := by
  rw [stagedPath_eq hout hname htarget h, htarget, base_joinPath hout hname]
  exact absPath_joinPath_inj d.rooted (name_base h) hname

/-- Copying puts the bytes of the source at the target, or leaves something there where the staged
file is the target itself, or does nothing to it. -/
theorem copyLocalArtifactToPath_effect (path : Str) :
  Effect (d.Copies files target path) (d.Strands files target path) (absPath d.cwd target) files
    (d.copyLocalArtifactToPath files path target).2 (absPath d.cwd target)
    (d.copyLocalArtifactToPath files path target).1
  := by
  rw [copyLocalArtifactToPath, stage]
  cases hopen : d.openStaged files path (dir target) with
  | error e =>
      have hclosed : ∀ bytes, ¬d.Opens files path (dir target) bytes := by
        intro bytes hbytes
        rw [← openStaged_eq_ok_iff, hopen] at hbytes
        cases hbytes
      exact .unchanged _ (fun bytes h => hclosed bytes h.opens)
        (fun h => h.opens.elim hclosed) rfl
  | ok content =>
      have hopens := openStaged_eq_ok_iff.mp hopen
      have hbase := base_stagedPath hopens.inside (dir target)
      have hstaged := stagedPath_eq_iff hout hname htarget hopens.inside
      dsimp only
      cases hfault : d.stageFault (d.stagedPath path (dir target)) content with
      | some failure =>
          have hfills : ¬d.Fills (d.stagedPath path (dir target)) := by
            rw [← stageFault_eq_none_iff, hfault]
            simp
          have hmoves : ∀ bytes, ¬d.Copies files target path bytes := fun bytes h => hfills h.fills
          by_cases hsame : base (absPath d.cwd path) = base target
          · have htarget' := hstaged.mpr hsame
            by_cases hremove : d.fault .remove (absPath d.cwd target) = none
            · apply Effect.unchanged _ hmoves fun h => h.remove hremove
              have hfree := hopens.free
              rw [htarget'] at hfree ⊢
              rw [hfree]
              exact discard_eq_none_iff.mpr hremove
            · apply Effect.stranded _ ⟨⟨content, hopens⟩, hfills, hsame, hremove⟩
              · rw [← htarget']
                exact hopens.free
              · rw [htarget']
                exact discard_eq_none_iff.not.mpr hremove
          · apply Effect.unchanged _ hmoves fun h => hsame h.named
            exact Files.set_other files _ fun h => hsame (hstaged.mp h.symm)
      | none =>
          have hfills := stageFault_eq_none_iff.mp hfault
          have hstrands : ¬d.Strands files target path := fun h => h.fills hfills
          dsimp only
          rw [hbase, renamedPath_eq hout hname htarget hopens.inside]
          split_ifs with hsame
          · rw [hstaged.mpr hsame]
            exact .moved content ⟨hopens, hfills, fun h => absurd hsame h⟩ (Files.set_same _ _ _)
          · cases hrename : d.fault .rename (absPath d.cwd target) with
            | none =>
                apply Effect.moved content ⟨hopens, hfills, fun _ => hrename⟩
                dsimp only
                rw [Files.set_same, Files.set_same]
            | some e =>
                apply Effect.unchanged _ _ hstrands
                · exact Files.set_other files _ fun h => hsame (hstaged.mp h.symm)
                · intro bytes h
                  have hnone := h.rename hsame
                  rw [hrename] at hnone
                  cases hnone

theorem fetchHTTPArtifact_effect (hpart : Name (name ++ str ".partial")) (uri : Str) :
  Effect (d.Downloads target uri) False (absPath d.cwd target) files
    (d.fetchHTTPArtifact files uri target).2 ()
    (d.fetchHTTPArtifact files uri target).1
  := by
  have htmp : absPath d.cwd target ≠ absPath d.cwd (target ++ str ".partial") := by
    rw [htarget, joinPath_append hout hname hpart, ne_eq,
      absPath_joinPath_inj d.rooted hname hpart, List.self_eq_append_right]
    decide
  have hdiscard : ∀ bytes, d.discard files (absPath d.cwd (target ++ str ".partial")) bytes
      (absPath d.cwd target) = files (absPath d.cwd target) :=
    fun bytes => Files.set_other files _ htmp
  rw [fetchHTTPArtifact]
  cases hget : d.get uri with
  | error e =>
      refine .unchanged _ ?_ id rfl
      rintro bytes ⟨⟨body, hbody, -⟩, -, -, -⟩
      rw [hget] at hbody
      cases hbody
  | ok body =>
      have hfails : ∀ op ∈ [FileOperation.create, .copy, .close], ∀ e,
          d.fault op (absPath d.cwd (target ++ str ".partial")) = some e →
            ∀ bytes, ¬d.Downloads target uri bytes := by
        intro op hop e he bytes h
        have hnone := h.fills op hop
        rw [he] at hnone
        cases hnone
      dsimp only
      split
      · rename_i he
        exact .unchanged _ (hfails .create (by decide) _ he) id rfl
      · rename_i he
        exact .unchanged _ (hfails .copy (by decide) _ he) id (hdiscard _)
      · rename_i he
        exact .unchanged _ (hfails .close (by decide) _ he) id (hdiscard _)
      · rename_i hcreate hcopy hclose
        have hbytes : ∀ bytes, d.Downloads target uri bytes → bytes = d.limited body := by
          rintro bytes ⟨⟨body', hbody', hlimited⟩, -, -, -⟩
          rw [hget, Except.ok.injEq] at hbody'
          rw [hlimited, hbody']
        split_ifs with hlarge
        · apply Effect.unchanged _ _ id (hdiscard _)
          intro bytes h
          have hfits := h.fits
          rw [hbytes bytes h] at hfits
          exact Nat.not_le_of_lt hlarge hfits
        · cases hrename : d.fault .rename (absPath d.cwd target) with
          | none =>
              apply Effect.moved (d.limited body) _ (Files.set_same _ _ _)
              refine ⟨⟨body, hget, rfl⟩, Nat.le_of_not_lt hlarge, ?_, hrename⟩
              simp [hcreate, hcopy, hclose]
          | some e =>
              apply Effect.unchanged _ _ id (hdiscard _)
              intro bytes h
              have hnone := h.rename
              rw [hrename] at hnone
              cases hnone

variable [CaseTables]

/-- What a source asks for. -/
def feed (d : FetchDisk) (files : Files) (source : Str) (remote : Bool) : Except Str Feed :=
  if remote then d.remoteFeed files source else .ok (.copy source)

theorem fetchRemoteArtifact_effect (hpart : Name (name ++ str ".partial")) {uri : Str} {feed : Feed}
    (hfeed : d.remoteFeed files uri = .ok feed) :
  Effect (feed.Moves d files target) (feed.Strands d files target) (absPath d.cwd target) files
    (d.fetchRemoteArtifact files uri target).2 () (d.fetchRemoteArtifact files uri target).1
  := by
  rw [fetchRemoteArtifact.eq_def, hfeed]
  cases feed with
  | download uri => exact fetchHTTPArtifact_effect hout hname htarget hpart uri
  | copy path => exact (copyLocalArtifactToPath_effect hout hname htarget path).map fun _ => ()

theorem stageArtifact_effect (hpart : Name (name ++ str ".partial")) {source : Str} {remote : Bool}
    {feed : Feed} (hfeed : d.feed files source remote = .ok feed) :
  Effect (feed.Moves d files target) (feed.Strands d files target) (absPath d.cwd target) files
    (d.stageArtifact files source target remote).2 (if remote then target else absPath d.cwd target)
    (d.stageArtifact files source target remote).1
  := by
  cases remote with
  | false =>
      cases hfeed
      exact copyLocalArtifactToPath_effect hout hname htarget source
  | true => exact (fetchRemoteArtifact_effect hout hname htarget hpart hfeed).map fun _ => target

end

section

variable [CaseTables]

theorem stageArtifact_error {source target e : Str} {remote : Bool}
    (hfeed : d.feed files source remote = .error e) :
  d.stageArtifact files source target remote = (.error e, files)
  := by
  rw [feed] at hfeed
  cases remote with
  | false => cases hfeed
  | true =>
      rw [if_pos rfl] at hfeed
      rw [stageArtifact, if_pos rfl, fetchRemoteArtifact, hfeed]
      rfl

omit [CaseTables] in
theorem moves_unique {target : Str} {feed : Feed} {bytes bytes' : Str}
    (h : feed.Moves d files target bytes) (h' : feed.Moves d files target bytes') :
  bytes = bytes'
  := by
  cases feed with
  | download uri =>
      obtain ⟨body, hget, rfl⟩ := h.body
      obtain ⟨body', hget', rfl⟩ := h'.body
      rw [hget, Except.ok.injEq] at hget'
      rw [hget']
  | copy path =>
      have hcontent := h.opens.content
      rw [h'.opens.content, Option.some.injEq] at hcontent
      exact hcontent.symm

omit [CaseTables] in
theorem not_strands_of_moves {target : Str} {feed : Feed} {bytes : Str}
    (h : feed.Moves d files target bytes) :
  ¬feed.Strands d files target
  := by
  cases feed with
  | download uri => exact id
  | copy path => exact fun hstrands => hstrands.fills h.fills

end

end FetchDisk

end Runtime
