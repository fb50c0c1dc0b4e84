import BpfCompat.Freshness.Packages
import BpfCompat.Freshness.Sweep
import BpfCompat.Go.Duration
import BpfCompat.Go.Join
import BpfCompat.Overwrite
import BpfCompat.Runner.Honesty
import BpfCompat.Schema.Environment
import BpfCompat.Vm.Validate

/-!
# Kernel sweeps

A sweep takes a profile and the newest kernel releases of its series, and writes a profile for every
release whose packages it can tell, and a matrix of these profiles.  The identifier of a profile is
made of the release without the suffixes that the profile implies.

Every stage reads the release in its own way, and the runner does not read the timeouts of a matrix
at all.  The sweep is usable as it is written exactly if the releases stay apart without their
suffixes, pass the checks of the stages, and the run has the timeout of the matrix
(`sweep_usable_iff`).
-/

namespace KernelSweep

open Go Freshness Matrices Overwrite

/-! ### The source -/

/-- The flags of the command. -/
structure Options where
  profileID : Str
  count : Int := 4
  series : Str := []
  crawlerTarget : Str := []
  baselinesPath : Str := str "vm/kernel-baselines.yaml"
  crawlerBase : Str := str "https://falcosecurity.github.io/kernel-crawler"
  crawlerFile : Str := []
  profileDir : Str := str "vm/profiles"
  matrixOut : Str := []
  targetTimeout : Str := str "20m"

/-- The files by their absolute paths. -/
abbrev Files := Str → Option Str

/-- What the command finds around it: the working directory, the readers and the writer of YAML, the
baselines, where there are any, the inventories, and the errors of the file system. -/
structure Surroundings where
  cwd : Str
  absolute : isAbs cwd = true
  sorting : SliceSort Entry
  unmarshalProfile : Str → Except Str Vm.Profile
  marshalProfile : Vm.Profile → Except Str Str
  decodeMatrix : Str → Except Str ProfileMatrix
  loadBaselines : Str → Except Str (Option (List Baseline))
  loadInventoryFile : Str → Except Str Inventory
  fetchInventory : Str → Str → Except Str Inventory
  mkdirError : Str → Option Str
  writeError : Str → Option Str

/-- Why a sweep fails. -/
inductive SweepError where
  | profileRequired
  | countTooSmall
  | loadBaseProfile (err : Str)
  | unsupportedDistro (distro : Str)
  | installsKernel (id : Str)
  | readBaselines (err : Str)
  | mappingMissing (distro baselinesPath : Str)
  | inventory (err : Str)
  | releasesMissing (target releasePrefix : Str)
  | encodeProfile (id err : Str)
  | writeProfile (err : Str)
  | profilesMissing
  | createMatrixDirectory (err : Str)
  | writeMatrix (err : Str)
deriving DecidableEq

/-- The release without the suffixes that a profile implies. -/
def shortRelease (release : Str) : Str :=
  let short := trimSuffix release (str "-generic")
  let short := trimSuffix short (str "-kvm")
  let short := trimSuffix short (str ".x86_64")
  trimSuffix short (str ".aarch64")

def sweepProfileID (baseID release : Str) : Str := baseID ++ str "-k" ++ shortRelease release

def decimalDigits (value : Str) : Bool := value ≠ [] && value.all isDecimal

/-- The release begins with a major and a minor number between dots. -/
def hasSeries (release : Str) : Bool :=
  match release.splitOn 46 with
  | major :: minor :: _ => decimalDigits major && decimalDigits minor
  | _ => false

def sweepKernelFamily (release fallback : Str) : Str :=
  match release.splitOn 46 with
  | major :: minor :: _ =>
    if decimalDigits major && decimalDigits minor then major ++ str "." ++ minor else fallback
  | _ => fallback

/-- The line that a generated file begins with. -/
def generatedBy (baseID : Str) : Str :=
  str "# Generated by `bpfcompat kernel-sweep --profile " ++ baseID ++
    str "`; regenerate rather than edit.\n"

/-- The text of the matrix. -/
def matrixBody (baseID : Str) (ids : List Str) (targetTimeout : Str) : Str :=
  generatedBy baseID ++ str "name: kernel-sweep-" ++ baseID ++ str "\nprofiles:\n" ++
    ids.flatMap fun id =>
      str "  - id: " ++ id ++ str "\n    required: true\n    timeout: " ++ targetTimeout ++ str "\n"

section

variable [UnicodeTables] (w : Surroundings) (opts : Options)

def loadProfile (files : Files) (path : Str) : Except Str Vm.Profile :=
  match files (absPath w.cwd path) with
  | none => .error (str "read profile: no such file")
  | some data =>
    match w.unmarshalProfile data with
    | .error err => .error (str "parse profile YAML: " ++ err)
    | .ok p => do
      Vm.validateProfile p
      return p

def loadMatrix (files : Files) (path : Str) : Except Str ProfileMatrix :=
  match files (absPath w.cwd path) with
  | none => .error (str "read matrix file: no such file")
  | some data =>
    match w.decodeMatrix data with
    | .error err => .error (str "parse matrix YAML: " ++ err)
    | .ok m => do
      validate m
      return m

omit [UnicodeTables] in
/-- The file of a profile. -/
def profileFile (id : Str) : Str := joinPath [opts.profileDir, id ++ str ".yaml"]

/-- The profile a sweep is made of. -/
def loadBase (files : Files) : Except SweepError Vm.Profile :=
  if opts.profileID = [] then .error .profileRequired
  else if opts.count < 1 then .error .countTooSmall
  else
    match loadProfile w files (profileFile opts opts.profileID) with
    | .error err => .error (.loadBaseProfile err)
    | .ok base =>
      if Vm.kernelInstallFamily base.distro = [] then .error (.unsupportedDistro base.distro)
      else if base.installKernel ≠ [] then .error (.installsKernel base.id)
      else .ok base

def defaultCrawlerRef (distro kernelFamily : Str) : CrawlerRef :=
  let releasePrefix := if kernelFamily ≠ [] then kernelFamily ++ str ".0-" else []
  let distro := toLower (trimSpace distro)
  if distro = str "ubuntu" then
    { distro := str "ubuntu", target := str "ubuntu-generic", releasePrefix }
  else if distro = str "almalinux" then
    { distro := str "almalinux", target := str "almalinux", releasePrefix }
  else if distro = str "rocky" then { distro := str "rocky", target := str "rocky", releasePrefix }
  else if distro = str "centos-stream" then
    { distro := str "centos", target := str "centos", releasePrefix }
  else if distro = str "oracle" then { distro := str "oracle", target := str "ol", releasePrefix }
  else { distro := [], releasePrefix := [] }

omit [UnicodeTables] in
def baselineCrawlerRef (path profileID : Str) : Except Str (Option CrawlerRef) :=
  match w.loadBaselines path with
  | .error err => .error err
  | .ok none => .ok none
  | .ok (some baselines) =>
    .ok ((baselines.find? fun entry => entry.profile = profileID).bind (·.crawler))

/-- The releases a sweep selects from. -/
def sweepRef (base : Vm.Profile) : Except SweepError CrawlerRef :=
  match baselineCrawlerRef w opts.baselinesPath base.id with
  | .error err => .error (.readBaselines err)
  | .ok mapped =>
    let ref := mapped.getD (defaultCrawlerRef base.distro base.kernelFamily)
    if ref.distro = [] then .error (.mappingMissing base.distro opts.baselinesPath)
    else
      let ref := if opts.crawlerTarget ≠ [] then { ref with target := opts.crawlerTarget } else ref
      let ref := if opts.series ≠ [] then { ref with releasePrefix := opts.series } else ref
      .ok (if ref.releasePrefix = [] then { ref with releasePrefix := base.kernelFamily ++ str ".0-" }
        else ref)

def sweepInventory (base : Vm.Profile) : Except SweepError Inventory :=
  let result :=
    if opts.crawlerFile ≠ [] then w.loadInventoryFile opts.crawlerFile
    else
      let arch := trimSpace base.arch
      w.fetchInventory opts.crawlerBase (if arch ≠ [] then arch else defaultArch)
  result.mapError .inventory

/-- What a sweep is about to write: the profile it is made of, the releases, and where the matrix
goes. -/
structure Plan where
  base : Vm.Profile
  entries : List Entry
  matrixPath : Str
deriving DecidableEq

def planSweep (files : Files) : Except SweepError Plan := do
  let base ← loadBase w opts files
  let ref ← sweepRef w opts base
  let inv ← sweepInventory w opts base
  let entries := inv.sweepEntries w.sorting ref opts.count
  if entries = [] then .error (.releasesMissing ref.target ref.releasePrefix)
  else
    return {
      base
      entries
      matrixPath :=
        if opts.matrixOut = [] then
          joinPath [str "matrices", str "kernel-sweep-" ++ base.id ++ str ".yaml"]
        else opts.matrixOut }

/-- The packages of a release. -/
def packagesOf (base : Vm.Profile) (entry : Entry) : Except Str (List Str) :=
  if Vm.kernelInstallFamily base.distro = Vm.kernelFamilyRHEL then rhelKernelRPMs entry
  else ubuntuKernelDebs entry

omit [UnicodeTables] in
/-- The profile of a release. -/
def derivedProfile (base : Vm.Profile) (entry : Entry) (packages : List Str) : Vm.Profile :=
  { base with
    id := sweepProfileID base.id entry.kernelRelease
    kernelFamily := sweepKernelFamily entry.kernelRelease base.kernelFamily
    installKernel := entry.kernelRelease
    kernelPackages := packages }

/-- The profiles of the releases are written, but for those whose packages cannot be told. -/
def writeProfiles (base : Vm.Profile) : List Entry → Files → Except SweepError (List Str × Files)
  | [], files => .ok ([], files)
  | entry :: entries, files =>
    match packagesOf base entry with
    | .error _ => writeProfiles base entries files
    | .ok packages =>
      let derived := derivedProfile base entry packages
      match w.marshalProfile derived with
      | .error err => .error (.encodeProfile derived.id err)
      | .ok payload =>
        let profilePath := profileFile opts derived.id
        match w.writeError profilePath with
        | some err => .error (.writeProfile err)
        | none => do
          let (ids, files) ← writeProfiles base entries
            (Function.update files (absPath w.cwd profilePath) (some (generatedBy base.id ++ payload)))
          return (derived.id :: ids, files)

def runKernelSweep (files : Files) : Except SweepError Files := do
  let plan ← planSweep w opts files
  let (ids, files) ← writeProfiles w opts plan.base plan.entries files
  if ids = [] then .error .profilesMissing
  else
    match w.mkdirError (dir plan.matrixPath) with
    | some err => .error (.createMatrixDirectory err)
    | none =>
      match w.writeError plan.matrixPath with
      | some err => .error (.writeMatrix err)
      | none =>
        return Function.update files (absPath w.cwd plan.matrixPath)
          (some (matrixBody plan.base.id ids opts.targetTimeout))

/-! ### What a sweep is for -/

/-- A release of a sweep, with its packages. -/
structure Release where
  entry : Entry
  packages : List Str
deriving DecidableEq

/-- The releases whose packages can be told. -/
def releasesOf (base : Vm.Profile) (entries : List Entry) : List Release :=
  entries.filterMap fun entry =>
    (packagesOf base entry).toOption.map fun packages => { entry, packages }

def Plan.releases (plan : Plan) : List Release := releasesOf plan.base plan.entries

omit [UnicodeTables] in
/-- The identifier of the profile of a release. -/
def Plan.profileID (plan : Plan) (r : Release) : Str :=
  sweepProfileID plan.base.id r.entry.kernelRelease

omit [UnicodeTables] in
/-- The profile of a release. -/
def Plan.derived (plan : Plan) (r : Release) : Vm.Profile :=
  derivedProfile plan.base r.entry r.packages

omit [UnicodeTables] in
/-- The file in which a run looks for a profile. -/
def runFile (id : Str) : Str := joinPath [str "vm", str "profiles", id ++ str ".yaml"]

/-- What a run finds around it, where the files are the given ones. -/
def runWorld (files : Files) (world : Runner.World) : Runner.World :=
  { world with
    profilePath := fun id => .ok (absPath w.cwd (runFile id))
    loadProfile := loadProfile w files }

/-- A profile of the matrix is the one written for a release: its file passes the checks, installs
the release and does not contradict its kernel family, and a run executes the profile with the
timeout that was written. -/
structure Serves [Fractions] (cfg : Runner.Config) (files : Files) (plan : Plan) (p : MatrixProfile)
    (r : Release) : Prop where
  id : p.id = plan.profileID r
  installs : ∃ profile, loadProfile w files (profileFile opts p.id) = .ok profile ∧
    profile.installKernel = r.entry.kernelRelease ∧
    Schema.kernelFamilyMatch profile.kernelFamily r.entry.kernelRelease ≠ some false
  found : absPath w.cwd (runFile p.id) = absPath w.cwd (profileFile opts p.id)
  written : p.timeout = opts.targetTimeout
  executes : ∀ world staged, ∃ profile executor,
    Runner.Loaded (runWorld w files world) p profile ∧
      Runner.executorFor (runWorld w files world) cfg profile = some executor ∧
      parseDuration p.timeout =
        .ok (Runner.executionRequest (runWorld w files world) cfg staged profile).timeout

/-- The matrix passes its checks, and its profiles are those of the releases. -/
def Usable [Fractions] (cfg : Runner.Config) (files : Files) (plan : Plan) : Prop :=
  ∃ m, loadMatrix w files plan.matrixPath = .ok m ∧
    List.Forall₂ (Serves w opts cfg files plan) m.profiles plan.releases

/-- What the stages that read a sweep ask of its releases. -/
structure Sweepable [Fractions] (cfg : Runner.Config) (plan : Plan) : Prop where
  runner : plan.base.runnerName = str "vm"
  ids : ∀ r ∈ plan.releases, matchesProfileIDPattern (plan.profileID r) = true
  apart : (plan.releases.map fun r => shortRelease r.entry.kernelRelease).Nodup
  release : ∀ r ∈ plan.releases, Vm.validKernelRelease r.entry.kernelRelease = true
  packages : ∀ r ∈ plan.releases, ∀ url ∈ r.packages, Vm.validKernelPackageURL url
    (Vm.packageExt (Vm.kernelInstallFamily plan.base.distro)) = true
  family : ∀ r ∈ plan.releases, hasSeries r.entry.kernelRelease = true ∨
    Schema.kernelFamilyMatch plan.base.kernelFamily r.entry.kernelRelease ≠ some false
  matrix : ∀ r ∈ plan.releases,
    absPath w.cwd plan.matrixPath ≠ absPath w.cwd (profileFile opts (plan.profileID r))
  directory : absPath w.cwd (str "vm/profiles") = absPath w.cwd opts.profileDir
  executor : Runner.normalizedRunner cfg.runner ∉ [str "virtme-ng", str "firecracker"]
  timeout : parseDuration opts.targetTimeout = .ok cfg.timeout

/-- What YAML does with the files of a sweep: plain scalars of the characters of an identifier or of
a duration are read as they are written, no plain scalar is read with white space around it, a
profile is read as it was encoded, whatever comment stands before it, and keys that a document does
not know are passed over. -/
structure YamlReads [Fractions] (plan : Plan) : Prop where
  matrix : (∀ r ∈ plan.releases, matchesProfileIDPattern (plan.profileID r) = true) →
    (∃ timeout, parseDuration opts.targetTimeout = .ok timeout) →
    w.decodeMatrix (matrixBody plan.base.id (plan.releases.map plan.profileID) opts.targetTimeout) =
      .ok { name := str "kernel-sweep-" ++ plan.base.id
            profiles := plan.releases.map fun r =>
              { id := plan.profileID r, required := some true, timeout := opts.targetTimeout } }
  scalar : ∀ m,
    w.decodeMatrix (matrixBody plan.base.id (plan.releases.map plan.profileID) opts.targetTimeout) =
      .ok m →
    m.profiles.map (·.id) = plan.releases.map plan.profileID →
    ∀ r ∈ plan.releases, trimSpace (plan.profileID r) = plan.profileID r
  profile : 10 ∉ plan.base.id → ∀ profile payload, w.marshalProfile profile = .ok payload →
    w.unmarshalProfile (generatedBy plan.base.id ++ payload) = .ok profile
  unknown : (∀ r ∈ plan.releases, matchesProfileIDPattern (plan.profileID r) = true) →
    (∃ timeout, parseDuration opts.targetTimeout = .ok timeout) →
    w.unmarshalProfile
      (matrixBody plan.base.id (plan.releases.map plan.profileID) opts.targetTimeout) = .ok {}

/-! ### What the stages make of a release -/

omit [UnicodeTables] in
theorem sweepKernelFamily_ne_nil (release : Str) {fallback : Str} (h : fallback ≠ []) :
  sweepKernelFamily release fallback ≠ []
  := by
  rw [sweepKernelFamily]
  split
  · split_ifs
    · rename_i major minor _ _ _
      have hdot : 46 ∈ major ++ str "." ++ minor := by
        simp [show (46 : UInt8) ∈ str "." by decide]
      exact List.ne_nil_of_mem hdot
    · exact h
  · exact h

omit [UnicodeTables] in
theorem sweepKernelFamily_of_not {release : Str} (h : hasSeries release = false) (fallback : Str) :
  sweepKernelFamily release fallback = fallback
  := by
  rw [hasSeries] at h
  rw [sweepKernelFamily]
  split
  · rename_i major minor rest hsplit
    simp only [hsplit] at h
    rw [if_neg (by simp [h])]
  · rfl

omit [UnicodeTables] in
/-- A release with a series begins with it, and nothing continues the series. -/
theorem exists_series {release : Str} (h : hasSeries release = true) (fallback : Str) :
  ∃ major minor rest, decimalDigits major = true ∧ decimalDigits minor = true ∧
    (∀ b ∈ rest.head?, isDecimal b = false) ∧ release = major ++ 46 :: (minor ++ rest) ∧
    sweepKernelFamily release fallback = major ++ 46 :: minor
  := by
  rw [hasSeries] at h
  split at h
  · rename_i major minor more hsplit
    rw [Bool.and_eq_true] at h
    have hjoin : List.intercalate [46] (release.splitOn 46) = release := List.intercalate_splitOn 46
    rw [hsplit] at hjoin
    cases more with
    | nil =>
        refine ⟨major, minor, [], h.1, h.2, by simp, ?_, ?_⟩
        · rw [← hjoin]
          simp [List.intercalate]
        · rw [sweepKernelFamily, hsplit]
          simp only [h.1, h.2, Bool.and_self, if_true, List.append_assoc]
          rfl
    | cons part more =>
        refine ⟨major, minor, 46 :: List.intercalate [46] (part :: more), h.1, h.2, ?_, ?_, ?_⟩
        · simp [isDecimal]
        · rw [← hjoin]
          simp [List.intercalate]
        · rw [sweepKernelFamily, hsplit]
          simp only [h.1, h.2, Bool.and_self, if_true, List.append_assoc]
          rfl
  · cases h

omit [UnicodeTables] in
theorem leadingSeries_append {major minor rest : Str} (hmajor : decimalDigits major = true)
    (hminor : decimalDigits minor = true) (hrest : ∀ b ∈ rest.head?, isDecimal b = false) :
  Schema.leadingSeries (major ++ 46 :: (minor ++ rest)) = some (major, minor, rest)
  := by
  simp only [decimalDigits, Bool.and_eq_true, decide_eq_true_eq, List.all_eq_true] at hmajor hminor
  have hdot : isDecimal 46 = false := by decide
  have htake : ∀ {digits t : Str}, (∀ b ∈ digits, isDecimal b = true) →
      (∀ b ∈ t.head?, isDecimal b = false) →
      (digits ++ t).takeWhile isDecimal = digits ∧ (digits ++ t).dropWhile isDecimal = t := by
    intro digits t hdigits ht
    rw [List.takeWhile_append_of_pos hdigits, List.dropWhile_append_of_pos hdigits]
    cases t with
    | nil => simp
    | cons b t =>
        have hb := ht b rfl
        simp [hb]
  obtain ⟨hmajorTake, hmajorDrop⟩ := htake (t := 46 :: (minor ++ rest)) hmajor.2 (by simp [hdot])
  obtain ⟨hminorTake, hminorDrop⟩ := htake hminor.2 hrest
  rw [Schema.leadingSeries]
  simp only [hmajorTake, hmajorDrop, hminorTake, hminorDrop]
  rw [if_neg (by simpa [hmajor.1, hminor.1] using show (46 : UInt8) = '.'.toUInt8 by decide)]

omit [UnicodeTables] in
theorem trimSpace_release {release : Str} (h : Vm.validKernelRelease release = true) :
  trimSpace release = release
  := by
  apply Spaceless.trimSpace
  apply spaceless_of_graphic
  have hgraphic : ∀ b, Vm.isReleaseByte b = true → 32 < b ∧ b < 127 := by decide +kernel
  simp only [Vm.validKernelRelease, Bool.and_eq_true, List.all_eq_true] at h
  exact fun b hb => hgraphic b (h.2 b hb)

omit [UnicodeTables] in
theorem trimSpace_family {major minor family : Str} (hmajor : decimalDigits major = true)
    (hminor : decimalDigits minor = true) (h : family = major ++ 46 :: minor) :
  trimSpace family = family
  := by
  apply Spaceless.trimSpace
  apply spaceless_of_graphic
  simp only [decimalDigits, Bool.and_eq_true, List.all_eq_true] at hmajor hminor
  intro b hb
  rw [h, List.mem_append, List.mem_cons] at hb
  obtain hb | rfl | hb := hb
  · exact graphic_of_isDecimal (hmajor.2 b hb)
  · decide
  · exact graphic_of_isDecimal (hminor.2 b hb)

/-- The kernel family that is read off a release agrees with it wherever that can be told. -/
theorem kernelFamilyMatch_sweepKernelFamily {release : Str} (hseries : hasSeries release = true)
    (hvalid : Vm.validKernelRelease release = true) (fallback : Str) :
  Schema.kernelFamilyMatch (sweepKernelFamily release fallback) release ≠ some false
  := by
  intro hmatch
  obtain ⟨want, got, hwant, hgot, hne⟩ := Schema.kernelFamilyMatch_eq_some hmatch
  obtain ⟨major, minor, rest, hmajor, hminor, hrest, hrelease, hfamily⟩ :=
    exists_series hseries fallback
  have hreleaseSeries := leadingSeries_append hmajor hminor hrest
  have hfamilySeries := @leadingSeries_append major minor [] hmajor hminor (by simp)
  rw [List.append_nil, ← hfamily] at hfamilySeries
  rw [← hrelease] at hreleaseSeries
  rw [Schema.kernelSeries, trimSpace_release hvalid, hreleaseSeries] at hgot
  rw [Schema.kernelSeries, trimSpace_family hmajor hminor hfamily, hfamilySeries] at hwant
  dsimp only at hgot hwant
  split_ifs at hgot hwant
  cases hgot
  cases hwant
  simp at hne

/-- A distribution whose kernels can be installed is reached over SSH. -/
theorem executionTransport_of_family (rhcosSetting : Str) {profile : Vm.Profile}
    (hvirtme : equalFold (trimSpace profile.runner) (str "virtme-ng") = false)
    (hfirecracker : equalFold (trimSpace profile.runner) (str "firecracker") = false)
    (hfamily : Vm.kernelInstallFamily profile.distro ≠ []) :
  Vm.executionTransport rhcosSetting profile = .ssh
  := by
  rw [Vm.executionTransport, hvirtme, hfirecracker, if_neg Bool.false_ne_true,
    if_neg Bool.false_ne_true]
  rw [Vm.kernelInstallFamily] at hfamily
  dsimp only at hfamily ⊢
  generalize toLower (trimSpace profile.distro) = distro at hfamily ⊢
  have hdistro : distro ∈ [str "ubuntu", str "almalinux", str "rocky", str "centos-stream", str "rhel",
      str "oracle"] := by
    split_ifs at hfamily with hubuntu hrhel
    · rw [hubuntu]
      exact List.mem_cons_self
    · exact List.mem_cons_of_mem _ hrhel
    · exact absurd rfl hfamily
  have hother : ∀ name ∈ [str "ubuntu", str "almalinux", str "rocky", str "centos-stream", str "rhel",
      str "oracle"], name ∉ [str "talos", str "bottlerocket", str "flatcar", str "fedora-coreos",
        str "fcos", str "rhcos", str "rhel-coreos"] := by
    decide
  have hnot := hother distro hdistro
  simp only [List.mem_cons, List.not_mem_nil, or_false, not_or] at hnot
  obtain ⟨htalos, hbottlerocket, hflatcar, hfedora, hfcos, hrhcos, hcoreos⟩ := hnot
  rw [if_neg htalos, if_neg hbottlerocket, if_neg hflatcar, if_neg (not_or.mpr ⟨hfedora, hfcos⟩),
    if_neg (not_or.mpr ⟨hrhcos, hcoreos⟩)]

/-- A profile of a virtual machine whose kernels can be installed is run exactly by the runner of
virtual machines. -/
theorem exists_executorFor_iff (world : Runner.World) (cfg : Runner.Config) {profile : Vm.Profile}
    (hrunner : profile.runnerName = str "vm") (hfamily : Vm.kernelInstallFamily profile.distro ≠ []) :
  (∃ executor, Runner.executorFor world cfg profile = some executor) ↔
    Runner.normalizedRunner cfg.runner ∉ [str "virtme-ng", str "firecracker"]
  := by
  have htrimmed : trimSpace profile.runner = [] ∨ trimSpace profile.runner = str "vm" := by
    rw [Vm.Profile.runnerName] at hrunner
    split_ifs at hrunner with hnil
    · exact .inl hnil
    · exact .inr hrunner
  have hfold : ∀ name ∈ [str "virtme-ng", str "firecracker"],
      equalFold (trimSpace profile.runner) name = false := by
    intro name hname
    have hascii : ∀ name ∈ [[], str "vm", str "virtme-ng", str "firecracker"], ∀ b ∈ name, b < 128 := by
      decide
    have hasciiFold : ∀ name ∈ [str "virtme-ng", str "firecracker"],
        @equalFold asciiTables [] name = false ∧ @equalFold asciiTables (str "vm") name = false := by
      decide
    obtain htrimmed | htrimmed := htrimmed
    · rw [htrimmed, equalFold_ascii (hascii [] (by simp)) (hascii name (by simp_all))]
      exact (hasciiFold name hname).1
    · rw [htrimmed, equalFold_ascii (hascii (str "vm") (by simp)) (hascii name (by simp_all))]
      exact (hasciiFold name hname).2
  have hvirtme := hfold (str "virtme-ng") (by simp)
  have hfirecracker := hfold (str "firecracker") (by simp)
  have hssh := executionTransport_of_family world.rhcosSetting hvirtme hfirecracker hfamily
  rw [Runner.executorFor, hvirtme, hfirecracker, hssh]
  constructor
  · rintro ⟨executor, hexecutor⟩ hmem
    obtain hname | hname : Runner.normalizedRunner cfg.runner = str "virtme-ng" ∨
        Runner.normalizedRunner cfg.runner = str "firecracker" := by simpa using hmem
    · rw [if_pos hname, if_neg Bool.false_ne_true] at hexecutor
      cases hexecutor
    · rw [hname, if_neg (by decide), if_pos rfl, if_neg Bool.false_ne_true] at hexecutor
      cases hexecutor
  · intro hmem
    rw [List.mem_cons, List.mem_singleton, not_or] at hmem
    exact ⟨.vm, by rw [if_neg hmem.1, if_neg hmem.2, if_pos rfl]⟩

/-! ### What a sweep writes -/

/-- The file that is written for a release. -/
def profileWrite (base : Vm.Profile) (r : Release) : Str × Str :=
  (absPath w.cwd (profileFile opts (sweepProfileID base.id r.entry.kernelRelease)),
    generatedBy base.id ++
      (w.marshalProfile (derivedProfile base r.entry r.packages)).toOption.getD [])

variable {w opts}

theorem writeProfiles_eq_ok {base : Vm.Profile} {entries : List Entry} {files files' : Files}
    {ids : List Str} (h : writeProfiles w opts base entries files = .ok (ids, files')) :
  ids = (releasesOf base entries).map (fun r => sweepProfileID base.id r.entry.kernelRelease) ∧
    (∀ r ∈ releasesOf base entries, ∃ payload,
      w.marshalProfile (derivedProfile base r.entry r.packages) = .ok payload) ∧
    files' = writeAll files ((releasesOf base entries).map (profileWrite w opts base))
  := by
  induction entries generalizing files ids with
  | nil =>
      cases h
      exact ⟨rfl, fun r hr => absurd hr List.not_mem_nil, rfl⟩
  | cons entry entries ih =>
      rw [writeProfiles] at h
      split at h
      · rename_i err hpackages
        have hreleases : releasesOf base (entry :: entries) = releasesOf base entries := by
          rw [releasesOf, List.filterMap_cons_none (by rw [hpackages]; rfl), ← releasesOf]
        rw [hreleases]
        exact ih h
      · rename_i packages hpackages
        have hreleases : releasesOf base (entry :: entries) =
            { entry, packages } :: releasesOf base entries := by
          rw [releasesOf, List.filterMap_cons_some (by rw [hpackages]; rfl), ← releasesOf]
        dsimp only at h
        split at h
        · cases h
        · rename_i payload hpayload
          split at h
          · cases h
          · obtain ⟨⟨rest, written⟩, hrest, h⟩ := bind_eq_ok_iff.mp h
            cases h
            obtain ⟨hids, hencoded, hfiles⟩ := ih hrest
            rw [hreleases, List.map_cons, List.forall_mem_cons, List.map_cons, writeAll_cons]
            refine ⟨?_, ⟨⟨payload, hpayload⟩, hencoded⟩, ?_⟩
            · rw [hids]
              rfl
            · rw [hfiles, profileWrite, hpayload]
              rfl

/-- The profile a sweep is made of passes the checks and does not install a kernel, and those of its
distribution can be installed. -/
theorem planSweep_eq_ok {files : Files} {plan : Plan} (h : planSweep w opts files = .ok plan) :
  Vm.validateProfile plan.base = .ok () ∧ plan.base.installKernel = [] ∧
    Vm.kernelInstallFamily plan.base.distro ≠ []
  := by
  obtain ⟨base, hbase, h⟩ := bind_eq_ok_iff.mp h
  obtain ⟨ref, -, h⟩ := bind_eq_ok_iff.mp h
  obtain ⟨inv, -, h⟩ := bind_eq_ok_iff.mp h
  dsimp only at h
  split_ifs at h
  all_goals
    cases h
    rw [loadBase] at hbase
    split_ifs at hbase
    split at hbase
    · cases hbase
    · rename_i loaded hloaded
      split_ifs at hbase with hfamily hinstall
      cases hbase
      refine ⟨?_, by simpa using hinstall, hfamily⟩
      rw [loadProfile] at hloaded
      split at hloaded
      · cases hloaded
      · split at hloaded
        · cases hloaded
        · obtain ⟨hvalid, hloaded⟩ := check_bind_eq_ok_iff.mp hloaded
          cases hloaded
          exact hvalid

section

variable {files files' : Files} {plan : Plan} {cfg : Runner.Config}

/-- The files after a sweep: those of the profiles, and then the matrix. -/
theorem runKernelSweep_eq_ok (hplan : planSweep w opts files = .ok plan)
    (h : runKernelSweep w opts files = .ok files') :
  plan.releases ≠ [] ∧
    (∀ r ∈ plan.releases, ∃ payload, w.marshalProfile (plan.derived r) = .ok payload) ∧
    files' = Function.update
      (writeAll files (plan.releases.map (profileWrite w opts plan.base)))
      (absPath w.cwd plan.matrixPath)
      (some (matrixBody plan.base.id (plan.releases.map plan.profileID) opts.targetTimeout))
  := by
  obtain ⟨plan', hplan', h⟩ := bind_eq_ok_iff.mp h
  obtain rfl := Except.ok.inj (hplan.symm.trans hplan')
  obtain ⟨⟨ids, written⟩, hwritten, h⟩ := bind_eq_ok_iff.mp h
  obtain ⟨hids, hencoded, hfiles⟩ := writeProfiles_eq_ok hwritten
  dsimp only at h
  split_ifs at h with hempty
  split at h
  · cases h
  · split at h
    · cases h
    · cases h
      rw [hids] at hempty ⊢
      rw [hfiles]
      exact ⟨fun hnil => hempty (by rw [← Plan.releases, hnil]; rfl), hencoded, rfl⟩

variable (hplan : planSweep w opts files = .ok plan) (h : runKernelSweep w opts files = .ok files')

include hplan h

/-- The matrix is where it was written last. -/
theorem loadMatrix_eq_ok_iff {m : ProfileMatrix} :
  loadMatrix w files' plan.matrixPath = .ok m ↔
    w.decodeMatrix (matrixBody plan.base.id (plan.releases.map plan.profileID) opts.targetTimeout) =
      .ok m ∧ MatrixValid m
  := by
  obtain ⟨-, -, hfiles⟩ := runKernelSweep_eq_ok hplan h
  rw [loadMatrix, hfiles, Function.update_self]
  dsimp only
  split
  · rename_i err hdecode
    rw [hdecode]
    simp
  · rename_i m' hdecode
    rw [hdecode, check_bind_eq_ok_iff, ← validate_eq_ok_iff]
    constructor
    · rintro ⟨hvalid, hm⟩
      cases hm
      exact ⟨rfl, hvalid⟩
    · rintro ⟨hm, hvalid⟩
      cases hm
      exact ⟨hvalid, rfl⟩

omit hplan h in
theorem mem_releases {r : Release} (hr : r ∈ plan.releases) :
  packagesOf plan.base r.entry = .ok r.packages
  := by
  obtain ⟨entry, -, hentry⟩ := List.mem_filterMap.mp hr
  cases hpackages : packagesOf plan.base entry with
  | error err =>
      rw [hpackages] at hentry
      cases hentry
  | ok packages =>
      rw [hpackages] at hentry
      cases hentry
      exact hpackages

omit h in
/-- The profile of a release passes the checks exactly if it can be installed. -/
theorem validateProfile_derived_iff {r : Release} (hr : r ∈ plan.releases) :
  Vm.validateProfile (plan.derived r) = .ok () ↔ Vm.Installs (plan.derived r)
  := by
  obtain ⟨hbase, -, -⟩ := planSweep_eq_ok hplan
  rw [Vm.validateProfile_eq_ok_iff, Vm.checkIdentity_eq_ok_iff] at hbase
  obtain ⟨⟨hid, hdistro, hkernelFamily, harch⟩, hrunner, -, hboot⟩ := hbase
  have hpackages : r.packages ≠ [] := by
    have hof := mem_releases hr
    rw [packagesOf] at hof
    split_ifs at hof
    · exact rhelKernelRPMs_ne_nil hof
    · exact ubuntuKernelDebs_ne_nil hof
  have hidentity : Vm.checkIdentity (plan.derived r) = .ok () := by
    rw [Vm.checkIdentity_eq_ok_iff]
    refine ⟨?_, hdistro, sweepKernelFamily_ne_nil _ hkernelFamily, harch⟩
    simp [Plan.derived, derivedProfile, sweepProfileID, hid]
  rw [Vm.validateProfile_eq_ok_iff, Vm.checkInstallKernel_eq_ok_iff hpackages]
  constructor
  · rintro ⟨-, -, hinstalls, -⟩
    exact hinstalls
  · intro hinstalls
    exact ⟨hidentity, hrunner, hinstalls, hboot⟩

omit hplan h [UnicodeTables] in
/-- The file of a profile with a valid identifier is a file of its directory. -/
theorem name_profileFile {id : Str} (h : matchesProfileIDPattern id = true) :
  Name (id ++ str ".yaml") ∧ 10 ∉ id
  := by
  cases id with
  | nil => cases h
  | cons b rest =>
      rw [matchesProfileIDPattern, Bool.and_eq_true, Bool.and_eq_true, List.all_eq_true] at h
      obtain ⟨⟨hb, -⟩, hrest⟩ := h
      have hbyte : ∀ c ∈ b :: rest, (isAlphanumeric c || c == 46 || c == 95 || c == 45) = true := by
        rw [List.forall_mem_cons]
        exact ⟨by simp [hb], hrest⟩
      constructor
      · apply Name.of_length
        · have hyaml : (str ".yaml").length = 5 := by decide
          rw [List.length_append, List.length_cons, hyaml]
          omega
        · rw [List.mem_append, not_or]
          exact ⟨fun hslash => absurd (hbyte 47 hslash) (by decide), by decide⟩
      · exact fun hline => absurd (hbyte 10 hline) (by decide)

omit hplan h in
theorem nodup_profileID_iff :
  (plan.releases.map plan.profileID).Nodup ↔
    (plan.releases.map fun r => shortRelease r.entry.kernelRelease).Nodup
  := by
  have hmap : plan.releases.map plan.profileID =
      (plan.releases.map fun r => shortRelease r.entry.kernelRelease).map
        (plan.base.id ++ str "-k" ++ ·) := by
    rw [List.map_map]
    rfl
  rw [hmap]
  constructor
  · exact List.Nodup.of_map _
  · exact List.Nodup.map (fun s t hst => List.append_cancel_left hst)

/-- The file of a release is the one written for it, where the releases stay apart and the matrix is
elsewhere. -/
theorem held_profile {r : Release} (hr : r ∈ plan.releases)
    (hids : ∀ r ∈ plan.releases, matchesProfileIDPattern (plan.profileID r) = true)
    (hnodup : (plan.releases.map plan.profileID).Nodup)
    (hmatrix : absPath w.cwd plan.matrixPath ≠ absPath w.cwd (profileFile opts (plan.profileID r))) :
  ∃ payload, w.marshalProfile (plan.derived r) = .ok payload ∧
    files' (absPath w.cwd (profileFile opts (plan.profileID r))) =
      some (generatedBy plan.base.id ++ payload)
  := by
  obtain ⟨-, hencoded, hfiles⟩ := runKernelSweep_eq_ok hplan h
  obtain ⟨payload, hpayload⟩ := hencoded r hr
  refine ⟨payload, hpayload, ?_⟩
  have happart : (plan.releases.map (profileWrite w opts plan.base)).Pairwise
      fun w w' => w.1 = w'.1 → w.2 = w'.2 := by
    rw [List.pairwise_map]
    apply (List.pairwise_map.mp hnodup).imp_of_mem
    intro r₁ r₂ hr₁ hr₂ hne hplace
    have hname := (absPath_joinPath_inj w.absolute (name_profileFile (hids r₁ hr₁)).1
      (name_profileFile (hids r₂ hr₂)).1).mp hplace
    exact absurd (List.append_cancel_right hname) hne
  have hheld := (forall_held_iff files _).mpr happart _ (List.mem_map_of_mem hr)
  rw [hfiles, Function.update_of_ne hmatrix.symm]
  rw [profileWrite, ← Plan.derived, hpayload] at hheld
  exact hheld

section

variable [Fractions] (hyaml : YamlReads w opts plan)

include hyaml

/-- What is read from the file of a release. -/
theorem loadProfile_eq_ok_iff {r : Release} {profile : Vm.Profile} (hr : r ∈ plan.releases)
    (hids : ∀ r ∈ plan.releases, matchesProfileIDPattern (plan.profileID r) = true)
    (hnodup : (plan.releases.map plan.profileID).Nodup)
    (hmatrix : absPath w.cwd plan.matrixPath ≠ absPath w.cwd (profileFile opts (plan.profileID r))) :
  loadProfile w files' (profileFile opts (plan.profileID r)) = .ok profile ↔
    profile = plan.derived r ∧ Vm.Installs (plan.derived r)
  := by
  obtain ⟨payload, hpayload, hheld⟩ := held_profile hplan h hr hids hnodup hmatrix
  have hline : 10 ∉ plan.base.id := by
    intro hmem
    apply (name_profileFile (hids r hr)).2
    exact (List.mem_append_left _ (List.mem_append_left _ hmem))
  rw [loadProfile, hheld]
  dsimp only
  rw [hyaml.profile hline _ _ hpayload]
  dsimp only
  rw [check_bind_eq_ok_iff, validateProfile_derived_iff hplan hr]
  constructor
  · rintro ⟨hinstalls, hprofile⟩
    exact ⟨(Except.ok.inj hprofile).symm, hinstalls⟩
  · rintro ⟨rfl, hinstalls⟩
    exact ⟨hinstalls, rfl⟩

/-- A matrix in place of a profile is none. -/
theorem loadProfile_matrix {r : Release} {profile : Vm.Profile}
    (hids : ∀ r ∈ plan.releases, matchesProfileIDPattern (plan.profileID r) = true)
    (htimeout : ∃ timeout, parseDuration opts.targetTimeout = .ok timeout)
    (hmatrix : absPath w.cwd plan.matrixPath = absPath w.cwd (profileFile opts (plan.profileID r))) :
  loadProfile w files' (profileFile opts (plan.profileID r)) ≠ .ok profile
  := by
  obtain ⟨-, -, hfiles⟩ := runKernelSweep_eq_ok hplan h
  rw [loadProfile, ← hmatrix, hfiles, Function.update_self]
  dsimp only
  rw [hyaml.unknown hids htimeout]
  dsimp only
  intro hload
  obtain ⟨hvalid, -⟩ := check_bind_eq_ok_iff.mp hload
  cases hvalid

omit hyaml hplan h in
theorem profileIDs_of_serves {profiles : List MatrixProfile} {releases : List Release}
    (hserves : List.Forall₂ (Serves w opts cfg files' plan) profiles releases) :
  profiles.map (·.id) = releases.map plan.profileID
  := by
  induction hserves with
  | nil => rfl
  | cons hserves _ ih => rw [List.map_cons, List.map_cons, hserves.id, ih]

omit hyaml hplan h in
theorem exists_serves {profiles : List MatrixProfile} {releases : List Release}
    (hserves : List.Forall₂ (Serves w opts cfg files' plan) profiles releases) {r : Release}
    (hr : r ∈ releases) :
  ∃ p, Serves w opts cfg files' plan p r
  := by
  induction hserves with
  | nil => cases hr
  | cons hserves _ ih =>
      obtain rfl | hr := List.mem_cons.mp hr
      · exact ⟨_, hserves⟩
      · exact ih hr

omit hyaml hplan h [Fractions] [UnicodeTables] in
/-- A run looks for a profile in the directory it was written to exactly if this is the directory of
the profiles. -/
theorem runFile_eq_profileFile_iff {id : Str} (hid : matchesProfileIDPattern id = true) :
  absPath w.cwd (runFile id) = absPath w.cwd (profileFile opts id) ↔
    absPath w.cwd (str "vm/profiles") = absPath w.cwd opts.profileDir
  := by
  have hname := (name_profileFile hid).1
  have hjoin : runFile id = joinPath [str "vm/profiles", id ++ str ".yaml"] := by
    have hparts : join (str "/") [str "vm", str "profiles", id ++ str ".yaml"] =
        join (str "/") [str "vm/profiles", id ++ str ".yaml"] := rfl
    have hall : ∀ part ∈ [str "vm", str "profiles", str "vm/profiles"], part ≠ [] := by decide
    rw [runFile, joinPath, joinPath, List.filter_eq_self.mpr, List.filter_eq_self.mpr, hparts]
    · rfl
    · simp [hname.nonempty]
      decide
    · simp [hname.nonempty]
      decide
  rw [hjoin, profileFile]
  exact absPath_joinPath_dir_inj w.absolute hname

omit hyaml hplan h [Fractions] in
/-- A run loads the file of a profile where it looks in the directory it was written to. -/
theorem loaded_runWorld_iff (world : Runner.World) {p : MatrixProfile} {profile : Vm.Profile}
    (hfound : absPath w.cwd (runFile p.id) = absPath w.cwd (profileFile opts p.id)) :
  Runner.Loaded (runWorld w files' world) p profile ↔
    loadProfile w files' (profileFile opts p.id) = .ok profile
  := by
  have hread : loadProfile w files' (absPath w.cwd (runFile p.id)) =
      loadProfile w files' (profileFile opts p.id) := by
    rw [loadProfile, absPath_absPath w.absolute, hfound, ← loadProfile]
  constructor
  · rintro ⟨path, hpath, hload⟩
    cases hpath
    exact hread.symm.trans hload
  · intro hload
    exact ⟨_, rfl, hread.trans hload⟩

omit hyaml hplan h [Fractions] in
theorem installs_derived_iff {r : Release}
    (hfamily : Vm.kernelInstallFamily plan.base.distro ≠ []) :
  Vm.Installs (plan.derived r) ↔ plan.base.runnerName = str "vm" ∧
    Vm.validKernelRelease r.entry.kernelRelease = true ∧
    ∀ url ∈ r.packages, Vm.validKernelPackageURL url
      (Vm.packageExt (Vm.kernelInstallFamily plan.base.distro)) = true
  := by
  constructor
  · rintro ⟨hrunner, -, hrelease, hpackages⟩
    exact ⟨hrunner, hrelease, hpackages⟩
  · rintro ⟨hrunner, hrelease, hpackages⟩
    exact ⟨hrunner, hfamily, hrelease, hpackages⟩

theorem usable_of_sweepable (hsweepable : Sweepable w opts cfg plan) :
  Usable w opts cfg files' plan
  := by
  obtain ⟨-, -, hfamily⟩ := planSweep_eq_ok hplan
  obtain ⟨hnonempty, -, -⟩ := runKernelSweep_eq_ok hplan h
  have hnodup := nodup_profileID_iff.mpr hsweepable.apart
  have htimeout : ∃ timeout, parseDuration opts.targetTimeout = .ok timeout := ⟨_, hsweepable.timeout⟩
  have htrimmed : ∀ r ∈ plan.releases, trimSpace (plan.profileID r) = plan.profileID r := by
    apply hyaml.scalar _ (hyaml.matrix hsweepable.ids htimeout)
    rw [List.map_map]
    rfl
  refine ⟨_, (loadMatrix_eq_ok_iff hplan h).mpr ⟨hyaml.matrix hsweepable.ids htimeout, ?_⟩, ?_⟩
  · refine ⟨by simpa using hnonempty, ?_, ?_⟩
    · rw [List.forall_mem_map]
      intro r hr
      rw [htrimmed r hr]
      exact hsweepable.ids r hr
    · rw [List.map_map]
      convert hnodup using 1
      apply List.map_congr_left
      exact htrimmed
  · rw [List.forall₂_map_left_iff, List.forall₂_same]
    intro r hr
    have hinstalls : Vm.Installs (plan.derived r) := (installs_derived_iff hfamily).mpr
      ⟨hsweepable.runner, hsweepable.release r hr, hsweepable.packages r hr⟩
    have hload := (loadProfile_eq_ok_iff hplan h hyaml hr hsweepable.ids hnodup
      (hsweepable.matrix r hr)).mpr ⟨rfl, hinstalls⟩
    have hfound := (runFile_eq_profileFile_iff (hsweepable.ids r hr)).mpr hsweepable.directory
    refine ⟨rfl, ⟨plan.derived r, hload, rfl, ?_⟩, hfound, rfl, ?_⟩
    · by_cases hseries : hasSeries r.entry.kernelRelease = true
      · exact kernelFamilyMatch_sweepKernelFamily hseries (hsweepable.release r hr) _
      · rw [Bool.not_eq_true] at hseries
        rw [Plan.derived, derivedProfile, sweepKernelFamily_of_not hseries]
        obtain hhas | hmatch := hsweepable.family r hr
        · rw [hseries] at hhas
          cases hhas
        · exact hmatch
    · intro world staged
      obtain ⟨executor, hexecutor⟩ := (exists_executorFor_iff (runWorld w files' world) cfg
        hinstalls.runner hinstalls.family).mpr hsweepable.executor
      have hloaded := (loaded_runWorld_iff world
        (p := { id := plan.profileID r, required := some true, timeout := opts.targetTimeout })
        hfound).mpr hload
      exact ⟨plan.derived r, executor, hloaded, hexecutor, hsweepable.timeout⟩

/-- A world in which nothing is found. -/
def emptyWorld : Runner.World where
  profilePath _ := .error []
  loadProfile _ := .error []
  abs path := .ok path
  execute _ _ := {}
  files _ := .error []
  explain err := err
  classify _ := { code := [], confidence := [], reason := [], remediation := [] }

theorem sweepable_of_usable (husable : Usable w opts cfg files' plan) :
  Sweepable w opts cfg plan
  := by
  obtain ⟨-, -, hfamily⟩ := planSweep_eq_ok hplan
  obtain ⟨hnonempty, -, -⟩ := runKernelSweep_eq_ok hplan h
  obtain ⟨m, hload, hserves⟩ := husable
  obtain ⟨hdecode, hvalid⟩ := (loadMatrix_eq_ok_iff hplan h).mp hload
  have hlisted := profileIDs_of_serves hserves
  have htrimmed := hyaml.scalar m hdecode hlisted
  have hids : ∀ r ∈ plan.releases, matchesProfileIDPattern (plan.profileID r) = true := by
    intro r hr
    have hmem : plan.profileID r ∈ m.profiles.map (·.id) := by
      rw [hlisted]
      exact List.mem_map_of_mem hr
    obtain ⟨p, hp, hid⟩ := List.mem_map.mp hmem
    have hmatches := hvalid.identified p hp
    rwa [hid, htrimmed r hr] at hmatches
  have hnodup : (plan.releases.map plan.profileID).Nodup := by
    rw [← hlisted]
    apply List.Nodup.of_map trimSpace
    rw [List.map_map]
    exact hvalid.distinct
  obtain ⟨r₀, hr₀⟩ := List.exists_mem_of_ne_nil _ hnonempty
  obtain ⟨p₀, hp₀⟩ := exists_serves hserves hr₀
  obtain ⟨profile₀, executor, hloaded, hexecutor, hparse⟩ := hp₀.executes emptyWorld {}
  have htimeout : parseDuration opts.targetTimeout = .ok cfg.timeout := by
    rwa [hp₀.written] at hparse
  have hmatrix : ∀ r ∈ plan.releases,
      absPath w.cwd plan.matrixPath ≠ absPath w.cwd (profileFile opts (plan.profileID r)) := by
    intro r hr hplace
    obtain ⟨p, hp⟩ := exists_serves hserves hr
    obtain ⟨profile, hprofile, -⟩ := hp.installs
    rw [hp.id] at hprofile
    exact loadProfile_matrix hplan h hyaml hids ⟨_, htimeout⟩ hplace hprofile
  have hinstalls : ∀ r ∈ plan.releases, Vm.Installs (plan.derived r) ∧
      Schema.kernelFamilyMatch (plan.derived r).kernelFamily r.entry.kernelRelease ≠ some false := by
    intro r hr
    obtain ⟨p, hp⟩ := exists_serves hserves hr
    obtain ⟨profile, hprofile, -, hmatch⟩ := hp.installs
    rw [hp.id] at hprofile
    obtain ⟨rfl, hinstalls⟩ :=
      (loadProfile_eq_ok_iff hplan h hyaml hr hids hnodup (hmatrix r hr)).mp hprofile
    exact ⟨hinstalls, hmatch⟩
  have hchecked : ∀ r ∈ plan.releases, _ := fun r hr =>
    (installs_derived_iff hfamily).mp (hinstalls r hr).1
  refine ⟨(hchecked r₀ hr₀).1, hids, nodup_profileID_iff.mp hnodup, fun r hr => (hchecked r hr).2.1,
    fun r hr => (hchecked r hr).2.2, ?_, hmatrix, ?_, ?_, htimeout⟩
  · intro r hr
    by_cases hseries : hasSeries r.entry.kernelRelease = true
    · exact .inl hseries
    · have hmatch := (hinstalls r hr).2
      rw [Plan.derived, derivedProfile, sweepKernelFamily_of_not (by simpa using hseries)] at hmatch
      exact .inr hmatch
  · apply (runFile_eq_profileFile_iff (hids r₀ hr₀)).mp
    rw [← hp₀.id]
    exact hp₀.found
  · have hprofile := (loaded_runWorld_iff emptyWorld hp₀.found).mp hloaded
    rw [hp₀.id] at hprofile
    obtain ⟨rfl, hinstalled⟩ :=
      (loadProfile_eq_ok_iff hplan h hyaml hr₀ hids hnodup (hmatrix r₀ hr₀)).mp hprofile
    exact (exists_executorFor_iff _ cfg hinstalled.runner hinstalled.family).mp ⟨executor, hexecutor⟩

/-- A sweep is usable as it is written exactly if its releases are what the stages ask of them and the
run has the timeout of the matrix. -/
theorem sweep_usable_iff :
  Usable w opts cfg files' plan ↔ Sweepable w opts cfg plan
  := ⟨sweepable_of_usable hplan h hyaml, usable_of_sweepable hplan h hyaml⟩

end

end

end

section

attribute [local instance] asciiTables exactFractions

/-- A profile as it is encoded, where its texts are plain. -/
def profileYAML (p : Vm.Profile) : Str :=
  str "id: " ++ p.id ++ str "\ndistro: " ++ p.distro ++ str "\nversion: \"" ++ p.version ++
    str "\"\nkernel_family: \"" ++ p.kernelFamily ++ str "\"\narch: " ++ p.arch ++
    (if p.installKernel = [] then []
      else str "\ninstall_kernel: " ++ p.installKernel ++ str "\nkernel_packages:" ++
        p.kernelPackages.flatMap fun url => str "\n    - " ++ url) ++
    str "\nimage:\n    source_url: \"\"\n    local_path: " ++ p.image.localPath ++
    str "\nboot:\n    memory_mb: 1024\n    cpus: 1\nvalidator:\n    path: " ++ p.validator.path ++
    str "\ncapabilities:\n    expected_btf: false\n"

def jammyProfile : Vm.Profile where
  id := str "ubuntu-22.04-5.15"
  distro := str "ubuntu"
  version := str "22.04"
  kernelFamily := str "5.15"
  arch := str "x86_64"
  image := { localPath := str "vm/cache/jammy.qcow2" }
  boot := { memoryMB := 1024, cpus := 1 }
  validator := { path := str "/usr/local/bin/bpfcompat-validator" }

def jammyEntry : Entry where
  kernelRelease := str "5.15.0-118-generic"
  target := str "ubuntu-generic"
  headers := [str "http://archive.ubuntu.com/pool/linux-headers-5.15.0-118-generic_5.15.0-118.128_amd64.deb"]

def jammyRelease : Release where
  entry := jammyEntry
  packages :=
    [str "https://archive.ubuntu.com/pool/linux-modules-5.15.0-118-generic_5.15.0-118.128_amd64.deb",
      str "https://archive.ubuntu.com/pool/linux-image-unsigned-5.15.0-118-generic_5.15.0-118.128_amd64.deb"]

def jammyPlan : Plan where
  base := jammyProfile
  entries := [jammyEntry]
  matrixPath := str "matrices/kernel-sweep-ubuntu-22.04-5.15.yaml"

def jammyMatrix : Str :=
  matrixBody (str "ubuntu-22.04-5.15") [str "ubuntu-22.04-5.15-k5.15.0-118"] (str "20m")

/-- The sweep of a profile with one release. -/
def jammyOptions : Options where
  profileID := str "ubuntu-22.04-5.15"

theorem isAbs_work :
  isAbs (str "/work") = true
  := rfl

def jammySurroundings : Surroundings where
  cwd := str "/work"
  absolute := isAbs_work
  sorting := insertionSlice Entry
  unmarshalProfile text :=
    if text = profileYAML jammyProfile then .ok jammyProfile
    else if text = generatedBy jammyProfile.id ++ profileYAML (jammyPlan.derived jammyRelease) then
      .ok (jammyPlan.derived jammyRelease)
    else if text = jammyMatrix then .ok {}
    else .error []
  marshalProfile p :=
    if p = jammyPlan.derived jammyRelease then .ok (profileYAML p) else .error []
  decodeMatrix text :=
    if text = jammyMatrix then
      .ok { name := str "kernel-sweep-ubuntu-22.04-5.15"
            profiles :=
              [{ id := str "ubuntu-22.04-5.15-k5.15.0-118", required := some true, timeout := str "20m" }] }
    else .error []
  loadBaselines _ := .ok none
  loadInventoryFile _ := .error []
  fetchInventory _ _ := .ok fun distro => if distro = str "ubuntu" then [jammyEntry] else []
  mkdirError _ := none
  writeError _ := none

def jammyFiles : Files := fun path =>
  if path = str "/work/vm/profiles/ubuntu-22.04-5.15.yaml" then some (profileYAML jammyProfile) else none

theorem releases_jammyPlan :
  jammyPlan.releases = [jammyRelease]
  := by
  decide +kernel

theorem planSweep_jammy :
  planSweep jammySurroundings jammyOptions jammyFiles = .ok jammyPlan
  := by
  decide +kernel

theorem runKernelSweep_jammy :
  ∃ files', runKernelSweep jammySurroundings jammyOptions jammyFiles = .ok files'
  := by
  have hsome : (runKernelSweep jammySurroundings jammyOptions jammyFiles).toOption.isSome = true := by
    decide +kernel
  cases h : runKernelSweep jammySurroundings jammyOptions jammyFiles with
  | error err =>
      rw [h] at hsome
      cases hsome
  | ok files' => exact ⟨files', rfl⟩

theorem matrixBody_jammy :
  matrixBody jammyPlan.base.id (jammyPlan.releases.map jammyPlan.profileID) jammyOptions.targetTimeout
    = jammyMatrix
  := by
  decide +kernel

theorem yamlReads_jammy :
  YamlReads jammySurroundings jammyOptions jammyPlan
  := by
  constructor
  · intro _ _
    rw [matrixBody_jammy]
    decide +kernel
  · intro m _ _ r hr
    rw [releases_jammyPlan, List.mem_singleton] at hr
    rw [hr]
    decide +kernel
  · intro _ profile payload hpayload
    simp only [jammySurroundings] at hpayload ⊢
    split_ifs at hpayload with hprofile
    obtain rfl := Except.ok.inj hpayload
    rw [hprofile, if_neg (by decide +kernel)]
    exact if_pos rfl
  · intro _ _
    rw [matrixBody_jammy]
    decide +kernel

/-- The run of a sweep with the timeout of the matrix. -/
def patientConfig : Runner.Config := { timeout := 1200000000000 }

theorem sweepable_jammy :
  Sweepable jammySurroundings jammyOptions patientConfig jammyPlan
  := by
  have hreleases : ∀ {P : Release → Prop}, P jammyRelease → ∀ r ∈ jammyPlan.releases, P r := by
    intro P hP r hr
    rw [releases_jammyPlan, List.mem_singleton] at hr
    rwa [hr]
  constructor
  · decide
  · exact hreleases (by decide)
  · rw [releases_jammyPlan]
    exact List.nodup_singleton _
  · exact hreleases (by decide)
  · exact hreleases (by decide +kernel)
  · exact hreleases (.inl (by decide))
  · exact hreleases (by decide +kernel)
  · rfl
  · decide
  · decide

theorem sweep_usable_jammy :
  ∃ files', runKernelSweep jammySurroundings jammyOptions jammyFiles = .ok files' ∧
    Usable jammySurroundings jammyOptions patientConfig files' jammyPlan
  := by
  obtain ⟨files', h⟩ := runKernelSweep_jammy
  exact ⟨files', h, (sweep_usable_iff planSweep_jammy h yamlReads_jammy).mpr sweepable_jammy⟩

/-- The run of a sweep with the timeout a run has by default executes its target with that one. -/
theorem sweep_timeout_unused :
  ∃ files', planSweep jammySurroundings jammyOptions jammyFiles = .ok jammyPlan ∧
    runKernelSweep jammySurroundings jammyOptions jammyFiles = .ok files' ∧
    YamlReads jammySurroundings jammyOptions jammyPlan ∧
    ¬ Usable jammySurroundings jammyOptions { timeout := 180000000000 } files' jammyPlan
  := by
  obtain ⟨files', h⟩ := runKernelSweep_jammy
  refine ⟨files', planSweep_jammy, h, yamlReads_jammy, ?_⟩
  rintro ⟨m, -, hserves⟩
  obtain ⟨p, hp⟩ := exists_serves hserves (releases_jammyPlan ▸ List.mem_singleton_self jammyRelease)
  obtain ⟨profile, executor, -, -, hparse⟩ := hp.executes emptyWorld {}
  have hdefault : parseDuration p.timeout = .ok 180000000000 := hparse
  rw [hp.written] at hdefault
  exact absurd hdefault (by decide)

end

end KernelSweep
