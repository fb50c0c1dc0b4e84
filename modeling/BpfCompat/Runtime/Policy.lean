import BpfCompat.Go.Glob
import BpfCompat.Registry.Record

/-!
# Hosts and selection policies

What an agent knows of its host, and the policy by which it refuses records of the artifact
history.  A policy looks at the recorded outcome, at the classification codes of the run and at the
host, and a record is accepted when nothing is found against it.

The codes of a policy and of a record are compared in upper case and without white space around
them.
-/

namespace Runtime

open Go Registry

/-! ### The host -/

/-- What is known of a kernel feature. -/
inductive SupportStatus where
  | supported
  | unsupported
  | unknown
  | other (text : Str)
deriving DecidableEq

/-- A probed feature: what selection reads of it. -/
structure FeatureProbe where
  status : SupportStatus := .unknown
  restricted : Bool := false
deriving DecidableEq

/-- What was probed of a host, as far as selection and load policies read it. -/
structure HostCapabilities where
  schemaVersion : Str := []
  osID : Str := []
  osVersionID : Str := []
  kernelRelease : Str := []
  btfKernelAvailable : Bool := false
  mapRingbuf : FeatureProbe := {}
deriving DecidableEq

/-- The two leading numbers of a kernel release, `major.minor`. -/
def parseKernelVersion (release : Str) : Option (Int × Int) := do
  let release := trimSpace release
  let major := release.takeWhile isDecimal
  let rest := release.dropWhile isDecimal
  if rest.head? ≠ some 46 then none
  else
    let minor := rest.tail.takeWhile isDecimal
    if major = [] ∨ minor = [] then none
    else
      let major ← atoi major
      let minor ← atoi minor
      some (major, minor)

/-- The first two parts of a version. -/
def normalizeVersionID (version : Str) : Str :=
  let version := trimSpace version
  if version = [] then []
  else
    match version.splitOn 46 with
    | a :: b :: _ => a ++ str "." ++ b
    | a :: _ => a
    | [] => []

/-- The name of the profile a host is like, empty where it is not known. -/
def hostProfileHint (c : HostCapabilities) : Str :=
  let id := trimSpace c.osID
  let versionID := normalizeVersionID c.osVersionID
  match parseKernelVersion c.kernelRelease with
  | none => []
  | some (kMajor, kMinor) =>
    if id = [] ∨ versionID = [] then []
    else id ++ str "-" ++ versionID ++ str "-" ++ itoa kMajor ++ str "." ++ itoa kMinor

def ringbufLikelyUnsupported (host : HostCapabilities) : Bool :=
  if host.mapRingbuf.restricted then false
  else if host.mapRingbuf.status = .unsupported then true
  else if host.mapRingbuf.status = .supported then false
  else
    match parseKernelVersion host.kernelRelease with
    | none => false
    | some (kMajor, kMinor) => kMajor < 5 || kMajor = 5 && kMinor < 8

/-! ### The policy -/

/-- What an agent demands of the record it loads. -/
structure SelectionPolicy where
  requireSummaryPass : Bool := false
  minRequiredPassed : Int64 := 0
  maxRequiredFailed : Option Int64 := none
  requireKernelBTF : Bool := false
  requireAttachSupport : Bool := false
  requireRingbufSupport : Bool := false
  requirePerfEventArraySupport : Bool := false
  denyClassificationCodes : List Str := []
  allowClassificationCodes : List Str := []
deriving DecidableEq

/-- Whether one of the values is the needle, up to white space around them. -/
def containsString (values : List Str) (needle : Str) : Bool :=
  values.any fun value => trimSpace value = trimSpace needle

section

variable [CaseTables]

/-- The values in upper case, the blank and the repeated ones dropped, in order. -/
def normalizeStringList (values : List Str) : List Str :=
  sortKeys (collect [] ((values.map fun value => trimSpace (toUpper value)).filter (· ≠ [])))

def normalizePolicy (p : SelectionPolicy) : SelectionPolicy :=
  { p with
    denyClassificationCodes := normalizeStringList p.denyClassificationCodes
    allowClassificationCodes := normalizeStringList p.allowClassificationCodes }

def policyHasConstraints (p : SelectionPolicy) : Bool :=
  let p := normalizePolicy p
  p.requireSummaryPass || 0 < p.minRequiredPassed || p.maxRequiredFailed.isSome ||
    p.requireKernelBTF || p.requireAttachSupport || p.requireRingbufSupport ||
    p.requirePerfEventArraySupport || p.denyClassificationCodes ≠ [] ||
    p.allowClassificationCodes ≠ []

/-- What the policy finds against the outcome of a record and against the host. -/
def outcomeViolations (record : ArtifactVersionRecord) (host : HostCapabilities)
    (policy : SelectionPolicy) : List Str :=
  (if policy.requireSummaryPass ∧ trimSpace record.summaryStatus ≠ str "pass" then
    [str "summary status is not pass"] else []) ++
  (if 0 < policy.minRequiredPassed ∧ record.requiredPassed < policy.minRequiredPassed then
    [str "required_passed=" ++ itoa record.requiredPassed.toInt ++ str " < min_required_passed=" ++
      itoa policy.minRequiredPassed.toInt] else []) ++
  (match policy.maxRequiredFailed with
    | some max =>
      if max < record.requiredFailed then
        [str "required_failed=" ++ itoa record.requiredFailed.toInt ++
          str " > max_required_failed=" ++ itoa max.toInt] else []
    | none => []) ++
  (if policy.requireKernelBTF ∧ !host.btfKernelAvailable then
    [str "host kernel BTF is unavailable"] else [])

/-- What the policy finds against the classification codes of a record. -/
def classificationViolations (classifications : List Str) (policy : SelectionPolicy) : List Str :=
  (if policy.requireAttachSupport ∧ containsString classifications (str "UNSUPPORTED_ATTACH_TYPE") then
    [str "history contains UNSUPPORTED_ATTACH_TYPE"] else []) ++
  (if policy.requireRingbufSupport ∧ containsString classifications (str "UNSUPPORTED_MAP_TYPE") then
    [str "history contains UNSUPPORTED_MAP_TYPE (ringbuf requirement unsafe)"] else []) ++
  (if policy.requirePerfEventArraySupport ∧
      containsString classifications (str "UNSUPPORTED_MAP_TYPE") then
    [str "history contains UNSUPPORTED_MAP_TYPE (perf_event_array requirement unsafe)"] else []) ++
  (policy.denyClassificationCodes.filter fun denied => containsString classifications denied).map
    (str "history contains denied classification code " ++ ·) ++
  (if policy.allowClassificationCodes ≠ [] then
    (classifications.filter fun code => code ∉ policy.allowClassificationCodes).map
      (str "history contains classification not in allow list " ++ ·)
    else [])

/-- Whether a policy accepts a record on a host, and what it finds against it. -/
def evaluatePolicy (record : ArtifactVersionRecord) (host : HostCapabilities)
    (policy : SelectionPolicy) : Bool × List Str :=
  let policy := normalizePolicy policy
  let classifications := normalizeStringList record.classificationCode
  let violations := outcomeViolations record host policy ++
    classificationViolations classifications policy
  (violations.isEmpty, sortKeys violations)

end

end Runtime
