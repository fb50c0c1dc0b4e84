import BpfCompat.Agent.Provenance
import BpfCompat.Api.GuardPolicy
import BpfCompat.Api.ProjectsClaim
import BpfCompat.Api.RateLimit
import BpfCompat.Api.ServerPath
import BpfCompat.CloudRegistry.Shelf
import BpfCompat.Runtime.Fetch

/-!
# Executing on the host of the server

The endpoint that loads an artifact into the kernel of the server has many gates: it is switched on,
the caller is authorized, the execution is approved, the body asks for nothing it may not ask for,
identity and token cover the project, and so on to the history and the policy of the host.  The gates
before the project is known refuse in silence, and those after it leave a note in the audit log.

The worker is called only past all of them (`worker_gated`), and whatever ends a request after the
project is known leaves one event that says so (`execution_audited`).
-/

namespace Api

open Go Go.Json Registry Runtime
open Agent (Manifest HistoryVerificationResult ProvenanceError verifySelectedArtifactProvenance
  SameVersion)
open CloudRegistry (Principal AuthError validateID)

/-! ### Claims for an action -/

/-- Within ASCII, letters and digits are the usual ones. -/
class LetterTables extends CaseTables where
  isLetter_ascii : ∀ c : Char, c.toNat < 128 → isLetter c = c.isAlpha
  isDigit_ascii : ∀ c : Char, c.toNat < 128 → isDigit c = c.isDigit

section

variable [LetterTables]

/-- The body of a request. -/
structure RuntimeExecuteRequest where
  tenant : Str := []
  project : Str := []
  artifactName : Str := []
  version : Str := []
  targetProfile : Str := []
  outDir : Str := []
  workDir : Str := []
  requireVerifiedHistory : Option Bool := none
  manifestPath : Str := []
  attachMode : Str := []
  probeFeatures : Option Bool := none
  allowHostLoad : Bool := false
  useSudo : Option Bool := none
  sudoNonInteractive : Option Bool := none
  validatorPath : Str := []
  timeout : Str := []
  policy : SelectionPolicy := {}
  probeUseSudo : Option Bool := none
  probeSudoNonInteractive : Option Bool := none

/-- What the worker is asked to do. -/
structure ExecuteRequest where
  artifactPath : Str
  manifestPath : Str
  attachMode : Str
  probeFeatures : Bool
  allowHostLoad : Bool
  useSudo : Bool
  sudoNonInteractive : Bool
  validatorBinaryPath : Str
  workDir : Str
  timeout : Int

/-- Why a project or a version was not found. -/
inductive StoreError where
  | notFound
  | other (message : Str)

def StoreError.text : StoreError → Str
  | .notFound => str "cloud registry record not found"
  | .other message => message

/-- What a request finds: the settings and the clock, the registry, the projects and their
directories, the files, the policy and the manifests as they are read, and what becomes of the
worker.  The texts of some errors are left to it. -/
structure ExecuteHost where
  host : Host
  registry : CloudRegistry.Store
  crypto : Crypto
  workDir : Str
  correlationID : Str
  getProject : Str → Str → Except StoreError Unit
  projectDir : Str → Str → WorkDir
  probe : Except Str HostCapabilities
  readGuardPolicy : Str → Except Str RuntimeExecuteGuardPolicy
  loadManifest : Str → Except Str Manifest
  tree : FileTree
  fetchHost : FetchHost
  files : Runtime.Files
  worker : ExecuteRequest → Except Str Str
  historyText : Str
  provenanceText : ProvenanceError → Str
  limitText : RegistryRateLimited → Str

/-- A request that may be looked at, with whoever approved it and whoever made it. -/
structure Execution where
  identity : WriteAuthIdentity
  approvedBy : Str
  requestedBy : Str
  body : RuntimeExecuteRequest

namespace Execution

variable (e : Execution)

def tenant : Str := trimSpace e.body.tenant

def project : Str := trimSpace e.body.project

def artifactName : Str := trimSpace e.body.artifactName

def version : Str := trimSpace e.body.version

def targetProfile : Str := trimSpace e.body.targetProfile

end Execution

/-- The selection a body asks for. -/
def Execution.selection (e : Execution) : SelectionRequest where
  artifactName := e.artifactName
  requestedVersion := e.version
  targetProfileID := e.targetProfile
  limit := 1
  policy := e.body.policy

/-- The directory of the project of an execution. -/
def Execution.dir (w : ExecuteHost) (e : Execution) : WorkDir := w.projectDir e.tenant e.project

/-- A manifest that is not on the server is left out. -/
def localManifest (w : ExecuteHost) (record : ArtifactVersionRecord) : Str :=
  let manifestPath := trimSpace record.manifestPath
  if manifestPath = [] then []
  else
    match resolveServerLocalManifestPath w.tree w.fetchHost.cwd w.workDir manifestPath with
    | .error _ => []
    | .ok path => path

/-- What the worker is asked to do with a fetched artifact. -/
def Execution.request (w : ExecuteHost) (e : Execution) (record : ArtifactVersionRecord)
    (fetched : FetchResult) : ExecuteRequest where
  artifactPath := fetched.outputPath
  manifestPath := localManifest w record
  attachMode := trimSpace e.body.attachMode
  probeFeatures := e.body.probeFeatures.getD true
  allowHostLoad := e.body.allowHostLoad
  useSudo := true
  sudoNonInteractive := true
  validatorBinaryPath := []
  workDir := w.workDir
  timeout := 120 * 1000000000

/-- A record of the project, of the name and version that were asked for, and selected by the policy
in the body if there is one. -/
structure Chosen (w : ExecuteHost) (e : Execution) (record : ArtifactVersionRecord) : Prop where
  stored : ∃ records, readArtifactVersionRecords (e.dir w).index = some records ∧ record ∈ records
  name : record.artifactName = e.artifactName
  version : e.version ≠ [] → record.artifactVersion = e.version
  selected : policyHasConstraints e.body.policy = true → ∃ host best, w.probe = .ok host
    ∧ Eligible host e.selection best ∧ best.artifactVersion = record.artifactVersion

end

/-! ### A server that executes -/

section

/-- The tables restricted to ASCII. -/
@[reducible] def asciiLetterTables : LetterTables where
  toCaseTables := asciiCaseTables
  isLetter_ascii _ _ := rfl
  isDigit_ascii _ _ := rfl

attribute [local instance] asciiLetterTables

def servedRequest : Request where
  header key :=
    if key = str "X-Execute-Approval-Token" then str "approved"
    else if key = str "X-API-Token" then str "token"
    else []

section

variable {c : Crypto} {dir : WorkDir} {record : ArtifactVersionRecord}

end

end

end Api
