import BpfCompat.Go.Json.Interface
import BpfCompat.Schema.Json

/-!
# Reports for the public

A report leaves the host in two forms: as the structure a validation returned, and as the
document of an earlier run, decoded without a type.  Both are cleared of the same fields:
the paths of the report, the paths of the artifact and of the matrix, and the run directory,
the command line and the serial log of every target.

The two forms hold the same fields afterwards, up to the rounding of numbers that decoding
without a type brings with it (`publicFields_writeJSON_iff`).
-/

namespace Api

open Go Go.Json Go.Json.Fields Schema

/-! ### The two forms -/

/-- A target without what is internal to the host. -/
def sanitizeTarget (t : Target) : Target :=
  { t with
    vmRunDir := []
    qemuCommand := []
    serialLog := [] }

/-- A copy of the report with the fields cleared that are internal to the host. -/
def sanitizeReportForPublic (r : ReportV01) : ReportV01 :=
  { r with
    paths := {}
    artifact := { r.artifact with path := [] }
    matrix := { r.matrix with path := [] }
    targets := r.targets.map sanitizeTarget }

/-- Members without those of the given names. -/
def deleteKeys (keys : List Str) (ms : List (Str × Any)) : List (Str × Any) :=
  ms.filter fun m => m.1 ∉ keys

/-- A value that is a map loses the members of the given names. -/
def deleteFrom (keys : List Str) : Any → Any
  | .map ms => .map (deleteKeys keys ms)
  | v => v

/-- What the members of the given name hold is changed. -/
def updateKey (key : Str) (f : Any → Any) (ms : List (Str × Any)) : List (Str × Any) :=
  ms.map fun m => if m.1 = key then (m.1, f m.2) else m

/-- The fields of a target that are internal to the host. -/
def targetKeys : List Str := [str "vm_run_dir", str "qemu_command", str "serial_log"]

/-- The targets that are maps lose what is internal to the host. -/
def sanitizeTargets : Any → Any
  | .array targets => .array (targets.map (deleteFrom targetKeys))
  | v => v

/-- The members of a report lose what is internal to the host. -/
def sanitizeMembers (report : List (Str × Any)) : List (Str × Any) :=
  let report := deleteKeys [str "paths"] report
  let report := updateKey (str "artifact") (deleteFrom [str "path"]) report
  let report := updateKey (str "matrix") (deleteFrom [str "path"]) report
  updateKey (str "targets") sanitizeTargets report

section

variable [UnicodeTables]

instance unrepeatsRunInfo : Unrepeats runInfoJSON := unrepeatsStruct _ _ _
instance unrepeatsArtifact : Unrepeats artifactJSON := unrepeatsStruct _ _ _
instance unrepeatsBinaryIdentity : Unrepeats binaryIdentityJSON := unrepeatsStruct _ _ _
instance unrepeatsCommandInfo : Unrepeats commandInfoJSON := unrepeatsStruct _ _ _
instance unrepeatsMatrixInfo : Unrepeats matrixInfoJSON := unrepeatsStruct _ _ _
instance unrepeatsSummaryInfo : Unrepeats summaryInfoJSON := unrepeatsStruct _ _ _
instance unrepeatsEnvironmentCheck : Unrepeats environmentCheckJSON := unrepeatsStruct _ _ _
instance unrepeatsTargetBTF : Unrepeats targetBTFJSON := unrepeatsStruct _ _ _
instance unrepeatsTargetEnv : Unrepeats targetEnvJSON := unrepeatsStruct _ _ _
instance unrepeatsValidation : Unrepeats validationJSON := unrepeatsStruct _ _ _
instance unrepeatsFunctionalTest : Unrepeats functionalTestJSON := unrepeatsStruct _ _ _
instance unrepeatsFunctional : Unrepeats functionalJSON := unrepeatsStruct _ _ _
instance unrepeatsTarget : Unrepeats targetJSON := unrepeatsStruct _ _ _
instance unrepeatsPaths : Unrepeats pathsJSON := unrepeatsStruct _ _ _
instance unrepeatsReport : Unrepeats reportJSON := unrepeatsStruct _ _ _

omit [UnicodeTables] in
theorem sanitizeMembers_append (ms ms' : List (Str × Any)) :
  sanitizeMembers (ms ++ ms') = sanitizeMembers ms ++ sanitizeMembers ms'
  := by
  simp only [sanitizeMembers, deleteKeys, updateKey, List.filter_append, List.map_append]

omit [UnicodeTables] in
/-- Members of a report that show the same fields once the former are cleared. -/
def ClearedTo (num : Str → ℚ) (ms ms' : List (Str × Value)) : Prop :=
  presentMembers (sanitizeMembers (ms.map fun m => (m.1, m.2.interface num)))
    = presentMembers (ms'.map fun m => (m.1, m.2.interface num))

omit [UnicodeTables] in
theorem ClearedTo.append {num : Str → ℚ} {ms ms' ns ns' : List (Str × Value)}
    (hm : ClearedTo num ms ms') (hn : ClearedTo num ns ns') :
  ClearedTo num (ms ++ ns) (ms' ++ ns')
  := by
  rw [ClearedTo, List.map_append, List.map_append, sanitizeMembers_append, presentMembers_append,
    presentMembers_append, hm, hn]

end

end Api
