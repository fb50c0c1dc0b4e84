import BpfCompat.Schema.Environment
import BpfCompat.Schema.Report
import BpfCompat.Vm

/-!
# Which environment ran

What the runner records about the environment it exercised, beside the one the profile asks
for.  Everything is recorded trimmed, and whether the two agree is recorded exactly where it
can be derived.
-/

namespace Runner

open Go Schema

variable [UnicodeTables]

/-- The environment that ran, beside the one that was requested; none, if there is nothing
to say. -/
def environmentEvidence (profile : Vm.Profile) (observedKernel osID osVersionID : Str) :
    Option EnvironmentCheck :=
  let requestedKernelFamily := trimSpace profile.kernelFamily
  let observedKernel := trimSpace observedKernel
  let imageSourceURL := trimSpace profile.image.sourceURL
  let imageSHA256 := trimSpace profile.image.sha256
  let requestedDistro := trimSpace profile.distro
  let requestedDistroVersion := trimSpace profile.version
  let observedOSID := trimSpace osID
  let observedOSVersionID := trimSpace osVersionID
  if requestedKernelFamily = [] ∧ observedKernel = [] ∧ imageSourceURL = [] ∧
      imageSHA256 = [] ∧ requestedDistro = [] ∧ observedOSID = [] then none
  else
    some
      { requestedKernelFamily
        observedKernel
        kernelFamilyMatch := kernelFamilyMatch requestedKernelFamily observedKernel
        imageSourceURL
        imageSHA256
        requestedDistro
        requestedDistroVersion
        observedOSID
        observedOSVersionID
        distroMatch :=
          distroMatch requestedDistro requestedDistroVersion observedOSID observedOSVersionID }

omit [UnicodeTables] in
/-- The note about a guest that is not what the profile asks for. -/
def environmentMismatchNote (env : Option EnvironmentCheck) : Option Str :=
  match env with
  | none => none
  | some env =>
    let notes :=
      (if env.kernelFamilyMatch = some false then
        [str "environment mismatch: profile requests kernel family " ++
          env.requestedKernelFamily ++ str " but the guest booted " ++ env.observedKernel ++
          str "; this target does not support a claim about the requested kernel series"]
      else []) ++
      (if env.distroMatch = some false then
        [str "environment mismatch: profile requests distribution " ++
          trimSpace (env.requestedDistro ++ str " " ++ env.requestedDistroVersion) ++
          str " but the guest reports os-release " ++
          trimSpace (env.observedOSID ++ str " " ++ env.observedOSVersionID) ++
          str "; this target does not support a claim about the requested distribution"]
      else [])
    if notes = [] then none else some (join (str "; ") notes)

/-- What is recorded is what was asked for and observed, and what can be derived from it. -/
structure RecordedFrom (profile : Vm.Profile) (observedKernel osID osVersionID : Str)
    (env : EnvironmentCheck) : Prop where
  requestedKernelFamily : env.requestedKernelFamily = trimSpace profile.kernelFamily
  observedKernel : env.observedKernel = trimSpace observedKernel
  requestedDistro : env.requestedDistro = trimSpace profile.distro
  requestedDistroVersion : env.requestedDistroVersion = trimSpace profile.version
  kernelFamilyMatch : env.kernelFamilyMatch
    = Schema.kernelFamilyMatch env.requestedKernelFamily env.observedKernel
  distroMatch : env.distroMatch = Schema.distroMatch env.requestedDistro
    env.requestedDistroVersion env.observedOSID env.observedOSVersionID

theorem environmentEvidence_eq_some {profile : Vm.Profile} {observedKernel osID osVersionID : Str}
    {env : EnvironmentCheck}
    (h : environmentEvidence profile observedKernel osID osVersionID = some env) :
  RecordedFrom profile observedKernel osID osVersionID env
  := by
  dsimp only [environmentEvidence] at h
  split_ifs at h
  obtain rfl := Option.some.inj h
  constructor
  · rfl
  · rfl
  · rfl
  · rfl
  · dsimp only
  · dsimp only

end Runner
