import BpfCompat.Go.Strings

/-!
# Profiles and their execution

What a profile says about the environment it stands for, which transport can execute it,
and what is handed to and received from an executor.
-/

namespace Vm

open Go

/-- The image of a profile. -/
structure ImageConfig where
  sourceURL : Str := []
  localPath : Str := []
  sha256 : Str := []
deriving DecidableEq

structure VirtmeNGCfg where
  run : Str := []
deriving DecidableEq

structure FirecrackerCfg where
  kernelImagePath : Str := []
deriving DecidableEq

structure BootConfig where
  memoryMB : Int64 := 0
  cpus : Int64 := 0
deriving DecidableEq

structure ValidatorCfg where
  path : Str := []
deriving DecidableEq

/-- A profile. -/
structure Profile where
  id : Str := []
  distro : Str := []
  version : Str := []
  kernelFamily : Str := []
  arch : Str := []
  runner : Str := []
  installKernel : Str := []
  kernelPackages : List Str := []
  image : ImageConfig := {}
  virtmeNG : VirtmeNGCfg := {}
  firecracker : FirecrackerCfg := {}
  boot : BootConfig := {}
  validator : ValidatorCfg := {}
deriving DecidableEq

/-- What an executor is asked to do. -/
structure ExecutionRequest where
  profile : Profile
  runDir : Str := []
  artifactPath : Str := []
  manifestPath : Str := []
  functionalPlanPath : Str := []
  validatorBinary : Str := []
  attachMode : Str := []
  timeout : Int := 0
  command : Str := []
  commandBinary : Str := []
deriving DecidableEq

/-- What an executor reports.  Times are kept as they are written into the report. -/
structure ExecutionResult where
  status : Str := []
  infraError : Str := []
  validatorExitCode : Int64 := 0
  vmRunDir : Str := []
  serialLogPath : Str := []
  qemuCommand : Str := []
  validatorResultPath : Str := []
  notes : List Str := []
  startedAt : Str := []
  finishedAt : Str := []
  durationMs : Int64 := 0
  commandExitCode : Int64 := 0
  commandStdoutTail : Str := []
  commandStderrTail : Str := []
  hostRelease : Str := []
  hostMachine : Str := []
  guestOSID : Str := []
  guestOSVersionID : Str := []
deriving DecidableEq

/-- A way to execute a profile, or why there is none. -/
inductive Transport where
  | ssh
  | unsupported (reason : Str)
deriving DecidableEq

/-- The name of a transport. -/
def Transport.name : Transport → Str
  | .ssh => str "ssh"
  | .unsupported _ => str "unsupported"

section

variable [UnicodeTables]

/-- The setting of `BPFCOMPAT_ENABLE_RHCOS` enables the execution of RHEL CoreOS. -/
def rhcosOptIn (setting : Str) : Bool :=
  toLower (trimSpace setting) ∈ [str "1", str "true", str "yes", str "on"]

/-- The transport that executes a profile on the default runner. -/
def executionTransport (rhcosSetting : Str) (profile : Profile) : Transport :=
  if equalFold (trimSpace profile.runner) (str "virtme-ng") then
    .unsupported (str "Profile requires the virtme-ng runner; use `--runner virtme-ng` instead of the default QEMU cloud-image runner.")
  else if equalFold (trimSpace profile.runner) (str "firecracker") then
    .unsupported (str "Profile requires the firecracker runner; use `--runner firecracker` instead of the default QEMU cloud-image runner.")
  else
    let distro := toLower (trimSpace profile.distro)
    if distro = str "talos" then
      .unsupported (str "Talos is API-driven (no SSH/shell); current validator runner requires SSH transport.")
    else if distro = str "bottlerocket" then
      .unsupported (str "Bottlerocket requires control/admin container workflows; current validator runner requires direct SSH transport.")
    else if distro = str "flatcar" then
      .unsupported (str "Flatcar images in this matrix require Ignition-style bootstrap; current validator runner depends on cloud-init+SSH provisioning.")
    else if distro = str "fedora-coreos" ∨ distro = str "fcos" then .ssh
    else if distro = str "rhcos" ∨ distro = str "rhel-coreos" then
      if rhcosOptIn rhcosSetting then .ssh
      else
        .unsupported (str "RHEL CoreOS shares the Fedora CoreOS Ignition boot path (supported), but its image ships via the OpenShift release payload, not a public URL. Stage it with `make rhcos-image` and set BPFCOMPAT_ENABLE_RHCOS=1 to enable.")
    else .ssh

end

end Vm
