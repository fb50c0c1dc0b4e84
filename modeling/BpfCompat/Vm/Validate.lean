import BpfCompat.Matrix
import BpfCompat.Vm

/-!
# The checks of a profile

What a profile has to say about itself before it is run.  A profile that installs a kernel runs in a
virtual machine of a distribution whose kernels can be installed, and names a release and packages
that are safe in the command lines of the guest.
-/

namespace Vm

open Go
open Matrices (isAlphanumeric)

/-! ### The source -/

def kernelFamilyDebian : Str := str "debian"

def kernelFamilyRHEL : Str := str "rhel"

/-- The bytes of a kernel release. -/
def isReleaseByte (b : UInt8) : Bool := isAlphanumeric b || b == 46 || b == 95 || b == 43 || b == 45

def validKernelRelease (value : Str) : Bool :=
  value ≠ [] && value.length ≤ 128 && value.all isReleaseByte

/-- The bytes of the address of a package. -/
def isPackageByte (b : UInt8) : Bool := isReleaseByte b || b == 47 || b == 58 || b == 126 || b == 37

def validKernelPackageURL (value ext : Str) : Bool :=
  (str "https://").isPrefixOf value && ext.isSuffixOf value && value.length ≤ 512 &&
    value.all isPackageByte

section

variable [UnicodeTables]

def kernelInstallFamily (distro : Str) : Str :=
  let distro := toLower (trimSpace distro)
  if distro = str "ubuntu" then kernelFamilyDebian
  else if distro ∈ [str "almalinux", str "rocky", str "centos-stream", str "rhel", str "oracle"] then
    kernelFamilyRHEL
  else []

/-- The suffix of the packages of an install family. -/
def packageExt (family : Str) : Str := if family = kernelFamilyRHEL then str ".rpm" else str ".deb"

/-- The runner of a profile. -/
def Profile.runnerName (p : Profile) : Str :=
  let runner := trimSpace p.runner
  if runner = [] then str "vm" else runner

omit [UnicodeTables] in
def checkIdentity (p : Profile) : Except Str Unit :=
  if p.id = [] then .error (str "profile.id is required")
  else if p.distro = [] then .error (str "profile.distro is required")
  else if p.kernelFamily = [] then .error (str "profile.kernel_family is required")
  else if p.arch = [] then .error (str "profile.arch is required")
  else .ok ()

def checkRunner (p : Profile) : Except Str Unit :=
  if p.runnerName = str "vm" then
    if p.image.sourceURL = [] ∧ p.image.localPath = [] then
      .error (str "profile.image.source_url or profile.image.local_path is required")
    else .ok ()
  else if p.runnerName = str "virtme-ng" then
    if trimSpace p.virtmeNG.run = [] then
      .error (str "profile.virtme_ng.run is required for runner virtme-ng")
    else .ok ()
  else if p.runnerName = str "firecracker" then
    if trimSpace p.firecracker.kernelImagePath = [] then
      .error (str "profile.firecracker.kernel_image_path is required for runner firecracker")
    else .ok ()
  else
    .error (str "profile.runner must be one of \"vm\", \"virtme-ng\", or \"firecracker\" (got " ++
      quote p.runner ++ str ")")

def checkInstallKernel (p : Profile) : Except Str Unit :=
  if p.installKernel ≠ [] then
    let family := kernelInstallFamily p.distro
    if p.runnerName ≠ str "vm" then
      .error (str "profile.install_kernel requires runner \"vm\" (got " ++ quote p.runnerName ++ str ")")
    else if family = [] then
      .error (str "profile.install_kernel is only supported for debian- and rhel-family profiles (got distro " ++
        quote p.distro ++ str ")")
    else if validKernelRelease p.installKernel = false then
      .error (str "profile.install_kernel must match [A-Za-z0-9._+-]+ (got " ++ quote p.installKernel ++
        str ")")
    else
      match p.kernelPackages.find? fun pkg => !validKernelPackageURL pkg (packageExt family) with
      | some pkg =>
        .error (str "profile.kernel_packages entry must be a plain https " ++ packageExt family ++
          str " URL (got " ++ quote pkg ++ str ")")
      | none => .ok ()
  else if p.kernelPackages ≠ [] then
    .error (str "profile.kernel_packages requires profile.install_kernel")
  else .ok ()

omit [UnicodeTables] in
def checkBoot (p : Profile) : Except Str Unit :=
  if p.boot.memoryMB ≤ 0 then .error (str "profile.boot.memory_mb must be > 0")
  else if p.boot.cpus ≤ 0 then .error (str "profile.boot.cpus must be > 0")
  else if p.validator.path = [] then .error (str "profile.validator.path is required")
  else .ok ()

def validateProfile (p : Profile) : Except Str Unit := do
  checkIdentity p
  checkRunner p
  checkInstallKernel p
  checkBoot p

/-! ### What passes -/

theorem validateProfile_eq_ok_iff {p : Profile} :
  validateProfile p = .ok () ↔ checkIdentity p = .ok () ∧ checkRunner p = .ok () ∧
    checkInstallKernel p = .ok () ∧ checkBoot p = .ok ()
  := by
  rw [validateProfile]
  simp only [check_bind_eq_ok_iff]

omit [UnicodeTables] in
theorem checkIdentity_eq_ok_iff {p : Profile} :
  checkIdentity p = .ok () ↔ p.id ≠ [] ∧ p.distro ≠ [] ∧ p.kernelFamily ≠ [] ∧ p.arch ≠ []
  := by
  rw [checkIdentity]
  split_ifs <;> simp [*]

/-- What a profile has to be for a kernel to be installed. -/
structure Installs (p : Profile) : Prop where
  runner : p.runnerName = str "vm"
  family : kernelInstallFamily p.distro ≠ []
  release : validKernelRelease p.installKernel = true
  packages : ∀ pkg ∈ p.kernelPackages,
    validKernelPackageURL pkg (packageExt (kernelInstallFamily p.distro)) = true

/-- A profile with packages passes exactly if it installs a kernel. -/
theorem checkInstallKernel_eq_ok_iff {p : Profile} (hpackages : p.kernelPackages ≠ []) :
  checkInstallKernel p = .ok () ↔ Installs p
  := by
  rw [checkInstallKernel]
  dsimp only
  split_ifs with hinstall hrunner hfamily hrelease
  · simp only [false_iff]
    exact fun h => hrunner h.runner
  · simp only [false_iff]
    exact fun h => h.family hfamily
  · simp only [false_iff]
    intro h
    rw [h.release] at hrelease
    cases hrelease
  · rw [ne_eq, not_not] at hrunner
    split
    · rename_i pkg hpkg
      simp only [reduceCtorEq, false_iff]
      intro h
      have hbad := List.find?_some hpkg
      rw [h.packages pkg (List.mem_of_find?_eq_some hpkg)] at hbad
      cases hbad
    · rename_i hnone
      simp only [true_iff]
      rw [List.find?_eq_none] at hnone
      refine ⟨hrunner, hfamily, by simpa using hrelease, ?_⟩
      intro pkg hpkg
      simpa using hnone pkg hpkg
  · simp only [false_iff]
    intro h
    rw [ne_eq, not_not] at hinstall
    have hrelease := h.release
    rw [hinstall] at hrelease
    cases hrelease

end

end Vm
