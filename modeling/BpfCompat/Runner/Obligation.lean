import BpfCompat.RegressionDiff.Gate
import BpfCompat.Runner.Agreement

/-!
# What a settled cell is about

A target says twice which environment it was asked for: in its profile block and in its
environment block.  The comparison checks the environment block against itself and the
profile blocks of the two reports against each other, but never the two blocks of one target
(`not_settledAboutObligation`).  What it settles is therefore about the environment that the
environment block requests, and it is about the profile where the two blocks belong
together, as they do in every target the runner records.
-/

namespace Runner

open Go Go.Json Schema Matrices RegressionDiff

section

variable [UnicodeTables]

/-- The environment block asks for what the profile block names. -/
structure Coherent (t : Target) : Prop where
  family : ∀ profile env, t.profile = some profile → t.environment = some env →
    trimSpace env.requestedKernelFamily = trimSpace profile.kernelFamily
  distro : ∀ profile env, t.profile = some profile → t.environment = some env →
    trimSpace env.requestedDistro = trimSpace profile.distro
  version : ∀ profile env, t.profile = some profile → t.environment = some env →
    trimSpace env.requestedDistroVersion = trimSpace profile.version

/-- The kernel that was observed is of the series the profile names, and what was requested,
as far as it is recorded, is what the profile names. -/
structure AboutObligation (t : Target) : Prop where
  kernel : ∀ profile, t.profile = some profile → trimSpace profile.kernelFamily ≠ [] →
    ∃ env, t.environment = some env ∧ InSeries profile.kernelFamily env.observedKernel
  family : ∀ profile env, t.profile = some profile → t.environment = some env →
    trimSpace env.requestedKernelFamily ≠ [] →
    trimSpace env.requestedKernelFamily = trimSpace profile.kernelFamily
  distro : ∀ profile env, t.profile = some profile → t.environment = some env →
    trimSpace env.requestedDistro ≠ [] → trimSpace env.requestedDistro = trimSpace profile.distro
  version : ∀ profile env, t.profile = some profile → t.environment = some env →
    trimSpace env.requestedDistroVersion ≠ [] →
    trimSpace env.requestedDistroVersion = trimSpace profile.version

/-- The kernel that was observed is of the series the environment block requests, and the
distribution is not known to be another one than it requests. -/
def AboutEnvironment (t : Target) : Prop :=
  ∃ env, t.environment = some env ∧ InSeries env.requestedKernelFamily env.observedKernel ∧
    distroMatch env.requestedDistro env.requestedDistroVersion env.observedOSID
      env.observedOSVersionID ≠ some false

/-- The runner recorded the target, and it was possibly written and read back. -/
def RecordedByRunner (t : Target) : Prop :=
  ∃ world cfg staged matrixProfile, t = runTarget world cfg staged matrixProfile ∨
    t = targetJSON.canon (runTarget world cfg staged matrixProfile)

/-- The cell rests on conclusive evidence. -/
def Settled (cell : Cell) : Prop :=
  cell.classification ≠ .inconclusive ∧ cell.classification ≠ .coverageRemoved

/-! ### Conclusive targets -/

theorem aboutEnvironment_of_conclusive {t : Target} (h : Conclusive t) (ht : TargetConsistent t) :
  AboutEnvironment t
  := by
  obtain ⟨env, henv, hmatch, hdistro⟩ := h.environment
  have hconsistent := ht.environment env henv
  use env, henv
  constructor
  · exact kernelFamilyMatch_eq_true_iff.mp (hconsistent.kernel true hmatch)
  · rwa [← hconsistent.distro]

/-- Where the two blocks belong together, what is about the one is about the other. -/
theorem AboutEnvironment.aboutObligation {t : Target} (h : AboutEnvironment t)
    (ht : Coherent t) :
  AboutObligation t
  := by
  obtain ⟨env, henv, ⟨series, hrequested, hobserved⟩, -⟩ := h
  constructor
  · intro profile hprofile _
    use env, henv, series
    rw [← kernelSeries_trimSpace, ← ht.family profile env hprofile henv, kernelSeries_trimSpace]
    use hrequested, hobserved
  · intro profile env hprofile henv _
    exact ht.family profile env hprofile henv
  · intro profile env hprofile henv _
    exact ht.distro profile env hprofile henv
  · intro profile env hprofile henv _
    exact ht.version profile env hprofile henv

/-! ### Targets the runner records -/

theorem coherent_runTarget (world : World) (cfg : Config) (staged : Staged)
    (matrixProfile : MatrixProfile) :
  Coherent (runTarget world cfg staged matrixProfile)
  := by
  have h : ∀ profile env, (runTarget world cfg staged matrixProfile).profile = some profile →
      (runTarget world cfg staged matrixProfile).environment = some env →
      ∃ p observedKernel osID osVersionID, profile = profileBlock p ∧
        RecordedFrom p observedKernel osID osVersionID env := by
    intro profile env hprofile henv
    obtain ⟨p, observedKernel, osID, osVersionID, hp, hrecorded⟩ :=
      (runTarget_records world cfg staged matrixProfile).environment env henv
    rw [hprofile] at hp
    exact ⟨p, observedKernel, osID, osVersionID, Option.some.inj hp, hrecorded⟩
  constructor
  · intro profile env hprofile henv
    obtain ⟨p, _, _, _, rfl, hrecorded⟩ := h profile env hprofile henv
    rw [hrecorded.requestedKernelFamily, trimSpace_trimSpace]
    rfl
  · intro profile env hprofile henv
    obtain ⟨p, _, _, _, rfl, hrecorded⟩ := h profile env hprofile henv
    rw [hrecorded.requestedDistro, trimSpace_trimSpace]
    rfl
  · intro profile env hprofile henv
    obtain ⟨p, _, _, _, rfl, hrecorded⟩ := h profile env hprofile henv
    rw [hrecorded.requestedDistroVersion, trimSpace_trimSpace]
    rfl

/-- What is coherent stays so on the way through a document. -/
theorem Coherent.canon {t : Target} (h : Coherent t) :
  Coherent (targetJSON.canon t)
  := by
  have hblocks : ∀ profile env, (targetJSON.canon t).profile = some profile →
      (targetJSON.canon t).environment = some env →
      ∃ profile' env', t.profile = some profile' ∧ t.environment = some env' ∧
        profile = targetEnvJSON.canon profile' ∧ env = environmentCheckJSON.canon env' := by
    intro profile env hprofile henv
    obtain ⟨profile', hprofile', rfl⟩ := Option.map_eq_some_iff.mp hprofile
    obtain ⟨env', henv', rfl⟩ := Option.map_eq_some_iff.mp henv
    exact ⟨profile', env', hprofile', henv', rfl, rfl⟩
  have htext : ∀ s s' : Str, trimSpace s = trimSpace s' →
      trimSpace (toValidUTF8 s) = trimSpace (toValidUTF8 s') := by
    intro s s' hs
    rw [trimSpace_toValidUTF8, trimSpace_toValidUTF8, hs]
  constructor
  · intro profile env hprofile henv
    obtain ⟨profile', env', hprofile', henv', rfl, rfl⟩ := hblocks profile env hprofile henv
    exact htext _ _ (h.family profile' env' hprofile' henv')
  · intro profile env hprofile henv
    obtain ⟨profile', env', hprofile', henv', rfl, rfl⟩ := hblocks profile env hprofile henv
    exact htext _ _ (h.distro profile' env' hprofile' henv')
  · intro profile env hprofile henv
    obtain ⟨profile', env', hprofile', henv', rfl, rfl⟩ := hblocks profile env hprofile henv
    exact htext _ _ (h.version profile' env' hprofile' henv')

theorem RecordedByRunner.coherent {t : Target} (h : RecordedByRunner t) :
  Coherent t
  := by
  obtain ⟨world, cfg, staged, matrixProfile, rfl | rfl⟩ := h
  · apply coherent_runTarget
  · exact (coherent_runTarget world cfg staged matrixProfile).canon

/-! ### Settled cells -/

/-- Both sides of a settled cell, as far as they are present, are conclusive. -/
theorem conclusive_of_settled {ob oc : RangeOrder Str} {b c : Evidence} {generatedAt : Str}
    {d : Diff} {cell : Cell} {t : Target} (h : build ob oc b c generatedAt = .ok d)
    (hcell : cell ∈ d.cells) (hsettled : Settled cell)
    (ht : t ∈ b.report.targets ∨ t ∈ c.report.targets) (hkey : targetID t = cell.key) :
  Conclusive t ∧ TargetConsistent t
  := by
  obtain ⟨hb, hc, -, -⟩ := build_eq_ok_iff.mp h
  obtain ⟨id, -, rfl⟩ := (mem_cells_iff h).mp hcell
  rw [key_cellAt] at hkey
  obtain ⟨ct, hct, hconclusive, hcomparable⟩ := classification_settled_iff.mp hsettled
  obtain ht | ht := ht
  · have htarget := (targetAt_eq_some_iff hb).mpr ⟨ht, hkey⟩
    exact ⟨(hcomparable t htarget).baseline, hb.consistent t ht⟩
  · have htarget := (targetAt_eq_some_iff hc).mpr ⟨ht, hkey⟩
    rw [htarget] at hct
    cases hct
    exact ⟨hconclusive, hc.consistent t ht⟩

/-- On each present side of a settled cell the observed kernel is of the series that the
target's environment block requests, and where the runner recorded the target it is of the
series its profile names, with nothing else requested than what the profile names. -/
theorem settled_about_environment (ob oc : RangeOrder Str) (b c : Evidence) (generatedAt : Str)
    (d : Diff) (h : build ob oc b c generatedAt = .ok d) (cell : Cell) (hcell : cell ∈ d.cells)
    (hsettled : Settled cell) (t : Target) (ht : t ∈ b.report.targets ∨ t ∈ c.report.targets)
    (hkey : targetID t = cell.key) :
  AboutEnvironment t ∧ (RecordedByRunner t → AboutObligation t)
  := by
  obtain ⟨hconclusive, hconsistent⟩ := conclusive_of_settled h hcell hsettled ht hkey
  have habout := aboutEnvironment_of_conclusive hconclusive hconsistent
  use habout
  intro hrecorded
  exact habout.aboutObligation hrecorded.coherent

/-- On each present side of every settled cell the target is about the obligation its
profile names. -/
def SettledAboutObligation : Prop :=
  ∀ (ob oc : RangeOrder Str) (b c : Evidence) (generatedAt : Str) (d : Diff),
    build ob oc b c generatedAt = .ok d → ∀ cell ∈ d.cells, Settled cell →
      ∀ t, t ∈ b.report.targets ∨ t ∈ c.report.targets → targetID t = cell.key →
        AboutObligation t

end

/-- A target that names RHEL 9 on kernel 5.14 in its profile block and asks for kernel 5.15
in its environment block. -/
def incoherentTarget : Target where
  profileID := str "k"
  required := true
  status := str "pass"
  verdict := verdictCompatible
  environment := some
    { requestedKernelFamily := str "5.15"
      observedKernel := str "5.15.0-186-generic"
      kernelFamilyMatch := some true }
  profile := some
    { distro := str "rhel"
      version := str "9"
      kernelFamily := str "5.14"
      arch := str "x86_64" }

/-- The evidence of a run with one such target. -/
def incoherentEvidence (run : Str) : Evidence :=
  evidenceFromReport
    { schemaVersion := str "v0.1", run := { id := run }, targets := [incoherentTarget] } [] []

section

attribute [local instance] asciiTables

/-- Two such runs are found unchanged, although neither kernel is of the series the profile
names. -/
theorem not_settledAboutObligation :
  ¬ SettledAboutObligation
  := by
  intro h
  have hcells : (build .stored .stored (incoherentEvidence (str "run-1"))
      (incoherentEvidence (str "run-2")) []).map
        (fun d => d.cells.map fun cell => (cell.key, cell.classification))
      = .ok [(str "k", .unchangedCompatible)] := by decide +kernel
  cases hd : build .stored .stored (incoherentEvidence (str "run-1"))
      (incoherentEvidence (str "run-2")) [] with
  | error e =>
      rw [hd] at hcells
      cases hcells
  | ok d =>
      rw [hd] at hcells
      obtain ⟨cell, hcell, hclass⟩ := List.map_eq_singleton_iff.mp (Except.ok.inj hcells)
      obtain ⟨hkey, hunchanged⟩ := Prod.mk.inj hclass
      have hsettled : Settled cell := by
        rw [Settled, hunchanged]
        decide
      have htrim : targetID incoherentTarget = str "k" := by decide
      have habout : AboutObligation incoherentTarget := by
        apply h .stored .stored _ _ [] d hd cell _ hsettled
        · exact .inl (List.mem_singleton_self _)
        · rw [htrim, hkey]
        · rw [hcell]
          exact List.mem_singleton_self _
      obtain ⟨env, henv, hseries⟩ := habout.kernel _ rfl (by decide)
      cases henv
      rw [← kernelFamilyMatch_eq_true_iff] at hseries
      revert hseries
      decide

/-- The evidence of a run of a command on one profile. -/
def commandRun (run : Str) : Evidence :=
  evidenceFromReport
    (executeBootstrap (fun _ => sampleWorld) .stored .ok { command := str "./load" }
      { runID := run, m := { profiles := [{ id := str "ubuntu-22.04-5.15" }] } }).report [] []

/-- The target of that run. -/
def commandRunTarget : Target :=
  runTarget sampleWorld { command := str "./load" } {} { id := str "ubuntu-22.04-5.15" }

theorem settled_about_environment_sample :
  ∃ d, build .stored .stored (commandRun (str "run-1")) (commandRun (str "run-2")) [] = .ok d ∧
    ∃ cell ∈ d.cells, cell.classification = .existingIncompatibility ∧
      AboutEnvironment commandRunTarget ∧ AboutObligation commandRunTarget
  := by
  have hcells : (build .stored .stored (commandRun (str "run-1")) (commandRun (str "run-2")) []).map
        (fun d => d.cells.map fun cell => (cell.key, cell.classification))
      = .ok [(str "ubuntu-22.04-5.15", .existingIncompatibility)] := by decide +kernel
  cases hd : build .stored .stored (commandRun (str "run-1")) (commandRun (str "run-2")) [] with
  | error e =>
      rw [hd] at hcells
      cases hcells
  | ok d =>
      rw [hd] at hcells
      obtain ⟨cell, hcell, hclass⟩ := List.map_eq_singleton_iff.mp (Except.ok.inj hcells)
      obtain ⟨hkey, hexisting⟩ := Prod.mk.inj hclass
      have hmem : cell ∈ d.cells := by
        rw [hcell]
        exact List.mem_singleton_self _
      have hsettled : Settled cell := by
        rw [Settled, hexisting]
        decide
      have htrim : targetID commandRunTarget = str "ubuntu-22.04-5.15" := by decide
      obtain ⟨henvironment, hobligation⟩ := settled_about_environment .stored .stored
        (commandRun (str "run-1")) (commandRun (str "run-2")) [] d hd cell hmem hsettled
        commandRunTarget (.inl (List.mem_singleton_self _)) (by rw [htrim, hkey])
      refine ⟨d, rfl, cell, hmem, hexisting, henvironment, hobligation ?_⟩
      exact ⟨sampleWorld, _, _, _, .inl rfl⟩

end

end Runner
