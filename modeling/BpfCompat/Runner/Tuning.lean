import BpfCompat.Manifest
import BpfCompat.Validator.Options

/-!
# Loader tuning on its way to the validator

The runner turns the loader tuning of a manifest into options, and the validator parses the
options.  What the validator then holds is what the manifest declares exactly when it fits
the validator's arrays and buffers and no variant asks for a helper and for a trial load at
once (`tuning_round_trip_iff`).
-/

namespace Runner

open Go Manifest

/-! ### From manifest to options -/

section

variable [UnicodeTables]

/-- The number of a helper.  Validation has made sure that there is one. -/
def helperNumber (requiresHelper : Str) : UInt32 :=
  if requiresHelper ≠ [] then
    match helperID requiresHelper with
    | .ok id => UInt32.ofNat id
    | .error _ => 0
  else 0

def vmFixup (fixup : Manifest.MapFixup) : Vm.MapFixup :=
  let unset : Vm.MapFixup := {
    name := fixup.name
    maxEntries := fixup.maxEntries
    innerRingbufBytes := fixup.innerRingbufBytes }
  match fixup.innerMap with
  | none => unset
  | some inner =>
    { unset with
      innerMapType := inner.type
      innerKeySize := inner.keySize
      innerValueSize := inner.valueSize
      innerMaxEntries := inner.maxEntries }

def vmVariant (variant : Manifest.ProgramVariant) : Vm.ProgVariant where
  name := variant.name
  helperID := helperNumber variant.requiresHelper
  trialProbe := variant.probe = str "trial_load"

def vmGroup (group : ProgramVariantGroup) : Vm.ProgVariantGroup where
  group := group.group
  variants := group.programs.map vmVariant

def validatorTuningFromManifest (mf : LoaderTuning) : Vm.ValidatorTuning where
  mapFixups := mf.maps.map vmFixup
  progTypes := mf.programTypes.map fun ov => ⟨ov.program, ov.type⟩
  progVariants := mf.programVariants.map vmGroup
  probeCompanions := mf.probeCompanions

/-! ### What is declared -/

/-- A fixup as it is declared, its inner map type as a number. -/
def declaredFixup (fixup : Manifest.MapFixup) : Validator.Fixup where
  name := fixup.name
  maxEntries := fixup.maxEntries
  innerRingbufBytes := fixup.innerRingbufBytes
  innerMapType := (fixup.innerMap.map fun inner => Validator.innerMapTypeFromName inner.type).getD 0
  innerKeySize := (fixup.innerMap.map InnerMapSpec.keySize).getD 0
  innerValueSize := (fixup.innerMap.map InnerMapSpec.valueSize).getD 0
  innerMaxEntries := (fixup.innerMap.map InnerMapSpec.maxEntries).getD 0

/-- A variant as it is declared: the helper it requires and whether it is to be tried. -/
def declaredVariant (variant : Manifest.ProgramVariant) : Validator.Variant where
  name := variant.name
  helperID := helperNumber variant.requiresHelper
  trialProbe := variant.probe = str "trial_load"

/-- The validator holds the fixups, overrides, groups and companions of a manifest. -/
structure SameTuning (t : Validator.Tuning) (m : LoaderTuning) : Prop where
  fixups : t.mapFixups = m.maps.map declaredFixup
  overrides : t.progTypeOverrides.map (fun o => (o.selector, o.progType))
    = m.programTypes.map fun ov => (ov.program, Validator.progTypeFromName ov.type)
  groups : t.variantGroups
    = m.programVariants.map fun g => ⟨g.group, g.programs.map declaredVariant⟩
  companions : t.probeCompanions = m.probeCompanions

/-- A manifest within the limits of the validator, in which no variant asks for two things. -/
structure Fits (m : LoaderTuning) : Prop where
  maps : m.maps.length ≤ 32
  entries : ∀ fixup ∈ m.maps, fixup.maxEntries.length ≤ 15
  types : m.programTypes.length ≤ 32
  selectors : ∀ ov ∈ m.programTypes, ov.program.length ≤ 127
  groups : m.programVariants.length ≤ 16
  variants : ∀ group ∈ m.programVariants, group.programs.length ≤ 6
  helpers : ∀ group ∈ m.programVariants, ∀ variant ∈ group.programs,
    variant.requiresHelper = [] ∨ variant.probe = []
  companions : m.probeCompanions.length ≤ 64

end

/-! ### What is accepted can be written -/

theorem listed_of_validMapName {name : Str} (h : validMapName name = true) :
  Validator.Listed name
  := by
  obtain ⟨hne, hlength, hbytes⟩ := validMapName_spec h
  exact {
    ne_nil := hne
    no_comma := fun hmem => absurd (hbytes _ hmem) (by decide)
    no_colon := fun hmem => absurd (hbytes _ hmem) (by decide)
    fits := by omega }

theorem no_eq_of_validMapName {name : Str} (h : validMapName name = true) :
  61 ∉ name
  := fun hmem => absurd ((validMapName_spec h).2.2 _ hmem) (by decide)

theorem innerMapType_known {type : Str} (h : type ∈ innerMapTypes) :
  Validator.innerMapTypeFromName type ≠ 0
  := by
  revert h type
  decide

theorem progType_known {type : Str} (h : type ∈ progTypeNames) :
  Validator.progTypeFromName type ≠ 0
  := by
  revert h type
  decide

/-- A fixup comes back unless its number of entries is cut off. -/
theorem readFixup_vmFixup_iff (fixup : Manifest.MapFixup) :
  Validator.readFixup (vmFixup fixup) = declaredFixup fixup ↔ fixup.maxEntries.length ≤ 15
  := by
  rw [← Nat.lt_succ_iff, ← @C.snprintf_eq_self_iff 16 (by decide), Validator.readFixup, vmFixup,
    declaredFixup]
  rcases fixup.innerMap with - | inner
  · simp only [Validator.Fixup.mk.injEq, true_and, Option.map_none, Option.getD_none]
    simp [show Validator.innerMapTypeFromName [] = 0 from rfl]
  · simp

theorem settable_vmFixup {fixup : Manifest.MapFixup} (h : ValidMap fixup) :
  Validator.Settable (vmFixup fixup)
  := by
  obtain ⟨hname, hsets, hentries, hinner⟩ := h
  obtain ⟨hne, hlength, -⟩ := validMapName_spec hname
  have heq := no_eq_of_validMapName hname
  have hnumber : fixup.maxEntries = [] ∨ fixup.maxEntries = str "cpus"
      ∨ fixup.maxEntries.all isDecimal = true ∧ 0 < decimalValue fixup.maxEntries
        ∧ decimalValue fixup.maxEntries < 2 ^ 32 := by
    rcases hentries with hnil | hcpus | ⟨n, hn⟩
    · exact .inl hnil
    · exact .inr (.inl hcpus)
    · rw [parseUint32, Option.ite_none_right_eq_some, Option.some_inj] at hn
      obtain ⟨⟨-, hdigits, hlt⟩, hvalue⟩ := hn
      exact .inr (.inr ⟨hdigits, by omega, hlt⟩)
  rw [vmFixup]
  rcases hsome : fixup.innerMap with - | inner
  · refine ⟨hne, heq, by show fixup.name.length < 68; omega, hnumber, .inl ⟨rfl, rfl, rfl, rfl⟩, ?_⟩
    rcases hsets with hset | hset | hset
    · exact .inl hset
    · exact .inr (.inl (UInt32.pos_iff_ne_zero.mpr hset))
    · exact absurd hsome hset
  · obtain ⟨htype, hvalue, hmax⟩ := hinner inner hsome
    have hknown := innerMapType_known htype
    exact ⟨hne, heq, by show fixup.name.length < 68; omega, hnumber, .inr ⟨hknown, hvalue, hmax⟩,
      .inr (.inr (Validator.innerMapType_readable hknown).1)⟩

section

variable [UnicodeTables]

theorem writable_of_valid {m : LoaderTuning} (h : ValidTuning m) :
  Validator.Writable (validatorTuningFromManifest m)
  := by
  have hnames : (m.maps.map vmFixup).map Vm.MapFixup.name = m.maps.map Manifest.MapFixup.name := by
    rw [List.map_map]
    apply List.map_congr_left
    intro fixup hfixup
    rw [Function.comp_apply, vmFixup]
    rcases fixup.innerMap with - | inner
    · rfl
    · rfl
  refine ⟨?_, ?_, ?_, ?_, ?_⟩
  · intro fixup hfixup
    obtain ⟨declared, hdeclared, rfl⟩ := List.mem_map.mp hfixup
    exact settable_vmFixup (h.maps declared hdeclared)
  · exact hnames ▸ h.maps_nodup
  · intro ov hov
    obtain ⟨declared, hdeclared, rfl⟩ := List.mem_map.mp hov
    obtain ⟨hselector, htype⟩ := h.types declared hdeclared
    obtain ⟨hne, -, hbytes⟩ := validProgramSelector_spec hselector
    exact ⟨hne, fun hmem => absurd (hbytes _ hmem) (by decide), progType_known htype⟩
  · intro group hgroup
    obtain ⟨declared, hdeclared, rfl⟩ := List.mem_map.mp hgroup
    obtain ⟨hname, hprograms, hvariants⟩ := h.groups declared hdeclared
    obtain ⟨hne, hlength, -⟩ := validMapName_spec hname
    refine ⟨hne, no_eq_of_validMapName hname, by show declared.group.length < 68; omega, ?_, ?_⟩
    · simpa [vmGroup] using hprograms
    · intro variant hvariant
      obtain ⟨program, hprogram, rfl⟩ := List.mem_map.mp hvariant
      exact listed_of_validMapName (hvariants program hprogram).name
  · intro companion hcompanion
    exact listed_of_validMapName (h.companions companion hcompanion)

/-! ### What is read is what is declared -/

/-- The number of a helper that is known is not zero. -/
theorem helperNumber_ne_zero {value : Str} (hne : value ≠ []) {id : Nat} (h : helperID value = .ok id) :
  helperNumber value ≠ 0
  := by
  have hid : 0 < id ∧ id < 2 ^ 32 := by
    rw [helperID] at h
    cases hlookup : helperIDs.lookup value with
    | some known =>
        have hall : ∀ entry ∈ helperIDs, 0 < entry.2 ∧ entry.2 < 2 ^ 32 := by
          decide
        obtain ⟨before, after, hsplit, -⟩ := List.lookup_eq_some_iff.mp hlookup
        rw [hlookup] at h
        cases h
        apply hall (value, id)
        rw [hsplit]
        simp
    | none =>
        rw [hlookup] at h
        rcases hparse : parseUint32 value with - | - | n
        · rw [hparse] at h
          contradiction
        · rw [hparse] at h
          contradiction
        · rw [hparse] at h
          cases h
          rw [parseUint32, Option.ite_none_right_eq_some, Option.some_inj] at hparse
          omega
  rw [helperNumber, if_pos hne, h]
  intro hzero
  have htoNat := congrArg UInt32.toNat hzero
  rw [UInt32.toNat_ofNat_of_lt' hid.2] at htoNat
  exact hid.1.ne' htoNat

/-- A variant comes back unless it asks for a helper and for a trial load. -/
theorem readVariant_vmVariant_iff {variant : Manifest.ProgramVariant} (h : ValidVariant variant) :
  Validator.readVariant (vmVariant variant) = declaredVariant variant
    ↔ variant.requiresHelper = [] ∨ variant.probe = []
  := by
  rw [Validator.readVariant, vmVariant, declaredVariant]
  rcases h.probe with hprobe | hprobe
  · simp [hprobe, show ¬ ([] : Str) = str "trial_load" from by decide]
  · simp only [hprobe, decide_true, if_true, Validator.Variant.mk.injEq, true_and, and_true]
    rcases h.helper with hnone | ⟨id, hid⟩
    · simp [helperNumber, hnone]
    · by_cases hnone : variant.requiresHelper = []
      · simp [helperNumber, hnone]
      · have hzero := (helperNumber_ne_zero hnone hid).symm
        simp [hnone, hzero, show str "trial_load" ≠ [] from by decide]

theorem readGroup_vmGroup_iff {group : ProgramVariantGroup}
    (h : ∀ variant ∈ group.programs, ValidVariant variant) :
  Validator.readGroup (vmGroup group) = ⟨group.group, group.programs.map declaredVariant⟩
    ↔ ∀ variant ∈ group.programs, variant.requiresHelper = [] ∨ variant.probe = []
  := by
  rw [Validator.readGroup, vmGroup, Validator.VariantGroup.mk.injEq, List.map_map, List.map_inj_left]
  simp only [true_and, Function.comp_apply]
  apply forall₂_congr
  intro variant hvariant
  exact readVariant_vmVariant_iff (h variant hvariant)

theorem sameTuning_read_iff {m : LoaderTuning} (h : ValidTuning m) :
  SameTuning (Validator.readTuning (validatorTuningFromManifest m)) m
    ↔ (∀ fixup ∈ m.maps, fixup.maxEntries.length ≤ 15)
      ∧ ∀ group ∈ m.programVariants, ∀ variant ∈ group.programs,
        variant.requiresHelper = [] ∨ variant.probe = []
  := by
  have hfixups : (m.maps.map vmFixup).map Validator.readFixup = m.maps.map declaredFixup
      ↔ ∀ fixup ∈ m.maps, fixup.maxEntries.length ≤ 15 := by
    rw [List.map_map, List.map_inj_left]
    apply forall₂_congr
    intro fixup hfixup
    exact readFixup_vmFixup_iff fixup
  have hgroups : (m.programVariants.map vmGroup).map Validator.readGroup
        = m.programVariants.map (fun g => ⟨g.group, g.programs.map declaredVariant⟩)
      ↔ ∀ group ∈ m.programVariants, ∀ variant ∈ group.programs,
        variant.requiresHelper = [] ∨ variant.probe = [] := by
    rw [List.map_map, List.map_inj_left]
    apply forall₂_congr
    intro group hgroup
    exact readGroup_vmGroup_iff (h.groups group hgroup).2.2
  have hoverrides : ((m.programTypes.map fun ov => (⟨ov.program, ov.type⟩ : Vm.ProgTypeOverride)).map
        Validator.readOverride).map (fun o => (o.selector, o.progType))
      = m.programTypes.map fun ov => (ov.program, Validator.progTypeFromName ov.type) := by
    rw [List.map_map, List.map_map]
    apply List.map_congr_left
    intro ov hov
    rw [Function.comp_apply, Function.comp_apply,
      Validator.readOverride_of_known (progType_known (h.types ov hov).2)]
  rw [← hfixups, ← hgroups]
  constructor
  · intro hsame
    exact ⟨hsame.fixups, hsame.groups⟩
  · rintro ⟨hmaps, hvariants⟩
    exact ⟨hmaps, hoverrides, hvariants, rfl⟩

theorem fits_iff {m : LoaderTuning} :
  Fits m ↔ Validator.Room (validatorTuningFromManifest m)
    ∧ (∀ fixup ∈ m.maps, fixup.maxEntries.length ≤ 15)
    ∧ ∀ group ∈ m.programVariants, ∀ variant ∈ group.programs,
      variant.requiresHelper = [] ∨ variant.probe = []
  := by
  constructor
  · rintro ⟨hmaps, hentries, htypes, hselectors, hgroups, hvariants, hhelpers, hcompanions⟩
    refine ⟨⟨?_, ?_, ?_, ?_, ?_, hcompanions⟩, hentries, hhelpers⟩
    · rwa [validatorTuningFromManifest, List.length_map]
    · intro ov hov
      obtain ⟨declared, hdeclared, rfl⟩ := List.mem_map.mp hov
      exact Nat.lt_succ_of_le (hselectors declared hdeclared)
    · rwa [validatorTuningFromManifest, List.length_map]
    · intro group hgroup
      obtain ⟨declared, hdeclared, rfl⟩ := List.mem_map.mp hgroup
      rw [vmGroup, List.length_map]
      exact hvariants declared hdeclared
    · rwa [validatorTuningFromManifest, List.length_map]
  · rintro ⟨hroom, hentries, hhelpers⟩
    obtain ⟨hmaps, hselectors, htypes, hvariants, hgroups, hcompanions⟩ := hroom
    rw [validatorTuningFromManifest, List.length_map] at hmaps htypes hgroups
    refine ⟨hmaps, hentries, htypes, ?_, hgroups, ?_, hhelpers, hcompanions⟩
    · intro ov hov
      exact Nat.le_of_lt_succ (hselectors _ (List.mem_map_of_mem hov))
    · intro group hgroup
      have hlength := hvariants _ (List.mem_map_of_mem hgroup)
      rwa [vmGroup, List.length_map] at hlength

/-- Loader tuning survives the way from the manifest to the validator exactly when it is within
the validator's limits and no variant asks for a helper and for a trial load. -/
theorem tuning_round_trip_iff (m : LoaderTuning) (hm : validateTuning m = .ok ())
    (r : Vm.ValidatorRun) (hr : r.tuning = validatorTuningFromManifest m) :
  (∃ opts, Validator.parseArgs r.validator {} (Validator.optionList r.options) = .ok opts
      ∧ SameTuning opts.tuning m)
    ↔ Fits m
  := by
  have hvalid := validTuning_of_ok hm
  have hread (t : Validator.Tuning) :=
    @Validator.addAll_tuningOptions _ (writable_of_valid hvalid) t
  rw [fits_iff, ← sameTuning_read_iff hvalid, Validator.parseArgs_options, hr]
  simp only [bind_eq_ok_iff, hread, Except.ok.injEq]
  constructor
  · rintro ⟨_, ⟨_, ⟨hroom, rfl⟩, rfl⟩, hsame⟩
    exact ⟨hroom, hsame⟩
  · rintro ⟨hroom, hsame⟩
    exact ⟨_, ⟨_, ⟨hroom, rfl⟩, rfl⟩, hsame⟩

end

section

attribute [local instance] asciiTables

/-- A run with the tuning of a manifest. -/
def tunedRun (m : LoaderTuning) : Vm.ValidatorRun where
  validator := str "/tmp/bpfcompat/validator"
  artifact := str "/tmp/bpfcompat/artifact.bpf.o"
  tuning := validatorTuningFromManifest m
  result := str "/tmp/bpfcompat/result.json"
  logDir := str "/tmp/bpfcompat/logs"
  stderr := str "/tmp/bpfcompat/validator.stderr"
  exitPath := str "/tmp/bpfcompat/validator.exit"

/-- A tuning of each kind. -/
def sizedManifest : LoaderTuning where
  maps := [⟨str "auxiliary_maps", str "cpus", 0, none⟩,
    ⟨str "ringbuf_maps", str "16", 8388608, none⟩,
    ⟨str "visibility", [], 0, some ⟨str "hash", 4, 4, 64⟩⟩]
  programTypes := [⟨str "tp/sched", str "tracepoint"⟩]
  programVariants := [⟨str "recvmmsg", [⟨str "recvmmsg_x", str "bpf_loop", []⟩,
    ⟨str "recvmmsg_trial", [], str "trial_load"⟩, ⟨str "recvmmsg_old_x", [], []⟩]⟩]
  probeCompanions := [str "hotplug", str "sys_exit"]

theorem tuning_round_trip_sized :
  ∃ opts, Validator.parseArgs (tunedRun sizedManifest).validator {}
      (Validator.optionList (tunedRun sizedManifest).options) = .ok opts
    ∧ SameTuning opts.tuning sizedManifest
  := (tuning_round_trip_iff sizedManifest (by rfl) (tunedRun sizedManifest) rfl).mpr
    ⟨by decide, by decide, by decide, by decide, by decide, by decide, by decide, by decide⟩

/-- A variant that needs a helper and is to be tried as well. -/
def triedManifest : LoaderTuning where
  programVariants := [⟨str "recvmmsg", [⟨str "recvmmsg_x", str "bpf_loop", str "trial_load"⟩]⟩]

/-- Of such a variant the helper is lost. -/
theorem helper_lost :
  ¬ ∀ m : LoaderTuning, validateTuning m = .ok () → ∀ r : Vm.ValidatorRun,
    r.tuning = validatorTuningFromManifest m →
    ∃ opts, Validator.parseArgs r.validator {} (Validator.optionList r.options) = .ok opts
      ∧ SameTuning opts.tuning m
  := by
  intro h
  obtain ⟨opts, hparse, hsame⟩ := h triedManifest (by rfl) (tunedRun triedManifest) rfl
  have hgroups := hsame.groups
  have hread : Validator.parseArgs (tunedRun triedManifest).validator {}
      (Validator.optionList (tunedRun triedManifest).options) = .ok {
        artifact := some (str "/tmp/bpfcompat/artifact.bpf.o")
        out := some (str "/tmp/bpfcompat/result.json")
        logDir := some (str "/tmp/bpfcompat/logs")
        tuning := { variantGroups := [⟨str "recvmmsg", [⟨str "recvmmsg_x", 0, true⟩]⟩] } } := by
    rfl
  rw [hread, Except.ok.injEq] at hparse
  rw [← hparse] at hgroups
  exact absurd hgroups (by decide)

end

end Runner
