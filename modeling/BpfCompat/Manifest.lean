import BpfCompat.Go.Collections
import BpfCompat.Go.Strings

/-!
# Loader tuning in manifests

What a manifest may ask of the loader: map fixups, program types, program variants and the
companions of trial loads; and what validation accepts of it.
-/

namespace Manifest

open Go

structure InnerMapSpec where
  type : Str
  keySize : UInt32 := 0
  valueSize : UInt32
  maxEntries : UInt32
deriving DecidableEq

structure MapFixup where
  name : Str
  maxEntries : Str := []
  innerRingbufBytes : UInt32 := 0
  innerMap : Option InnerMapSpec := none
deriving DecidableEq

structure ProgramTypeOverride where
  program : Str
  type : Str
deriving DecidableEq

structure ProgramVariant where
  name : Str
  requiresHelper : Str := []
  probe : Str := []
deriving DecidableEq

structure ProgramVariantGroup where
  group : Str
  programs : List ProgramVariant
deriving DecidableEq

/-- The part of a manifest that is about the loader. -/
structure LoaderTuning where
  maps : List MapFixup := []
  programTypes : List ProgramTypeOverride := []
  programVariants : List ProgramVariantGroup := []
  probeCompanions : List Str := []
deriving DecidableEq

/-! ### Names and numbers -/

def isAlphanumeric (b : UInt8) : Bool :=
  (97 ≤ b && b ≤ 122) || (65 ≤ b && b ≤ 90) || (48 ≤ b && b ≤ 57)

/-- The bytes of a map name: letters, digits, `_` and `.`. -/
def mapNameByte (b : UInt8) : Bool := isAlphanumeric b || b = 95 || b = 46

/-- The bytes of a program selector: `/` and `-` as well. -/
def selectorByte (b : UInt8) : Bool := mapNameByte b || b = 47 || b = 45

def validMapName (name : Str) : Bool := name ≠ [] && name.length ≤ 64 && name.all mapNameByte

def validProgramSelector (sel : Str) : Bool := sel ≠ [] && sel.length ≤ 128 && sel.all selectorByte

/-- A decimal number of 32 bits. -/
def parseUint32 (s : Str) : Option Nat :=
  if s ≠ [] ∧ s.all isDecimal = true ∧ decimalValue s < 2 ^ 32 then some (decimalValue s) else none

def helperIDs : List (Str × Nat) :=
  [(str "bpf_probe_read_kernel", 113), (str "bpf_ringbuf_output", 130),
    (str "bpf_ringbuf_reserve", 131), (str "bpf_get_current_task_btf", 158), (str "bpf_loop", 181)]

section

variable [UnicodeTables]

def helperID (value : Str) : Except Str Nat :=
  match helperIDs.lookup value with
  | some id => .ok id
  | none =>
    match parseUint32 value with
    | some (id + 1) => .ok (id + 1)
    | _ => .error (str "unknown BPF helper " ++ quote value
        ++ str " (use a known name or a positive numeric id)")

end

def innerMapTypes : List Str :=
  [str "hash", str "array", str "lru_hash", str "percpu_hash", str "percpu_array",
    str "lru_percpu_hash"]

def progTypeNames : List Str :=
  [str "socket_filter", str "kprobe", str "tracepoint", str "raw_tracepoint", str "xdp",
    str "perf_event", str "cgroup_skb", str "cgroup_sock", str "sched_cls", str "sched_act",
    str "sk_skb", str "sk_msg", str "tracing", str "lsm"]

/-! ### Validation -/

/-- A position in a list of the manifest, as errors name it. -/
def entryAt (list : String) (i : Nat) : Str := str list ++ str "[" ++ decimal i ++ str "]"

/-- A check that ends validation with an error when something is wrong. -/
def reject (wrong : Prop) [Decidable wrong] (e : Str) : Except Str Unit :=
  if wrong then .error e else .ok ()

theorem reject_ok {wrong : Prop} [Decidable wrong] {e : Str} :
  reject wrong e = .ok () ↔ ¬ wrong
  := by
  rw [reject]
  split_ifs with h
  · simp [h]
  · simp [h]

section

variable [UnicodeTables]

def validateMap (seen : List Str) (i : Nat) (fixup : MapFixup) : Except Str Unit := do
  let subject := str "map fixup " ++ quote fixup.name
  reject (validMapName fixup.name = false) (entryAt "maps" i ++ str ".name " ++ quote fixup.name
    ++ str " must be a map identifier (letters, digits, '_', '.')")
  reject (fixup.name ∈ seen) (str "duplicate map fixup " ++ quote fixup.name)
  reject (fixup.maxEntries = [] ∧ fixup.innerRingbufBytes = 0 ∧ fixup.innerMap = none)
    (subject ++ str " must set max_entries, inner_ringbuf_bytes, or inner_map")
  reject (fixup.maxEntries ≠ [] ∧ fixup.maxEntries ≠ str "cpus"
      ∧ (parseUint32 fixup.maxEntries = none ∨ parseUint32 fixup.maxEntries = some 0))
    (subject ++ str " max_entries must be a positive integer or \"cpus\"")
  match fixup.innerMap with
  | none => .ok ()
  | some inner =>
    reject (inner.type ∉ innerMapTypes) (subject ++ str " inner_map.type " ++ quote inner.type
      ++ str " must be one of hash, array, lru_hash, percpu_hash, percpu_array, lru_percpu_hash")
    reject (inner.valueSize = 0) (subject ++ str " inner_map.value_size must be positive")
    reject (inner.maxEntries = 0) (subject ++ str " inner_map.max_entries must be positive")

def validateMaps (seen : List Str) (i : Nat) : List MapFixup → Except Str Unit
  | [] => .ok ()
  | fixup :: rest => do
    validateMap seen i fixup
    validateMaps (fixup.name :: seen) (i + 1) rest

def validateProgramTypes (i : Nat) : List ProgramTypeOverride → Except Str Unit
  | [] => .ok ()
  | ov :: rest => do
    reject (trimSpace ov.program = [])
      (entryAt "program_types" i ++ str ".program is required (program name or ELF section)")
    reject (validProgramSelector ov.program = false) (entryAt "program_types" i ++ str ".program "
      ++ quote ov.program ++ str
        " must be a program name or ELF section (letters, digits, '_', '.', '/', '-')")
    reject (ov.type ∉ progTypeNames) (entryAt "program_types" i ++ str ".type " ++ quote ov.type
      ++ str " is not a recognized BPF program type")
    validateProgramTypes (i + 1) rest

/-- The error of a helper that is not known. -/
def helperError (value : Str) : Option Str :=
  match helperID value with
  | .ok _ => none
  | .error e => some e

def validateVariant (seen : List Str) (group : Str) (j : Nat) (variant : ProgramVariant) :
    Except Str Unit := do
  let subject := str "program variant " ++ quote variant.name
  reject (validMapName variant.name = false) (str "program variant group " ++ quote group
    ++ str " programs[" ++ decimal j ++ str "].name " ++ quote variant.name
    ++ str " must be an identifier")
  reject (variant.name ∈ seen)
    (str "program " ++ quote variant.name ++ str " appears in more than one variant group")
  reject (variant.requiresHelper ≠ [] ∧ (helperError variant.requiresHelper).isSome)
    (subject ++ str ": " ++ (helperError variant.requiresHelper).getD [])
  reject (variant.probe ≠ [] ∧ variant.probe ≠ str "trial_load")
    (subject ++ str ": probe must be \"trial_load\"")

/-- The variants of a group.  The names seen so far are passed on. -/
def validateVariants (seen : List Str) (group : Str) (j : Nat) :
    List ProgramVariant → Except Str (List Str)
  | [] => .ok seen
  | variant :: rest => do
    validateVariant seen group j variant
    validateVariants (variant.name :: seen) group (j + 1) rest

def validateProgramVariants (seenGroups seenPrograms : List Str) (i : Nat) :
    List ProgramVariantGroup → Except Str Unit
  | [] => .ok ()
  | group :: rest => do
    reject (validMapName group.group = false) (entryAt "program_variants" i ++ str ".group "
      ++ quote group.group ++ str " must be an identifier (letters, digits, '_', '.')")
    reject (group.group ∈ seenGroups)
      (str "duplicate program variant group " ++ quote group.group)
    reject (group.programs = [])
      (str "program variant group " ++ quote group.group ++ str " has no programs")
    let seenPrograms ← validateVariants seenPrograms group.group 0 group.programs
    validateProgramVariants (group.group :: seenGroups) seenPrograms (i + 1) rest

def validateProbeCompanions (seen : List Str) (i : Nat) : List Str → Except Str Unit
  | [] => .ok ()
  | companion :: rest => do
    reject (validMapName companion = false)
      (entryAt "probe_companions" i ++ str " " ++ quote companion ++ str " must be an identifier")
    reject (companion ∈ seen) (str "duplicate probe companion " ++ quote companion)
    validateProbeCompanions (companion :: seen) (i + 1) rest

/-- The checks on the loader tuning, in the order they are made. -/
def validateTuning (m : LoaderTuning) : Except Str Unit := do
  validateMaps [] 0 m.maps
  validateProgramTypes 0 m.programTypes
  validateProgramVariants [] [] 0 m.programVariants
  validateProbeCompanions [] 0 m.probeCompanions

/-! ### What is accepted -/

/-- What validation asks of a variant on its own. -/
structure ValidVariant (variant : ProgramVariant) : Prop where
  name : validMapName variant.name = true
  helper : variant.requiresHelper = [] ∨ ∃ id, helperID variant.requiresHelper = .ok id
  probe : variant.probe = [] ∨ variant.probe = str "trial_load"

theorem validateVariant_ok {seen : List Str} {group : Str} {j : Nat} {variant : ProgramVariant}
    (h : validateVariant seen group j variant = .ok ()) :
  ValidVariant variant ∧ variant.name ∉ seen
  := by
  rw [validateVariant, check_bind_eq_ok_iff, check_bind_eq_ok_iff, check_bind_eq_ok_iff, reject_ok, reject_ok, reject_ok, reject_ok] at h
  obtain ⟨hname, hseen, hhelper, hprobe⟩ := h
  refine ⟨⟨by simpa using hname, ?_, ?_⟩, hseen⟩
  · by_cases hnone : variant.requiresHelper = []
    · exact Or.inl hnone
    · right
      cases hid : helperID variant.requiresHelper with
      | ok id => exact ⟨id, rfl⟩
      | error e => exact absurd ⟨hnone, by rw [helperError, hid]; rfl⟩ hhelper
  · by_cases hnone : variant.probe = []
    · exact Or.inl hnone
    · right
      by_contra hother
      exact hprobe ⟨hnone, hother⟩

theorem validateVariants_ok {seen seen' : List Str} {group : Str} {j : Nat}
    {variants : List ProgramVariant} (h : validateVariants seen group j variants = .ok seen') :
  (∀ variant ∈ variants, ValidVariant variant)
    ∧ seen' = (variants.map ProgramVariant.name).reverse ++ seen
    ∧ (variants.map ProgramVariant.name).Nodup
    ∧ ∀ variant ∈ variants, variant.name ∉ seen
  := by
  induction variants generalizing seen j with
  | nil =>
      rw [validateVariants, Except.ok.injEq] at h
      simp [h]
  | cons variant rest ih =>
      rw [validateVariants, check_bind_eq_ok_iff] at h
      obtain ⟨hvalid, hseen⟩ := validateVariant_ok h.1
      obtain ⟨hrest, heq, hnodup, hfresh⟩ := ih h.2
      refine ⟨?_, ?_, ?_, ?_⟩
      · rw [List.forall_mem_cons]
        exact ⟨hvalid, hrest⟩
      · simp [heq]
      · rw [List.map_cons, List.nodup_cons]
        refine ⟨?_, hnodup⟩
        rw [List.mem_map]
        rintro ⟨other, hother, hname⟩
        exact hfresh other hother (by simp [hname])
      · rw [List.forall_mem_cons]
        exact ⟨hseen, fun other hother hmem => hfresh other hother (List.mem_cons_of_mem _ hmem)⟩

/-- The names of all variants of all groups. -/
def variantNames (groups : List ProgramVariantGroup) : List Str :=
  groups.flatMap fun group => group.programs.map ProgramVariant.name

theorem validateProgramVariants_ok {seenGroups seenPrograms : List Str} {i : Nat}
    {groups : List ProgramVariantGroup}
    (h : validateProgramVariants seenGroups seenPrograms i groups = .ok ()) :
  (∀ group ∈ groups, validMapName group.group = true ∧ group.programs ≠ []
      ∧ ∀ variant ∈ group.programs, ValidVariant variant)
    ∧ (variantNames groups).Nodup ∧ ∀ name ∈ variantNames groups, name ∉ seenPrograms
  := by
  induction groups generalizing seenGroups seenPrograms i with
  | nil => simp [variantNames]
  | cons group rest ih =>
      rw [validateProgramVariants, check_bind_eq_ok_iff, check_bind_eq_ok_iff, check_bind_eq_ok_iff, reject_ok, reject_ok, reject_ok] at h
      obtain ⟨hgroup, -, hprograms, h⟩ := h
      cases hseen : validateVariants seenPrograms group.group 0 group.programs with
      | error e =>
          rw [hseen] at h
          contradiction
      | ok seen =>
          rw [hseen] at h
          obtain ⟨hvalid, heq, hnodup, hfresh⟩ := validateVariants_ok hseen
          obtain ⟨hrest, hrestNodup, hrestFresh⟩ := ih h
          have happart : ∀ name ∈ variantNames rest,
              name ∉ group.programs.map ProgramVariant.name ∧ name ∉ seenPrograms := by
            intro name hname
            have hnot := hrestFresh name hname
            rw [heq, List.mem_append, List.mem_reverse, not_or] at hnot
            exact hnot
          refine ⟨?_, ?_, ?_⟩
          · rw [List.forall_mem_cons]
            exact ⟨⟨by simpa using hgroup, hprograms, hvalid⟩, hrest⟩
          · rw [variantNames, List.flatMap_cons, List.nodup_append]
            refine ⟨hnodup, hrestNodup, ?_⟩
            rintro name hname _ hother rfl
            exact (happart name hother).1 hname
          · intro name hname
            rw [variantNames, List.flatMap_cons, List.mem_append] at hname
            rcases hname with hname | hname
            · rw [List.mem_map] at hname
              obtain ⟨variant, hvariant, rfl⟩ := hname
              exact hfresh variant hvariant
            · exact (happart name hname).2

/-- What validation asks of a map fixup on its own. -/
structure ValidMap (fixup : MapFixup) : Prop where
  name : validMapName fixup.name = true
  sets : fixup.maxEntries ≠ [] ∨ fixup.innerRingbufBytes ≠ 0 ∨ fixup.innerMap ≠ none
  entries : fixup.maxEntries = [] ∨ fixup.maxEntries = str "cpus"
    ∨ ∃ n, parseUint32 fixup.maxEntries = some (n + 1)
  inner : ∀ inner ∈ fixup.innerMap,
    inner.type ∈ innerMapTypes ∧ inner.valueSize ≠ 0 ∧ inner.maxEntries ≠ 0

theorem validateMap_ok {seen : List Str} {i : Nat} {fixup : MapFixup}
    (h : validateMap seen i fixup = .ok ()) :
  ValidMap fixup ∧ fixup.name ∉ seen
  := by
  rw [validateMap, check_bind_eq_ok_iff, check_bind_eq_ok_iff, check_bind_eq_ok_iff,
    check_bind_eq_ok_iff, reject_ok, reject_ok, reject_ok, reject_ok] at h
  obtain ⟨hname, hseen, hsets, hentries, hinner⟩ := h
  refine ⟨⟨by simpa using hname, ?_, ?_, ?_⟩, hseen⟩
  · tauto
  · by_cases hnone : fixup.maxEntries = []
    · exact .inl hnone
    by_cases hcpus : fixup.maxEntries = str "cpus"
    · exact .inr (.inl hcpus)
    right
    right
    rcases hparse : parseUint32 fixup.maxEntries with - | - | n
    · exact absurd ⟨hnone, hcpus, .inl hparse⟩ hentries
    · exact absurd ⟨hnone, hcpus, .inr hparse⟩ hentries
    · exact ⟨n, rfl⟩
  · intro inner hsome
    rw [Option.mem_def] at hsome
    rw [hsome] at hinner
    simp only [check_bind_eq_ok_iff, reject_ok, not_not] at hinner
    exact hinner

theorem validateMaps_ok {seen : List Str} {i : Nat} {fixups : List MapFixup}
    (h : validateMaps seen i fixups = .ok ()) :
  (∀ fixup ∈ fixups, ValidMap fixup ∧ fixup.name ∉ seen) ∧ (fixups.map MapFixup.name).Nodup
  := by
  induction fixups generalizing seen i with
  | nil => simp
  | cons fixup rest ih =>
      rw [validateMaps, check_bind_eq_ok_iff] at h
      obtain ⟨hrest, hnodup⟩ := ih h.2
      rw [List.forall_mem_cons, List.map_cons, List.nodup_cons]
      refine ⟨⟨validateMap_ok h.1, fun other hother => ?_⟩, ?_, hnodup⟩
      · obtain ⟨hvalid, hfresh⟩ := hrest other hother
        exact ⟨hvalid, fun hmem => hfresh (List.mem_cons_of_mem _ hmem)⟩
      · rw [List.mem_map]
        rintro ⟨other, hother, hname⟩
        exact (hrest other hother).2 (by simp [hname])

theorem validateProgramTypes_ok {i : Nat} {overrides : List ProgramTypeOverride}
    (h : validateProgramTypes i overrides = .ok ()) :
  ∀ ov ∈ overrides, validProgramSelector ov.program = true ∧ ov.type ∈ progTypeNames
  := by
  induction overrides generalizing i with
  | nil => simp
  | cons ov rest ih =>
      rw [validateProgramTypes, check_bind_eq_ok_iff, check_bind_eq_ok_iff, check_bind_eq_ok_iff,
        reject_ok, reject_ok, reject_ok, not_not, Bool.not_eq_false] at h
      rw [List.forall_mem_cons]
      exact ⟨⟨h.2.1, h.2.2.1⟩, ih h.2.2.2⟩

theorem validateProbeCompanions_ok {seen : List Str} {i : Nat} {companions : List Str}
    (h : validateProbeCompanions seen i companions = .ok ()) :
  ∀ companion ∈ companions, validMapName companion = true
  := by
  induction companions generalizing seen i with
  | nil => simp
  | cons companion rest ih =>
      rw [validateProbeCompanions, check_bind_eq_ok_iff, check_bind_eq_ok_iff, reject_ok, reject_ok,
        Bool.not_eq_false] at h
      rw [List.forall_mem_cons]
      exact ⟨h.1, ih h.2.2⟩

/-- What a manifest that is accepted asks of the loader. -/
structure ValidTuning (m : LoaderTuning) : Prop where
  maps : ∀ fixup ∈ m.maps, ValidMap fixup
  maps_nodup : (m.maps.map MapFixup.name).Nodup
  types : ∀ ov ∈ m.programTypes, validProgramSelector ov.program = true ∧ ov.type ∈ progTypeNames
  groups : ∀ group ∈ m.programVariants, validMapName group.group = true ∧ group.programs ≠ []
    ∧ ∀ variant ∈ group.programs, ValidVariant variant
  variants_nodup : (variantNames m.programVariants).Nodup
  companions : ∀ companion ∈ m.probeCompanions, validMapName companion = true

theorem validTuning_of_ok {m : LoaderTuning} (h : validateTuning m = .ok ()) :
  ValidTuning m
  := by
  rw [validateTuning, check_bind_eq_ok_iff, check_bind_eq_ok_iff, check_bind_eq_ok_iff] at h
  obtain ⟨hmaps, htypes, hvariants, hcompanions⟩ := h
  exact {
    maps := fun fixup hfixup => ((validateMaps_ok hmaps).1 fixup hfixup).1
    maps_nodup := (validateMaps_ok hmaps).2
    types := validateProgramTypes_ok htypes
    groups := (validateProgramVariants_ok hvariants).1
    variants_nodup := (validateProgramVariants_ok hvariants).2.1
    companions := validateProbeCompanions_ok hcompanions }

/-- In a manifest that is accepted no program stands for two variants. -/
theorem variantNames_nodup {m : LoaderTuning} (h : validateTuning m = .ok ()) :
  (variantNames m.programVariants).Nodup
  := (validTuning_of_ok h).variants_nodup

end

/-! ### The bytes of names -/

theorem validMapName_spec {name : Str} (h : validMapName name = true) :
  name ≠ [] ∧ name.length ≤ 64 ∧ ∀ b ∈ name, mapNameByte b = true
  := by
  simpa [validMapName, and_assoc] using h

theorem validProgramSelector_spec {sel : Str} (h : validProgramSelector sel = true) :
  sel ≠ [] ∧ sel.length ≤ 128 ∧ ∀ b ∈ sel, selectorByte b = true
  := by
  simpa [validProgramSelector, and_assoc] using h

end Manifest
