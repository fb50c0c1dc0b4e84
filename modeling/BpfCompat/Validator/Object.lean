import BpfCompat.Go.Strings

/-!
# Loading an object

What the validator does to a BPF object between opening and loading it, on the main path and
in the trial loads, and the choice among program variants.  libbpf and the kernel are
parameters: what they answer depends on what they are asked, and the outcome of a load on the
object as it was prepared.
-/

namespace Validator

open Go

/-- The shape of the maps inside a map. -/
structure InnerMap where
  type : Nat
  keySize : UInt32
  valueSize : UInt32
  maxEntries : UInt32
deriving DecidableEq

structure BpfMap where
  name : Str
  type : Nat
  maxEntries : UInt32
  inner : Option InnerMap := none
deriving DecidableEq

structure BpfProgram where
  name : Str
  sectionName : Str
  type : Nat
  autoload : Bool := true
deriving DecidableEq

/-- An object that is open, its programs in ELF order. -/
@[ext]
structure BpfObject where
  maps : List BpfMap
  programs : List BpfProgram
deriving DecidableEq

/-- libbpf and the kernel below it: whether a map can be created and taken as a prototype, whether
a helper is supported, and what a load returns, zero or a negative error number.  The sizes of maps
and the types of programs can be set freely as long as the object is not loaded. -/
structure Libbpf where
  numPossibleCpus : Int
  mapCreate : InnerMap → Bool
  acceptsInner : BpfMap → InnerMap → Bool
  probeHelper : UInt32 → Bool
  load : BpfObject → Int

/-- A map fixup as the validator holds it.  An empty size, zero bytes and type zero are unset. -/
structure Fixup where
  name : Str
  maxEntries : Str := []
  innerRingbufBytes : UInt32 := 0
  innerMapType : Nat := 0
  innerKeySize : UInt32 := 0
  innerValueSize : UInt32 := 0
  innerMaxEntries : UInt32 := 0
deriving DecidableEq

/-- A type override.  The option is refused when it names no type. -/
structure TypeOverride where
  selector : Str
  progType : Nat
  specified : progType ≠ 0
deriving DecidableEq

/-- A variant of a program, with the helper it needs (zero for none) and whether it is to be
tried on its own first. -/
structure Variant where
  name : Str
  helperID : UInt32 := 0
  trialProbe : Bool := false
deriving DecidableEq

structure VariantGroup where
  group : Str
  variants : List Variant
deriving DecidableEq

/-- The loader tuning among the validator's options. -/
structure Tuning where
  mapFixups : List Fixup := []
  progTypeOverrides : List TypeOverride := []
  variantGroups : List VariantGroup := []
  probeCompanions : List Str := []
deriving DecidableEq

/-! ### Map fixups -/

def ringbufType : Nat := 27

/-- The number of entries a fixup asks for. -/
def fixupEntries (lib : Libbpf) (fixup : Fixup) : UInt32 :=
  if fixup.maxEntries = str "cpus" then
    if 0 < lib.numPossibleCpus then UInt32.ofNat lib.numPossibleCpus.toNat else 1
  else UInt32.ofNat (decimalValue fixup.maxEntries)

/-- A map with a prototype installed, or as it was left by the failure. -/
def installInner (lib : Libbpf) (map : BpfMap) (inner : InnerMap) : Except BpfMap BpfMap :=
  if lib.mapCreate inner && lib.acceptsInner map inner then .ok { map with inner := some inner }
  else .error map

/-- One fixup on its map.  A step that fails leaves the map as the steps before made it. -/
def fixMap (lib : Libbpf) (fixup : Fixup) (map : BpfMap) : Except BpfMap BpfMap := do
  let map :=
    if fixup.maxEntries ≠ [] then { map with maxEntries := fixupEntries lib fixup } else map
  let map ←
    if 0 < fixup.innerRingbufBytes then
      installInner lib map ⟨ringbufType, 0, 0, fixup.innerRingbufBytes⟩
    else .ok map
  if 0 < fixup.innerMapType then
    installInner lib map ⟨fixup.innerMapType, fixup.innerKeySize, fixup.innerValueSize,
      fixup.innerMaxEntries⟩
  else .ok map

/-- What is left of a map, whether or not its fixup came through. -/
def leftOver : Except BpfMap BpfMap → BpfMap
  | .ok map => map
  | .error map => map

/-- The first element of a list that a predicate selects, changed. -/
def modifyFirst {α : Type*} (p : α → Bool) (f : α → α) : List α → List α
  | [] => []
  | a :: l => if p a then f a :: l else a :: modifyFirst p f l

def applyMapFixups (lib : Libbpf) (opts : Tuning) (obj : BpfObject) : BpfObject :=
  { obj with
    maps := opts.mapFixups.foldl
      (fun maps fixup =>
        modifyFirst (fun map => map.name = fixup.name) (fun map => leftOver (fixMap lib fixup map)) maps)
      obj.maps }

/-! ### Sizes and types the object does not give -/

def autosizeDefaultMaxEntries : UInt32 := 4096

/-- The map types for which no entries are not allowed: hash, array, prog array, per-CPU hash
and array, stack trace, LRU hash, LRU per-CPU hash and LPM trie. -/
def mapTypeNeedsSize (type : Nat) : Bool := type ∈ [1, 2, 3, 5, 6, 7, 9, 10, 11]

def autoSizeMap (map : BpfMap) : BpfMap :=
  if map.maxEntries ≠ 0 then map
  else if !mapTypeNeedsSize map.type then map
  else { map with maxEntries := autosizeDefaultMaxEntries }

def autoSizeMaps (obj : BpfObject) : BpfObject := { obj with maps := obj.maps.map autoSizeMap }

/-- The program with another type. -/
def BpfProgram.withType (prog : BpfProgram) (type : Nat) : BpfProgram := { prog with type := type }

/-- Whether a selector names a program, by its name or by its section. -/
def selects (selector : Str) (prog : BpfProgram) : Bool :=
  prog.name = selector || prog.sectionName = selector

/-- The overrides one after the other, each on the first program it selects. -/
def overrideTypes (progs : List BpfProgram) (overrides : List TypeOverride) : List BpfProgram :=
  overrides.foldl
    (fun progs o => modifyFirst (selects o.selector) (·.withType o.progType) progs)
    progs

def applyProgTypeOverrides (opts : Tuning) (obj : BpfObject) : BpfObject :=
  { obj with programs := overrideTypes obj.programs opts.progTypeOverrides }

def unspecType : Nat := 0

def socketFilterType : Nat := 1

def autoTypeProgram (prog : BpfProgram) : BpfProgram :=
  if prog.type ≠ unspecType then prog
  else if (str "socket").isPrefixOf prog.sectionName then prog.withType socketFilterType
  else prog

def autoTypePrograms (obj : BpfObject) : BpfObject :=
  { obj with programs := obj.programs.map autoTypeProgram }

/-! ### Autoload -/

/-- The position of the program of a name, the first if there are several. -/
def findProgram (progs : List BpfProgram) (name : Str) : Option Nat :=
  (progs.map BpfProgram.name).idxOf? name

def setAutoload (progs : List BpfProgram) (i : Nat) (autoload : Bool) : List BpfProgram :=
  progs.modify i fun p => { p with autoload := autoload }

/-- Only the program at a position is loaded. -/
def onlyAt (progs : List BpfProgram) (i : Nat) : List BpfProgram :=
  progs.mapIdx fun j p => { p with autoload := j = i }

/-- The programs with the companions switched on, and all others off. -/
def onlyCompanions (opts : Tuning) (progs : List BpfProgram) : List BpfProgram :=
  opts.probeCompanions.foldl
    (fun progs name =>
      match findProgram progs name with
      | none => progs
      | some i => setAutoload progs i true)
    (progs.map fun p => { p with autoload := false })

/-! ### Trial loads -/

/-- Whether a variant loads on its own, with the companions.  The object is opened anew, so that
what was done to the one of the main path has no part in it. -/
def trialProbeVariant (lib : Libbpf) (opts : Tuning) (obj : BpfObject) (name : Str) : Bool :=
  let obj := applyMapFixups lib opts obj
  let progs := onlyCompanions opts obj.programs
  match findProgram progs name with
  | none => false
  | some i => lib.load { obj with programs := setAutoload progs i true } = 0

/-- What loading one program on its own comes to. -/
def trialLoadOneProgram (lib : Libbpf) (opts : Tuning) (obj : BpfObject) (target : Nat) : Int :=
  let obj := applyMapFixups lib opts obj
  lib.load { obj with programs := onlyAt obj.programs target }

/-! ### Variants -/

/-- The variants of a group from position `k` on: the first one that is present and satisfied is
chosen and switched on, every other one that is present is switched off. -/
def selectVariants (helper : UInt32 → Bool) (trial : Str → Bool) :
    Nat → Option Nat → List BpfProgram → List Variant → Option Nat × List BpfProgram
  | _, chosen, progs, [] => (chosen, progs)
  | k, chosen, progs, variant :: rest =>
    match findProgram progs variant.name with
    | none => selectVariants helper trial (k + 1) chosen progs rest
    | some i =>
      if chosen = none ∧ (0 < variant.helperID → helper variant.helperID = true)
          ∧ (variant.trialProbe = true → trial variant.name = true) then
        selectVariants helper trial (k + 1) (some k) (setAutoload progs i true) rest
      else selectVariants helper trial (k + 1) chosen (setAutoload progs i false) rest

/-- The choices made in all groups, in order, and the programs afterwards. -/
def applyProgVariants (helper : UInt32 → Bool) (trial : Str → Bool) :
    List BpfProgram → List VariantGroup → List (Option Nat) × List BpfProgram
  | progs, [] => ([], progs)
  | progs, group :: groups =>
    let (chosen, progs) := selectVariants helper trial 0 none progs group.variants
    let (rest, progs) := applyProgVariants helper trial progs groups
    (chosen :: rest, progs)

/-! ### The main load -/

/-- What the main path does to an object before loading it, autoload apart. -/
def prepareObject (lib : Libbpf) (opts : Tuning) (obj : BpfObject) : BpfObject :=
  let obj := applyMapFixups lib opts obj
  let obj := autoSizeMaps obj
  let obj := applyProgTypeOverrides opts obj
  autoTypePrograms obj

/-- The outcome of the main load: variants first, then the preparation. -/
def runLibbpfLoad (lib : Libbpf) (opts : Tuning) (obj : BpfObject) : Int :=
  let selected := { obj with
    programs := (applyProgVariants lib.probeHelper (trialProbeVariant lib opts obj)
      obj.programs opts.variantGroups).2 }
  lib.load (prepareObject lib opts selected)

end Validator
