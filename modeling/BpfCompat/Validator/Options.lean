import BpfCompat.C
import BpfCompat.Go.Collections
import BpfCompat.Validator.Object
import BpfCompat.Vm.Command

/-!
# The validator's options

The option parser of the validator fills arrays of fixed capacity and buffers of fixed size.
It is run here on the options the runner writes for the loader tuning: `readFixup`,
`readOverride` and `readVariant` say what is read of each, and `addTuning_ok_iff` that all of
it is read exactly when it fits.
-/

namespace Validator

open Go C

/-! ### Refusals -/

/-- Why the parser stops: it was asked for help, or an argument is wrong. -/
inductive Refused where
  | help (text : Str)
  | invalid (message : Str)
deriving DecidableEq

/-- A check that ends the parsing with a message when something is wrong. -/
def refuse (wrong : Prop) [Decidable wrong] (message : Str) : Except Refused Unit :=
  if wrong then .error (.invalid message) else .ok ()

theorem refuse_ok_iff {wrong : Prop} [Decidable wrong] {message : Str} :
  refuse wrong message = .ok () ↔ ¬ wrong
  := by
  rw [refuse]
  split_ifs with h
  · simp [h]
  · simp [h]

theorem ok_bind {α β : Type} (a : α) (f : α → Except Refused β) :
  (Except.ok a >>= f) = f a
  := rfl

/-! ### Types by name -/

def innerMapTypes : List (Str × Nat) :=
  [(str "hash", 1), (str "array", 2), (str "lru_hash", 9), (str "percpu_hash", 5),
    (str "percpu_array", 6), (str "lru_percpu_hash", 10)]

/-- The number of an inner map type, zero for a name that is not known. -/
def innerMapTypeFromName (name : Str) : Nat := (innerMapTypes.lookup name).getD 0

def progTypes : List (Str × Nat) :=
  [(str "socket_filter", 1), (str "kprobe", 2), (str "tracepoint", 5), (str "raw_tracepoint", 17),
    (str "xdp", 6), (str "perf_event", 7), (str "cgroup_skb", 8), (str "cgroup_sock", 9),
    (str "sched_cls", 3), (str "sched_act", 4), (str "sk_skb", 14), (str "sk_msg", 16),
    (str "tracing", 26), (str "lsm", 29)]

/-- The number of a program type, zero for a name that is not known. -/
def progTypeFromName (name : Str) : Nat := (progTypes.lookup name).getD 0

/-! ### The operands -/

def maxItems : Nat := 64
def maxMapFixups : Nat := 32
def maxProgTypeOverrides : Nat := 32
def maxVariantGroups : Nat := 16
def maxVariantsPerGroup : Nat := 6

/-- A name and a value with `=` between them, neither of them empty. -/
def cutSpec (message : String) (spec : Str) : Except Refused (Str × Str) :=
  match strchr 61 spec with
  | none => .error (.invalid (str message ++ spec ++ str "\n"))
  | some (name, value) =>
    if name = [] ∨ value = [] then .error (.invalid (str message ++ spec ++ str "\n"))
    else .ok (name, value)

/-- The fixups with one of the given name among them. -/
def claimFixup (fixups : List Fixup) (name : Str) : Except Refused (List Fixup) :=
  if name ∈ fixups.map Fixup.name then .ok fixups
  else if maxMapFixups ≤ fixups.length then
    .error (.invalid (str "too many map fixups: max " ++ decimal maxMapFixups ++ str "\n"))
  else .ok (fixups ++ [{ name := name }])

/-- The change of the fixup of a name. -/
def setFixup (opts : Tuning) (fixups : List Fixup) (name : Str) (change : Fixup → Fixup) : Tuning :=
  { opts with mapFixups := modifyFirst (fun fixup => fixup.name = name) change fixups }

def addMapFixup (opts : Tuning) (spec : Str) (innerRingbuf : Bool) : Except Refused Tuning := do
  let (name, value) ← cutSpec "invalid map fixup spec (want <map>=<value>): " spec
  refuse (68 ≤ name.length) (str "map fixup name too long: " ++ spec ++ str "\n")
  let fixups ← claimFixup opts.mapFixups name
  let (number, rest) := strtoul value
  if innerRingbuf then
    refuse (rest ≠ [] ∨ number = 0 ∨ 0xffffffff < number)
      (str "invalid inner ringbuf size: " ++ spec ++ str "\n")
    .ok (setFixup opts fixups name fun fx => { fx with innerRingbufBytes := UInt32.ofNat number })
  else
    refuse (value ≠ str "cpus" ∧ (rest ≠ [] ∨ number = 0 ∨ 0xffffffff < number))
      (str "invalid map max entries (want positive integer or \"cpus\"): " ++ spec ++ str "\n")
    .ok (setFixup opts fixups name fun fx => { fx with maxEntries := snprintf 16 value })

/-- One byte of the format of `sscanf`. -/
def scanByte (b : UInt8) : Str → Option Str
  | [] => none
  | c :: s => if c = b then some s else none

/-- The format `%31[^:]:%u:%u:%u`. -/
def scanInnerMap (s : Str) : Option (Str × UInt32 × UInt32 × UInt32) := do
  let typeName := (s.takeWhile (· ≠ 58)).take 31
  guard (typeName ≠ [])
  let rest ← scanByte 58 (s.drop typeName.length)
  let (keySize, rest) ← scanUInt rest
  let rest ← scanByte 58 rest
  let (valueSize, rest) ← scanUInt rest
  let rest ← scanByte 58 rest
  let (maxEntries, _) ← scanUInt rest
  some (typeName, keySize, valueSize, maxEntries)

def addInnerMapFixup (opts : Tuning) (spec : Str) : Except Refused Tuning := do
  let (name, value) ←
    cutSpec "invalid inner-map spec (want <map>=<type>:<key>:<value>:<entries>): " spec
  refuse (68 ≤ name.length) (str "map fixup name too long: " ++ spec ++ str "\n")
  match scanInnerMap value with
  | none =>
    .error (.invalid (str "invalid inner-map spec (want <type>:<key>:<value>:<entries>): " ++ spec
      ++ str "\n"))
  | some (typeName, keySize, valueSize, maxEntries) =>
    refuse (innerMapTypeFromName typeName = 0) (str "unknown inner-map type '" ++ typeName
      ++ str "' (want hash|array|lru_hash|percpu_hash|percpu_array|lru_percpu_hash): " ++ spec
      ++ str "\n")
    refuse (valueSize = 0 ∨ maxEntries = 0)
      (str "inner-map value_size and max_entries must be positive: " ++ spec ++ str "\n")
    let fixups ← claimFixup opts.mapFixups name
    .ok (setFixup opts fixups name fun fx =>
      { fx with
        innerMapType := innerMapTypeFromName typeName
        innerKeySize := keySize
        innerValueSize := valueSize
        innerMaxEntries := maxEntries })

def addProgTypeOverride (opts : Tuning) (spec : Str) : Except Refused Tuning := do
  let (selector, type) ← cutSpec "invalid prog-type spec (want <selector>=<type>): " spec
  refuse (128 ≤ selector.length) (str "prog-type selector too long: " ++ spec ++ str "\n")
  if h : progTypeFromName type = 0 then
    .error (.invalid (str "unknown program type '" ++ type ++ str "' in: " ++ spec ++ str "\n"))
  else
    refuse (maxProgTypeOverrides ≤ opts.progTypeOverrides.length)
      (str "too many prog-type overrides: max " ++ decimal maxProgTypeOverrides ++ str "\n")
    .ok { opts with
      progTypeOverrides := opts.progTypeOverrides ++ [⟨selector, progTypeFromName type, h⟩] }

/-- A variant of a group: a name and then, if anything, `trial` or the number of a helper. -/
def parseVariant (group entry : Str) : Except Refused Variant := do
  let name := entry.takeWhile (· ≠ 58)
  let value := (entry.dropWhile (· ≠ 58)).tail
  refuse (name = [] ∨ 128 ≤ name.length)
    (str "invalid variant program name in group " ++ group ++ str "\n")
  if value = [] then .ok { name }
  else if value = str "trial" then .ok { name, trialProbe := true }
  else
    let (helperID, rest) := strtoul value
    refuse (rest ≠ [] ∨ 0xffffffff < helperID)
      (str "invalid helper id for variant " ++ name ++ str " in group " ++ group ++ str "\n")
    .ok { name, helperID := UInt32.ofNat helperID }

/-- The loop over the entries of a group.  It ends before a last entry that is empty. -/
def parseVariants (group : Str) (variants : List Variant) : List Str → Except Refused (List Variant)
  | [] => .ok variants
  | entry :: rest =>
    if entry = [] ∧ rest = [] then .ok variants
    else do
      refuse (maxVariantsPerGroup ≤ variants.length) (str "too many variants in group " ++ group
        ++ str ": max " ++ decimal maxVariantsPerGroup ++ str "\n")
      let variant ← parseVariant group entry
      parseVariants group (variants ++ [variant]) rest

def addProgVariantGroup (opts : Tuning) (spec : Str) : Except Refused Tuning := do
  let (group, entries) ← cutSpec "invalid prog variants spec (want <group>=<prog>:<id>,...): " spec
  refuse (maxVariantGroups ≤ opts.variantGroups.length)
    (str "too many prog variant groups: max " ++ decimal maxVariantGroups ++ str "\n")
  refuse (68 ≤ group.length) (str "prog variant group name too long: " ++ spec ++ str "\n")
  let variants ← parseVariants group [] (entries.splitOn 44)
  refuse (variants = []) (str "prog variant group " ++ group ++ str " has no variants\n")
  .ok { opts with variantGroups := opts.variantGroups ++ [{ group, variants }] }

/-- The loop over a list of companions.  It ends before a last one that is empty. -/
def addProbeCompanions (opts : Tuning) : List Str → Except Refused Tuning
  | [] => .ok opts
  | companion :: rest =>
    if companion = [] ∧ rest = [] then .ok opts
    else do
      refuse (companion = [] ∨ 128 ≤ companion.length ∨ maxItems ≤ opts.probeCompanions.length)
        (str "invalid --probe-companions list\n")
      addProbeCompanions { opts with probeCompanions := opts.probeCompanions ++ [companion] } rest

/-! ### The arguments -/

structure Options where
  artifact : Option Str := none
  manifest : Option Str := none
  functionalPlan : Option Str := none
  out : Option Str := none
  logDir : Option Str := none
  attachMode : Str := str "best-effort"
  probeFeatures : Bool := true
  tuning : Tuning := {}
deriving DecidableEq

def parseBool (value : Str) : Option Bool :=
  if value ∈ [str "1", str "true", str "yes", str "on"] then some true
  else if value ∈ [str "0", str "false", str "no", str "off"] then some false
  else none

def usage (prog : Str) : Str :=
  str "Usage: " ++ prog ++ str (" --artifact <path> --out <result.json> [--manifest <path>] "
    ++ "[--functional-plan <path>] [--log-dir <dir>] [--attach-mode <mode>] "
    ++ "[--probe-features <bool>] [--set-map-max-entries <map>=<n|cpus>]... "
    ++ "[--set-map-inner-ringbuf <map>=<bytes>]... "
    ++ "[--set-map-inner-map <map>=<type>:<key>:<value>:<entries>]... "
    ++ "[--set-prog-type <program|section>=<type>]... "
    ++ "[--prog-variants <group>=<prog>:<helper_id|trial>,...]... "
    ++ "[--probe-companions <prog>,<prog>,...]\n")

/-- The options about the loader.  Another flag gives nothing. -/
def addTuning (opts : Tuning) (flag operand : Str) : Option (Except Refused Tuning) :=
  if flag = str "--set-map-max-entries" then some (addMapFixup opts operand false)
  else if flag = str "--set-map-inner-ringbuf" then some (addMapFixup opts operand true)
  else if flag = str "--set-map-inner-map" then some (addInnerMapFixup opts operand)
  else if flag = str "--set-prog-type" then some (addProgTypeOverride opts operand)
  else if flag = str "--prog-variants" then some (addProgVariantGroup opts operand)
  else if flag = str "--probe-companions" then
    some (addProbeCompanions opts (operand.splitOn 44))
  else none

/-- An option with its operand.  A flag that takes none gives nothing. -/
def setOption (opts : Options) (flag operand : Str) : Option (Except Refused Options) :=
  if flag = str "--artifact" then some (.ok { opts with artifact := some operand })
  else if flag = str "--manifest" then some (.ok { opts with manifest := some operand })
  else if flag = str "--functional-plan" then some (.ok { opts with functionalPlan := some operand })
  else if flag = str "--out" then some (.ok { opts with out := some operand })
  else if flag = str "--log-dir" then some (.ok { opts with logDir := some operand })
  else if flag = str "--attach-mode" then some (.ok { opts with attachMode := operand })
  else if flag = str "--probe-features" then
    match parseBool operand with
    | some probeFeatures => some (.ok { opts with probeFeatures })
    | none => some (.error (.invalid (str "invalid bool for --probe-features\n")))
  else (addTuning opts.tuning flag operand).map fun added => do
    let tuning ← added
    .ok { opts with tuning }

/-- The answer to an argument that is no option with an operand. -/
def otherArgument (prog flag : Str) : Refused :=
  if flag = str "-h" ∨ flag = str "--help" then .help (usage prog)
  else .invalid (str "unknown or incomplete argument: " ++ flag ++ str "\n")

def parseArgs (prog : Str) (opts : Options) : List Str → Except Refused Options
  | [] => do
    refuse (opts.artifact = none) (str "--artifact is required\n")
    refuse (opts.out = none) (str "--out is required\n")
    .ok opts
  | [flag] => .error (otherArgument prog flag)
  | flag :: operand :: rest =>
    match setOption opts flag operand with
    | none => .error (otherArgument prog flag)
    | some (.error e) => .error e
    | some (.ok opts) => parseArgs prog opts rest

/-! ### Reading back a fixup -/

theorem cutSpec_eq (message : String) {name value : Str} (hname : name ≠ []) (heq : 61 ∉ name)
    (hvalue : value ≠ []) :
  cutSpec message (name ++ str "=" ++ value) = .ok (name, value)
  := by
  have hspec : name ++ str "=" ++ value = name ++ 61 :: value := by
    rw [List.append_assoc]
    rfl
  rw [hspec, cutSpec, strchr_append_cons heq]
  simp [hname, hvalue]

/-- The options about the loader one after the other. -/
def addAll (opts : Tuning) (options : List (Str × Str)) : Except Refused Tuning :=
  options.foldlM (fun opts option => (addTuning opts option.1 option.2).getD (.ok opts)) opts

theorem addAll_append (opts t : Tuning) (options options' : List (Str × Str)) :
  addAll opts (options ++ options') = .ok t
    ↔ ∃ t', addAll opts options = .ok t' ∧ addAll t' options' = .ok t
  := by
  rw [addAll, List.foldlM_append, bind_eq_ok_iff]
  rfl

theorem addAll_cons (opts t : Tuning) {flag operand : Str} {options : List (Str × Str)}
    {added : Except Refused Tuning} (h : addTuning opts flag operand = some added) :
  addAll opts ((flag, operand) :: options) = .ok t
    ↔ ∃ t', added = .ok t' ∧ addAll t' options = .ok t
  := by
  rw [addAll, List.foldlM_cons, h, Option.getD_some, bind_eq_ok_iff]
  rfl

theorem addAll_single (opts : Tuning) (flag operand : Str) :
  addAll opts [(flag, operand)] = (addTuning opts flag operand).getD (.ok opts)
  := by
  rw [addAll, List.foldlM_cons]
  simp

theorem modifyFirst_concat {α : Type*} {p : α → Bool} (f : α → α) {l : List α} {a : α}
    (hl : ∀ x ∈ l, p x = false) (ha : p a = true) :
  modifyFirst p f (l ++ [a]) = l ++ [f a]
  := by
  induction l with
  | nil => simp [modifyFirst, ha]
  | cons x l ih =>
      rw [List.cons_append, modifyFirst, hl x List.mem_cons_self, ih fun y hy =>
        hl y (List.mem_cons_of_mem x hy)]
      rfl

/-- The known inner map types fit the buffer of `sscanf` and hold no colon. -/
theorem innerMapType_readable {type : Str} (htype : innerMapTypeFromName type ≠ 0) :
  type ≠ [] ∧ 58 ∉ type ∧ type.length ≤ 31
  := by
  have hall : ∀ known ∈ innerMapTypes, known.1 ≠ [] ∧ 58 ∉ known.1 ∧ known.1.length ≤ 31 := by
    decide
  rw [innerMapTypeFromName] at htype
  cases hlookup : innerMapTypes.lookup type with
  | none =>
      rw [hlookup] at htype
      contradiction
  | some number =>
      obtain ⟨before, after, hsplit, -⟩ := List.lookup_eq_some_iff.mp hlookup
      apply hall (type, number)
      rw [hsplit]
      simp

theorem scanInnerMap_eq {type : Str} (hne : type ≠ []) (hcolon : 58 ∉ type) (hlength : type.length ≤ 31)
    (keySize valueSize maxEntries : UInt32) :
  scanInnerMap (type ++ 58 :: (decimal keySize.toNat ++ 58 :: (decimal valueSize.toNat
      ++ 58 :: decimal maxEntries.toNat)))
    = some (type, keySize, valueSize, maxEntries)
  := by
  have hstop (s : Str) : ∀ b ∈ (58 :: s).head?, isDecimal b = false := by
    rintro b ⟨⟩
    rfl
  have hlast : scanUInt (decimal maxEntries.toNat) = some (maxEntries, []) := by
    have h := @scanUInt_decimal [] maxEntries (by simp)
    rwa [List.append_nil] at h
  rw [scanInnerMap]
  simp only [takeWhile_append_cons hcolon, List.take_of_length_le hlength, List.drop_left, scanByte,
    if_true, Option.bind_eq_bind, Option.bind_some, scanUInt_decimal _ (hstop _), hlast]
  simp [hne]

section Fixup

variable {opts : Tuning} {fixups : List Fixup} {entry : Option Fixup} {name : Str}
  (hopts : opts.mapFixups = fixups ++ entry.toList) (hfresh : name ∉ fixups.map Fixup.name)
  (hentry : ∀ e ∈ entry, e.name = name)

include hopts hfresh hentry

/-- The fixup of a name that stands last, if it is there, is changed; else it is put there. -/
theorem claim_set_ok_iff {change : Fixup → Fixup} {t : Tuning} :
  (claimFixup opts.mapFixups name >>= fun fixups => .ok (setFixup opts fixups name change)) = .ok t
    ↔ (entry = none → fixups.length < maxMapFixups)
      ∧ t = { opts with mapFixups := fixups ++ [change (entry.getD { name := name })] }
  := by
  have hother : ∀ e ∈ fixups, decide (e.name = name) = false := by
    intro e he
    rw [decide_eq_false_iff_not]
    rintro rfl
    exact hfresh (List.mem_map_of_mem he)
  rw [bind_eq_ok_iff, hopts]
  rcases entry with - | e
  · rw [Option.toList_none, List.append_nil, claimFixup, if_neg hfresh]
    simp only [refuse_if_eq_ok_iff, Except.ok.injEq, Nat.not_le, forall_const, Option.getD_none]
    constructor
    · rintro ⟨_, ⟨hroom, rfl⟩, rfl⟩
      exact ⟨hroom, by rw [setFixup, modifyFirst_concat change hother (by simp)]⟩
    · rintro ⟨hroom, rfl⟩
      exact ⟨_, ⟨hroom, rfl⟩, by rw [setFixup, modifyFirst_concat change hother (by simp)]⟩
  · have he : e.name = name := hentry e rfl
    have hmem : name ∈ (fixups ++ [e]).map Fixup.name := by
      simp [he]
    rw [Option.toList_some, claimFixup, if_pos hmem]
    simp only [Except.ok.injEq, reduceCtorEq, false_implies, true_and, Option.getD_some,
      exists_eq_left', setFixup]
    rw [modifyFirst_concat change hother (by simp [he])]
    exact eq_comm

end Fixup

section

variable {name : Str} (hname : name ≠ []) (heq : 61 ∉ name) (hlength : name.length < 68)

include hname heq hlength

/-- The number of entries is kept as far as it fits its buffer. -/
theorem addMapFixup_maxEntries (opts : Tuning) {value : Str} (hvalue : value ≠ [])
    (hentries : value = str "cpus" ∨ value.all isDecimal = true ∧ 0 < decimalValue value
      ∧ decimalValue value < 2 ^ 32) :
  addMapFixup opts (name ++ str "=" ++ value) false
    = (claimFixup opts.mapFixups name >>= fun fixups =>
      .ok (setFixup opts fixups name fun fx => { fx with maxEntries := snprintf 16 value }))
  := by
  have haccepted : ¬ (value ≠ str "cpus" ∧ ((strtoul value).2 ≠ [] ∨ (strtoul value).1 = 0
      ∨ 0xffffffff < (strtoul value).1)) := by
    rintro ⟨hcpus, hwrong⟩
    obtain ⟨hdigits, hpos, hlt⟩ := hentries.resolve_left hcpus
    have hread := @strtoul_digits value [] (by simpa using hdigits) hvalue (by omega) (by simp)
    rw [List.append_nil] at hread
    rw [hread] at hwrong
    simp only [ne_eq, not_true_eq_false, false_or] at hwrong
    omega
  rw [addMapFixup, cutSpec_eq _ hname heq hvalue]
  simp only [ok_bind, refuse, if_neg (Nat.not_le.mpr hlength), if_neg haccepted,
    Bool.false_eq_true, if_false]

theorem addMapFixup_innerRingbuf (opts : Tuning) {bytes : UInt32} (hbytes : bytes > 0) :
  addMapFixup opts (name ++ str "=" ++ Vm.uintText bytes) true
    = (claimFixup opts.mapFixups name >>= fun fixups =>
      .ok (setFixup opts fixups name fun fx => { fx with innerRingbufBytes := bytes }))
  := by
  have hpos : 0 < bytes.toNat := hbytes
  have hlt := bytes.toNat_lt
  have hread := @strtoul_decimal [] bytes.toNat (by omega) (by simp)
  rw [List.append_nil] at hread
  have haccepted : ¬ (([] : Str) ≠ [] ∨ bytes.toNat = 0 ∨ 0xffffffff < bytes.toNat) := by
    simp only [ne_eq, not_true_eq_false, false_or]
    omega
  rw [addMapFixup, Vm.uintText, cutSpec_eq _ hname heq (decimal_digits _).2]
  simp only [ok_bind, hread, refuse, if_neg (Nat.not_le.mpr hlength), if_neg haccepted, if_true,
    UInt32.ofNat_toNat]

theorem addInnerMapFixup_eq (opts : Tuning) {type : Str} (htype : innerMapTypeFromName type ≠ 0)
    (keySize : UInt32) {valueSize maxEntries : UInt32} (hvalue : valueSize ≠ 0)
    (hentries : maxEntries ≠ 0) :
  addInnerMapFixup opts (name ++ str "=" ++ type ++ str ":" ++ Vm.uintText keySize ++ str ":"
      ++ Vm.uintText valueSize ++ str ":" ++ Vm.uintText maxEntries)
    = (claimFixup opts.mapFixups name >>= fun fixups =>
      .ok (setFixup opts fixups name fun fx =>
        { fx with
          innerMapType := innerMapTypeFromName type
          innerKeySize := keySize
          innerValueSize := valueSize
          innerMaxEntries := maxEntries }))
  := by
  obtain ⟨hne, hcolon, hfits⟩ := innerMapType_readable htype
  have hspec : name ++ str "=" ++ type ++ str ":" ++ Vm.uintText keySize ++ str ":"
        ++ Vm.uintText valueSize ++ str ":" ++ Vm.uintText maxEntries
      = name ++ str "=" ++ (type ++ 58 :: (decimal keySize.toNat ++ 58 :: (decimal valueSize.toNat
        ++ 58 :: decimal maxEntries.toNat))) := by
    simp only [List.append_assoc]
    rfl
  rw [hspec, addInnerMapFixup, cutSpec_eq _ hname heq (by simp)]
  simp only [ok_bind, refuse, if_neg (Nat.not_le.mpr hlength), scanInnerMap_eq hne hcolon hfits,
    if_neg htype, hvalue, hentries, or_self, if_false]

end

/-- What is read of a fixup. -/
def readFixup (fixup : Vm.MapFixup) : Fixup where
  name := fixup.name
  maxEntries := snprintf 16 fixup.maxEntries
  innerRingbufBytes := fixup.innerRingbufBytes
  innerMapType := innerMapTypeFromName fixup.innerMapType
  innerKeySize := fixup.innerKeySize
  innerValueSize := fixup.innerValueSize
  innerMaxEntries := fixup.innerMaxEntries

/-- A fixup that sets something, to a value the parser takes. -/
structure Settable (fixup : Vm.MapFixup) : Prop where
  name_ne_nil : fixup.name ≠ []
  name_no_eq : 61 ∉ fixup.name
  name_fits : fixup.name.length < 68
  entries : fixup.maxEntries = [] ∨ fixup.maxEntries = str "cpus"
    ∨ fixup.maxEntries.all isDecimal = true ∧ 0 < decimalValue fixup.maxEntries
      ∧ decimalValue fixup.maxEntries < 2 ^ 32
  inner : fixup.innerMapType = [] ∧ fixup.innerKeySize = 0 ∧ fixup.innerValueSize = 0
      ∧ fixup.innerMaxEntries = 0
    ∨ innerMapTypeFromName fixup.innerMapType ≠ 0 ∧ fixup.innerValueSize ≠ 0
      ∧ fixup.innerMaxEntries ≠ 0
  sets : fixup.maxEntries ≠ [] ∨ fixup.innerRingbufBytes > 0 ∨ fixup.innerMapType ≠ []

/-- The options with one fixup more, once something of it was set. -/
def withEntry (opts : Tuning) (entry : Option Fixup) : Tuning :=
  { opts with mapFixups := opts.mapFixups ++ entry.toList }

/-- The entry after something of it was set, if that was asked for. -/
def setEntry (name : Str) (asked : Prop) [Decidable asked] (change : Fixup → Fixup)
    (entry : Option Fixup) : Option Fixup :=
  if asked then some (change (entry.getD { name := name })) else entry

section

variable {opts : Tuning} {entry : Option Fixup} {name : Str}

/-- An entry that is set for the first time takes a place of its own. -/
theorem addAll_if_ok_iff (hfresh : name ∉ opts.mapFixups.map Fixup.name)
    (hentry : ∀ e ∈ entry, e.name = name) {asked : Prop} [Decidable asked] {flag operand : Str}
    {change : Fixup → Fixup}
    (hadd : asked → ∀ opts, addTuning opts flag operand = some (claimFixup opts.mapFixups name
      >>= fun fixups => .ok (setFixup opts fixups name change))) {t : Tuning} :
  addAll (withEntry opts entry) (if asked then [(flag, operand)] else []) = .ok t
    ↔ (asked → entry = none → opts.mapFixups.length < maxMapFixups)
      ∧ t = withEntry opts (setEntry name asked change entry)
  := by
  rw [setEntry]
  by_cases hasked : asked
  · rw [if_pos hasked, if_pos hasked, addAll_single, hadd hasked, Option.getD_some,
      @claim_set_ok_iff (withEntry opts entry) opts.mapFixups entry name rfl hfresh hentry]
    simp only [hasked, true_implies]
    rfl
  · rw [if_neg hasked, if_neg hasked]
    simp only [hasked, false_implies, true_and]
    exact ⟨fun h => (Except.ok.inj h).symm, fun h => congrArg Except.ok h.symm⟩

theorem isSome_setEntry {asked : Prop} [Decidable asked] {change : Fixup → Fixup} :
  (setEntry name asked change entry).isSome ↔ asked ∨ entry.isSome
  := by
  rw [setEntry]
  by_cases hasked : asked
  · simp [hasked]
  · simp [hasked]

/-- A change that is not asked for and would change nothing may be made all the same. -/
theorem getD_setEntry {asked : Prop} [Decidable asked] {change : Fixup → Fixup}
    (h : ¬ asked → change (entry.getD { name := name }) = entry.getD { name := name }) :
  (setEntry name asked change entry).getD { name := name } = change (entry.getD { name := name })
  := by
  rw [setEntry]
  by_cases hasked : asked
  · rw [if_pos hasked, Option.getD_some]
  · rw [if_neg hasked, h hasked]

theorem eq_some_of_getD {α : Type*} {o : Option α} {a b : α} (hsome : o.isSome) (h : o.getD b = a) :
  o = some a
  := by
  rcases o with - | x
  · contradiction
  · exact congrArg some h

theorem name_entry {asked : Prop} [Decidable asked] {change : Fixup → Fixup}
    (hchange : ∀ fx, (change fx).name = fx.name) (hentry : ∀ e ∈ entry, e.name = name) :
  ∀ e ∈ setEntry name asked change entry, e.name = name
  := by
  rw [setEntry]
  by_cases hasked : asked
  · rw [if_pos hasked]
    rintro _ ⟨⟩
    rw [hchange]
    rcases entry with - | e
    · rfl
    · exact hentry e rfl
  · rwa [if_neg hasked]

end

/-- What has been set of a fixup in the end is what is read of it. -/
theorem entry_eq_readFixup {fixup : Vm.MapFixup}
    (hinner : fixup.innerMapType = [] ∧ fixup.innerKeySize = 0 ∧ fixup.innerValueSize = 0
        ∧ fixup.innerMaxEntries = 0
      ∨ innerMapTypeFromName fixup.innerMapType ≠ 0 ∧ fixup.innerValueSize ≠ 0
        ∧ fixup.innerMaxEntries ≠ 0)
    (hsets : fixup.maxEntries ≠ [] ∨ fixup.innerRingbufBytes > 0 ∨ fixup.innerMapType ≠ []) :
  setEntry fixup.name (fixup.innerMapType ≠ [])
      (fun fx => { fx with
        innerMapType := innerMapTypeFromName fixup.innerMapType
        innerKeySize := fixup.innerKeySize
        innerValueSize := fixup.innerValueSize
        innerMaxEntries := fixup.innerMaxEntries })
      (setEntry fixup.name (fixup.innerRingbufBytes > 0)
        (fun fx => { fx with innerRingbufBytes := fixup.innerRingbufBytes })
        (setEntry fixup.name (fixup.maxEntries ≠ [])
          (fun fx => { fx with maxEntries := snprintf 16 fixup.maxEntries }) none))
    = some (readFixup fixup)
  := by
  have hentries (h : ¬ fixup.maxEntries ≠ []) : snprintf 16 fixup.maxEntries = [] := by
    rw [not_not.mp h]
    rfl
  have hring (h : ¬ fixup.innerRingbufBytes > 0) : fixup.innerRingbufBytes = 0 := by
    by_contra hpos
    exact h (UInt32.pos_iff_ne_zero.mpr hpos)
  have hmap (h : ¬ fixup.innerMapType ≠ []) : innerMapTypeFromName fixup.innerMapType = 0
      ∧ fixup.innerKeySize = 0 ∧ fixup.innerValueSize = 0 ∧ fixup.innerMaxEntries = 0 := by
    rw [not_not.mp h] at hinner ⊢
    rcases hinner with ⟨-, hsizes⟩ | ⟨hknown, -⟩
    · exact ⟨rfl, hsizes⟩
    · exact absurd rfl hknown
  have hsized : (setEntry fixup.name (fixup.maxEntries ≠ [])
        (fun fx => { fx with maxEntries := snprintf 16 fixup.maxEntries }) none).getD
          { name := fixup.name }
      = { name := fixup.name, maxEntries := snprintf 16 fixup.maxEntries } := by
    apply getD_setEntry
    intro h
    rw [hentries h]
    rfl
  have hringed : (setEntry fixup.name (fixup.innerRingbufBytes > 0)
        (fun fx => { fx with innerRingbufBytes := fixup.innerRingbufBytes })
        (setEntry fixup.name (fixup.maxEntries ≠ [])
          (fun fx => { fx with maxEntries := snprintf 16 fixup.maxEntries }) none)).getD
          { name := fixup.name }
      = ⟨fixup.name, snprintf 16 fixup.maxEntries, fixup.innerRingbufBytes, 0, 0, 0, 0⟩ := by
    rw [getD_setEntry, hsized]
    intro h
    rw [hsized, hring h]
  apply eq_some_of_getD
  · rw [isSome_setEntry, isSome_setEntry, isSome_setEntry]
    tauto
  · rw [getD_setEntry, hringed]
    · rfl
    · intro h
      obtain ⟨htype, hkey, hvalue, hmax⟩ := hmap h
      rw [hringed, htype, hkey, hvalue, hmax]

/-- A fixup is read if there is room for one more. -/
theorem addAll_mapFixupOptions {opts : Tuning} {fixup : Vm.MapFixup} (h : Settable fixup)
    (hfresh : fixup.name ∉ opts.mapFixups.map Fixup.name) {t : Tuning} :
  addAll opts (Vm.mapFixupOptions fixup) = .ok t
    ↔ opts.mapFixups.length < maxMapFixups ∧ t = withEntry opts (some (readFixup fixup))
  := by
  obtain ⟨hname, heq, hfits, hentries, hinner, hsets⟩ := h
  have hnone : ∀ e ∈ (none : Option Fixup), e.name = fixup.name := by
    simp
  have hstart : opts = withEntry opts none := by
    rw [withEntry, Option.toList_none, List.append_nil]
  -- the entries, the ring buffer and the inner map are set in this order
  have hsize (t : Tuning) := @addAll_if_ok_iff opts none fixup.name hfresh hnone
    (fixup.maxEntries ≠ []) _ (str "--set-map-max-entries") _ _ (fun hset opts => congrArg some
      (addMapFixup_maxEntries hname heq hfits opts hset (hentries.resolve_left hset))) t
  have hsized := @name_entry none fixup.name (fixup.maxEntries ≠ []) _
    (fun fx => { fx with maxEntries := snprintf 16 fixup.maxEntries }) (fun _ => rfl) hnone
  have hring (t : Tuning) := @addAll_if_ok_iff opts _ fixup.name hfresh hsized
    (fixup.innerRingbufBytes > 0) _ (str "--set-map-inner-ringbuf") _ _ (fun hset opts =>
      congrArg some (addMapFixup_innerRingbuf hname heq hfits opts hset)) t
  have hringed := @name_entry _ fixup.name (fixup.innerRingbufBytes > 0) _
    (fun fx => { fx with innerRingbufBytes := fixup.innerRingbufBytes }) (fun _ => rfl) hsized
  have hmap (t : Tuning) := @addAll_if_ok_iff opts _ fixup.name hfresh hringed
    (fixup.innerMapType ≠ []) _ (str "--set-map-inner-map") _ _ (fun hset opts =>
      have hknown := hinner.resolve_left fun hunset => hset hunset.1
      congrArg some (addInnerMapFixup_eq hname heq hfits opts hknown.1 fixup.innerKeySize
        hknown.2.1 hknown.2.2)) t
  rw [Vm.mapFixupOptions, congrArg addAll hstart, addAll_append]
  simp only [addAll_append, hsize]
  constructor
  · rintro ⟨_, ⟨_, ⟨hroom, rfl⟩, hsecond⟩, hthird⟩
    obtain ⟨hroom', rfl⟩ := (hring _).mp hsecond
    obtain ⟨hroom'', rfl⟩ := (hmap _).mp hthird
    rw [entry_eq_readFixup hinner hsets]
    refine ⟨?_, rfl⟩
    by_cases hset : fixup.maxEntries ≠ []
    · exact hroom hset trivial
    by_cases hset' : fixup.innerRingbufBytes > 0
    · exact hroom' hset' (if_neg hset)
    · apply hroom'' ((hsets.resolve_left hset).resolve_left hset')
      rw [setEntry, if_neg hset', setEntry, if_neg hset]
  · rintro ⟨hroom, rfl⟩
    refine ⟨_, ⟨_, ⟨fun _ _ => hroom, rfl⟩, (hring _).mpr ⟨fun _ _ => hroom, rfl⟩⟩,
      (hmap _).mpr ⟨fun _ _ => hroom, ?_⟩⟩
    rw [entry_eq_readFixup hinner hsets]

theorem addAll_mapFixups {opts : Tuning} {fixups : List Vm.MapFixup}
    (h : ∀ fixup ∈ fixups, Settable fixup) (hnodup : (fixups.map Vm.MapFixup.name).Nodup)
    (hopts : opts.mapFixups = []) {t : Tuning} :
  addAll opts (fixups.flatMap Vm.mapFixupOptions) = .ok t
    ↔ fixups.length ≤ maxMapFixups ∧ t = { opts with mapFixups := fixups.map readFixup }
  := by
  have hfill := @fill_ok_iff Tuning Vm.MapFixup Fixup Refused
    (fun opts fixups => addAll opts (fixups.flatMap Vm.mapFixupOptions))
    (fun fixups => { opts with mapFixups := fixups }) readFixup maxMapFixups
    (fun read fixups => (∀ fixup ∈ fixups, Settable fixup)
      ∧ (read.map Fixup.name ++ fixups.map Vm.MapFixup.name).Nodup)
    (fun _ => True) (fun _ => rfl) ?_ ?_ fixups [] t ⟨h, hnodup⟩ (Nat.zero_le _)
  · simp only [implies_true, true_and, List.length_nil, Nat.zero_add, List.nil_append] at hfill
    rw [← hopts] at hfill
    exact hfill
  · rintro read fixup rest t ⟨hset, hnames⟩
    have hfresh : fixup.name ∉ read.map Fixup.name := by
      intro hmem
      exact (List.nodup_append.mp hnames).2.2 _ hmem _ List.mem_cons_self rfl
    have hone (t : Tuning) := @addAll_mapFixupOptions { opts with mapFixups := read } fixup
      (hset fixup List.mem_cons_self) hfresh t
    simp only [List.flatMap_cons, addAll_append, hone]
    constructor
    · rintro ⟨_, ⟨hroom, rfl⟩, hrest⟩
      exact ⟨trivial, hroom, hrest⟩
    · rintro ⟨-, hroom, hrest⟩
      exact ⟨_, ⟨hroom, rfl⟩, hrest⟩
  · rintro read fixup rest ⟨hset, hnames⟩
    refine ⟨fun other hother => hset other (List.mem_cons_of_mem fixup hother), ?_⟩
    rw [List.map_append, List.append_assoc]
    exact hnames

/-! ### Reading back overrides -/

/-- What is read of an override whose type is known. -/
def readOverride (ov : Vm.ProgTypeOverride) : TypeOverride :=
  if h : progTypeFromName ov.type = 0 then ⟨ov.selector, 1, by decide⟩
  else ⟨ov.selector, progTypeFromName ov.type, h⟩

theorem readOverride_of_known {ov : Vm.ProgTypeOverride} (h : progTypeFromName ov.type ≠ 0) :
  readOverride ov = ⟨ov.selector, progTypeFromName ov.type, h⟩
  := dif_neg h

/-- An override of a program that can be named, to a type that is known. -/
structure Overridable (ov : Vm.ProgTypeOverride) : Prop where
  selector_ne_nil : ov.selector ≠ []
  selector_no_eq : 61 ∉ ov.selector
  type_known : progTypeFromName ov.type ≠ 0

theorem addProgTypeOverride_ok_iff {opts : Tuning} {ov : Vm.ProgTypeOverride} (h : Overridable ov)
    {t : Tuning} :
  addProgTypeOverride opts (ov.selector ++ str "=" ++ ov.type) = .ok t
    ↔ ov.selector.length < 128 ∧ opts.progTypeOverrides.length < maxProgTypeOverrides
      ∧ t = { opts with progTypeOverrides := opts.progTypeOverrides ++ [readOverride ov] }
  := by
  have htype : ov.type ≠ [] := by
    intro hnil
    apply h.type_known
    rw [hnil]
    rfl
  rw [addProgTypeOverride, cutSpec_eq _ h.selector_ne_nil h.selector_no_eq htype, ok_bind,
    check_bind_eq_ok_iff, refuse_ok_iff, dif_neg h.type_known, check_bind_eq_ok_iff, refuse_ok_iff,
    Except.ok.injEq, readOverride_of_known h.type_known, Nat.not_le, Nat.not_le, eq_comm]

theorem addAll_progTypes {opts : Tuning} {overrides : List Vm.ProgTypeOverride}
    (h : ∀ ov ∈ overrides, Overridable ov) (hopts : opts.progTypeOverrides = []) {t : Tuning} :
  addAll opts (overrides.map fun ov => (str "--set-prog-type", ov.selector ++ str "=" ++ ov.type))
      = .ok t
    ↔ (∀ ov ∈ overrides, ov.selector.length < 128) ∧ overrides.length ≤ maxProgTypeOverrides
      ∧ t = { opts with progTypeOverrides := overrides.map readOverride }
  := by
  have hfill := @fill_ok_iff Tuning Vm.ProgTypeOverride TypeOverride Refused
    (fun opts overrides => addAll opts (overrides.map fun ov =>
      (str "--set-prog-type", ov.selector ++ str "=" ++ ov.type)))
    (fun overrides => { opts with progTypeOverrides := overrides }) readOverride
    maxProgTypeOverrides (fun _ overrides => ∀ ov ∈ overrides, Overridable ov)
    (fun ov => ov.selector.length < 128) (fun _ => rfl) ?_ ?_ overrides [] t h (Nat.zero_le _)
  · simp only [List.length_nil, Nat.zero_add, List.nil_append] at hfill
    rw [← hopts] at hfill
    exact hfill
  · intro read ov rest t hgood
    have hadd : addTuning { opts with progTypeOverrides := read } (str "--set-prog-type")
        (ov.selector ++ str "=" ++ ov.type) = some (addProgTypeOverride _ _) := rfl
    simp only [List.map_cons]
    simp only [addAll_cons _ _ hadd, addProgTypeOverride_ok_iff (hgood ov List.mem_cons_self)]
    constructor
    · rintro ⟨_, ⟨hfits, hroom, rfl⟩, hrest⟩
      exact ⟨hfits, hroom, hrest⟩
    · rintro ⟨hfits, hroom, hrest⟩
      exact ⟨_, ⟨hfits, hroom, rfl⟩, hrest⟩
  · intro read ov rest hgood other hother
    exact hgood other (List.mem_cons_of_mem ov hother)

/-! ### Reading back variants and companions -/

/-- What is read of a variant: of one that is to be tried no helper is read. -/
def readVariant (variant : Vm.ProgVariant) : Variant where
  name := variant.name
  helperID := if variant.trialProbe then 0 else variant.helperID
  trialProbe := variant.trialProbe

/-- A name that can stand in a list of names with values. -/
structure Listed (name : Str) : Prop where
  ne_nil : name ≠ []
  no_comma : 44 ∉ name
  no_colon : 58 ∉ name
  fits : name.length < 128

theorem parseVariant_eq (group : Str) {variant : Vm.ProgVariant} (h : Listed variant.name) :
  parseVariant group (Vm.variantOperand variant) = .ok (readVariant variant)
  := by
  have hname : ¬ (variant.name = [] ∨ 128 ≤ variant.name.length) := by
    rw [not_or]
    exact ⟨h.ne_nil, Nat.not_le.mpr h.fits⟩
  have hcut (value : Str) : variant.name ++ str ":" ++ value = variant.name ++ 58 :: value := by
    rw [List.append_assoc]
    rfl
  rw [Vm.variantOperand, readVariant]
  by_cases htrial : variant.trialProbe = true
  · have hentry : variant.name ++ str ":trial" = variant.name ++ 58 :: str "trial" := rfl
    rw [if_pos htrial, if_pos htrial, hentry, parseVariant, takeWhile_append_cons h.no_colon,
      dropWhile_append_cons h.no_colon, refuse, if_neg hname, ok_bind, List.tail_cons,
      if_neg (by decide), if_pos rfl, htrial]
  · have hread := @strtoul_decimal [] variant.helperID.toNat
      (lt_trans variant.helperID.toNat_lt (by decide)) (by simp)
    have hdigits := (decimal_digits variant.helperID.toNat)
    have hlt := variant.helperID.toNat_lt
    have hword : decimal variant.helperID.toNat ≠ str "trial" := by
      intro heq
      have := hdigits.1 116
      rw [heq] at this
      exact absurd (this (by decide)) (by decide)
    rw [List.append_nil] at hread
    rw [if_neg htrial, if_neg htrial, hcut, Vm.uintText, parseVariant,
      takeWhile_append_cons h.no_colon, dropWhile_append_cons h.no_colon, refuse, if_neg hname, ok_bind,
      List.tail_cons, if_neg hdigits.2, if_neg hword]
    simp only [hread, refuse]
    rw [if_neg (by simp; omega), ok_bind, UInt32.ofNat_toNat]
    simp only [Bool.not_eq_true] at htrial
    rw [htrial]

theorem variantOperand_ne_nil {variant : Vm.ProgVariant} (h : Listed variant.name) :
  Vm.variantOperand variant ≠ []
  := by
  rw [Vm.variantOperand]
  split_ifs
  · simp [h.ne_nil]
  · simp [h.ne_nil]

theorem parseVariants_ok_iff (group : Str) {variants : List Vm.ProgVariant}
    (h : ∀ variant ∈ variants, Listed variant.name) {read : List Variant} :
  parseVariants group [] (variants.map Vm.variantOperand) = .ok read
    ↔ variants.length ≤ maxVariantsPerGroup ∧ read = variants.map readVariant
  := by
  have hfill := @fill_ok_iff (List Variant) Vm.ProgVariant Variant Refused
    (fun read variants => parseVariants group read (variants.map Vm.variantOperand)) id readVariant
    maxVariantsPerGroup (fun _ variants => ∀ variant ∈ variants, Listed variant.name)
    (fun _ => True) (fun _ => rfl) ?_ ?_ variants [] read h (Nat.zero_le _)
  · simp only [implies_true, true_and, List.length_nil, Nat.zero_add, List.nil_append] at hfill
    exact hfill
  · intro read variant rest t hgood
    have hvariant := hgood variant List.mem_cons_self
    rw [List.map_cons, parseVariants, if_neg fun hend => variantOperand_ne_nil hvariant hend.1,
      check_bind_eq_ok_iff, refuse_ok_iff, parseVariant_eq group hvariant, ok_bind, Nat.not_le]
    simp
  · intro read variant rest hgood other hother
    exact hgood other (List.mem_cons_of_mem variant hother)

/-- What is read of a group. -/
def readGroup (group : Vm.ProgVariantGroup) : VariantGroup where
  group := group.group
  variants := group.variants.map readVariant

/-- A group that can be named and has variants that can. -/
structure Groupable (group : Vm.ProgVariantGroup) : Prop where
  name_ne_nil : group.group ≠ []
  name_no_eq : 61 ∉ group.group
  name_fits : group.group.length < 68
  variants_ne_nil : group.variants ≠ []
  variants : ∀ variant ∈ group.variants, Listed variant.name

theorem no_comma_variantOperand {variant : Vm.ProgVariant} (h : Listed variant.name) :
  44 ∉ Vm.variantOperand variant
  := by
  have hdigit : 44 ∉ decimal variant.helperID.toNat := by
    intro hmem
    exact absurd (isDecimal_of_mem_decimal hmem) (by decide)
  have htrial : (44 : UInt8) ∉ str ":trial" ∧ (44 : UInt8) ∉ str ":" := by
    decide
  rw [Vm.variantOperand, Vm.uintText]
  split_ifs
  · simp [h.no_comma, htrial.1]
  · simp [h.no_comma, htrial.2, hdigit]

/-- A list with commas between its items is split into them. -/
theorem splitOn_join_comma {items : List Str} (hne : items ≠ []) (h : ∀ item ∈ items, 44 ∉ item) :
  (join (str ",") items).splitOn 44 = items
  := List.splitOn_intercalate 44 h hne

theorem join_comma_ne_nil {items : List Str} (hne : items ≠ []) (h : ∀ item ∈ items, item ≠ []) :
  join (str ",") items ≠ []
  := by
  obtain ⟨item, rest, rfl⟩ := List.exists_cons_of_ne_nil hne
  have hitem := h item List.mem_cons_self
  rcases rest with - | ⟨other, rest⟩
  · simpa [join] using hitem
  · simp [join, hitem]

theorem addProgVariantGroup_ok_iff {opts : Tuning} {group : Vm.ProgVariantGroup} (h : Groupable group)
    {t : Tuning} :
  addProgVariantGroup opts (Vm.groupOperand group) = .ok t
    ↔ group.variants.length ≤ maxVariantsPerGroup ∧ opts.variantGroups.length < maxVariantGroups
      ∧ t = { opts with variantGroups := opts.variantGroups ++ [readGroup group] }
  := by
  have hne : group.variants.map Vm.variantOperand ≠ [] := by
    simp [h.variants_ne_nil]
  have hitems : ∀ item ∈ group.variants.map Vm.variantOperand, item ≠ [] ∧ 44 ∉ item := by
    intro item hitem
    obtain ⟨variant, hvariant, rfl⟩ := List.mem_map.mp hitem
    exact ⟨variantOperand_ne_nil (h.variants variant hvariant),
      no_comma_variantOperand (h.variants variant hvariant)⟩
  rw [addProgVariantGroup, Vm.groupOperand, cutSpec_eq _ h.name_ne_nil h.name_no_eq
    (join_comma_ne_nil hne fun item hitem => (hitems item hitem).1), ok_bind, check_bind_eq_ok_iff,
    check_bind_eq_ok_iff, refuse_ok_iff, refuse_ok_iff, bind_eq_ok_iff, Nat.not_le, Nat.not_le]
  simp only [splitOn_join_comma hne fun item hitem => (hitems item hitem).2, check_bind_eq_ok_iff,
    refuse_ok_iff, parseVariants_ok_iff group.group h.variants, Except.ok.injEq]
  constructor
  · rintro ⟨hroom, -, _, ⟨hfits, rfl⟩, -, rfl⟩
    exact ⟨hfits, hroom, rfl⟩
  · rintro ⟨hfits, hroom, rfl⟩
    refine ⟨hroom, h.name_fits, _, ⟨hfits, rfl⟩, ?_, rfl⟩
    simp [h.variants_ne_nil]

theorem addAll_progVariants {opts : Tuning} {groups : List Vm.ProgVariantGroup}
    (h : ∀ group ∈ groups, Groupable group) (hopts : opts.variantGroups = []) {t : Tuning} :
  addAll opts (groups.map fun group => (str "--prog-variants", Vm.groupOperand group)) = .ok t
    ↔ (∀ group ∈ groups, group.variants.length ≤ maxVariantsPerGroup)
      ∧ groups.length ≤ maxVariantGroups ∧ t = { opts with variantGroups := groups.map readGroup }
  := by
  have hfill := @fill_ok_iff Tuning Vm.ProgVariantGroup VariantGroup Refused
    (fun opts groups => addAll opts (groups.map fun group =>
      (str "--prog-variants", Vm.groupOperand group)))
    (fun groups => { opts with variantGroups := groups }) readGroup maxVariantGroups
    (fun _ groups => ∀ group ∈ groups, Groupable group)
    (fun group => group.variants.length ≤ maxVariantsPerGroup) (fun _ => rfl) ?_ ?_ groups [] t h
    (Nat.zero_le _)
  · simp only [List.length_nil, Nat.zero_add, List.nil_append] at hfill
    rw [← hopts] at hfill
    exact hfill
  · intro read group rest t hgood
    have hadd : addTuning { opts with variantGroups := read } (str "--prog-variants")
        (Vm.groupOperand group) = some (addProgVariantGroup _ _) := rfl
    simp only [List.map_cons]
    simp only [addAll_cons _ _ hadd, addProgVariantGroup_ok_iff (hgood group List.mem_cons_self)]
    constructor
    · rintro ⟨_, ⟨hfits, hroom, rfl⟩, hrest⟩
      exact ⟨hfits, hroom, hrest⟩
    · rintro ⟨hfits, hroom, hrest⟩
      exact ⟨_, ⟨hfits, hroom, rfl⟩, hrest⟩
  · intro read group rest hgood other hother
    exact hgood other (List.mem_cons_of_mem group hother)

theorem addProbeCompanions_ok_iff {opts : Tuning} {companions : List Str}
    (h : ∀ companion ∈ companions, Listed companion) (hopts : opts.probeCompanions = []) {t : Tuning} :
  addProbeCompanions opts companions = .ok t
    ↔ companions.length ≤ maxItems ∧ t = { opts with probeCompanions := companions }
  := by
  have hfill := @fill_ok_iff Tuning Str Str Refused addProbeCompanions
    (fun companions => { opts with probeCompanions := companions }) id maxItems
    (fun _ companions => ∀ companion ∈ companions, Listed companion) (fun _ => True)
    (fun _ => rfl) ?_ ?_ companions [] t h (Nat.zero_le _)
  · simp only [implies_true, true_and, List.length_nil, Nat.zero_add, List.nil_append,
      List.map_id] at hfill
    rw [← hopts] at hfill
    exact hfill
  · intro read companion rest t hgood
    have hcompanion := hgood companion List.mem_cons_self
    rw [addProbeCompanions, if_neg fun hend => hcompanion.ne_nil hend.1, check_bind_eq_ok_iff,
      refuse_ok_iff]
    simp [hcompanion.ne_nil, hcompanion.fits]
  · intro read companion rest hgood other hother
    exact hgood other (List.mem_cons_of_mem companion hother)

/-! ### Reading back the tuning -/

/-- A tuning all of which can be written as operands. -/
structure Writable (tuning : Vm.ValidatorTuning) : Prop where
  fixups : ∀ fixup ∈ tuning.mapFixups, Settable fixup
  fixups_nodup : (tuning.mapFixups.map Vm.MapFixup.name).Nodup
  overrides : ∀ ov ∈ tuning.progTypes, Overridable ov
  groups : ∀ group ∈ tuning.progVariants, Groupable group
  companions : ∀ companion ∈ tuning.probeCompanions, Listed companion

/-- There is room for a tuning in the arrays and buffers of the parser. -/
structure Room (tuning : Vm.ValidatorTuning) : Prop where
  fixups : tuning.mapFixups.length ≤ maxMapFixups
  selectors : ∀ ov ∈ tuning.progTypes, ov.selector.length < 128
  overrides : tuning.progTypes.length ≤ maxProgTypeOverrides
  variants : ∀ group ∈ tuning.progVariants, group.variants.length ≤ maxVariantsPerGroup
  groups : tuning.progVariants.length ≤ maxVariantGroups
  companions : tuning.probeCompanions.length ≤ maxItems

def readTuning (tuning : Vm.ValidatorTuning) : Tuning where
  mapFixups := tuning.mapFixups.map readFixup
  progTypeOverrides := tuning.progTypes.map readOverride
  variantGroups := tuning.progVariants.map readGroup
  probeCompanions := tuning.probeCompanions

theorem addAll_probeCompanions {opts : Tuning} {companions : List Str}
    (h : ∀ companion ∈ companions, Listed companion) (hopts : opts.probeCompanions = []) {t : Tuning} :
  addAll opts (if companions ≠ [] then
      [(str "--probe-companions", join (str ",") companions)] else []) = .ok t
    ↔ companions.length ≤ maxItems ∧ t = { opts with probeCompanions := companions }
  := by
  by_cases hne : companions ≠ []
  · have hadd : addTuning opts (str "--probe-companions") (join (str ",") companions)
        = some (addProbeCompanions opts _) := rfl
    rw [if_pos hne, addAll_single, hadd, Option.getD_some,
      splitOn_join_comma hne fun companion hcompanion => (h companion hcompanion).no_comma,
      addProbeCompanions_ok_iff h hopts]
  · rw [if_neg hne, not_not.mp hne, List.length_nil, ← hopts]
    exact ⟨fun ht => ⟨Nat.zero_le _, (Except.ok.inj ht).symm⟩, fun ht => congrArg _ ht.2.symm⟩

/-- The tuning is read exactly when there is room for it. -/
theorem addAll_tuningOptions {tuning : Vm.ValidatorTuning} (h : Writable tuning) {t : Tuning} :
  addAll {} (Vm.tuningOptions tuning) = .ok t ↔ Room tuning ∧ t = readTuning tuning
  := by
  simp only [Vm.tuningOptions, addAll_append]
  constructor
  · rintro ⟨_, ⟨_, ⟨_, hfixups, hoverrides⟩, hgroups⟩, hcompanions⟩
    obtain ⟨hfixupRoom, rfl⟩ := (addAll_mapFixups h.fixups h.fixups_nodup rfl).mp hfixups
    obtain ⟨hselectors, hoverrideRoom, rfl⟩ := (addAll_progTypes h.overrides rfl).mp hoverrides
    obtain ⟨hvariants, hgroupRoom, rfl⟩ := (addAll_progVariants h.groups rfl).mp hgroups
    obtain ⟨hcompanionRoom, rfl⟩ := (addAll_probeCompanions h.companions rfl).mp hcompanions
    exact ⟨⟨hfixupRoom, hselectors, hoverrideRoom, hvariants, hgroupRoom, hcompanionRoom⟩, rfl⟩
  · rintro ⟨hroom, rfl⟩
    exact ⟨_, ⟨_, ⟨_, (addAll_mapFixups h.fixups h.fixups_nodup rfl).mpr ⟨hroom.fixups, rfl⟩,
      (addAll_progTypes h.overrides rfl).mpr ⟨hroom.selectors, hroom.overrides, rfl⟩⟩,
      (addAll_progVariants h.groups rfl).mpr ⟨hroom.variants, hroom.groups, rfl⟩⟩,
      (addAll_probeCompanions h.companions rfl).mpr ⟨hroom.companions, rfl⟩⟩

/-! ### Reading back the arguments -/

/-- Options as they are passed, each flag before its operand. -/
def optionList (options : List (Str × Str)) : List Str :=
  options.flatMap fun option => [option.1, option.2]

def tuningFlags : List Str :=
  [str "--set-map-max-entries", str "--set-map-inner-ringbuf", str "--set-map-inner-map",
    str "--set-prog-type", str "--prog-variants", str "--probe-companions"]

theorem flag_mem_tuningFlags {tuning : Vm.ValidatorTuning} {option : Str × Str}
    (h : option ∈ Vm.tuningOptions tuning) :
  option.1 ∈ tuningFlags
  := by
  simp only [Vm.tuningOptions, Vm.mapFixupOptions, List.mem_append, List.mem_flatMap,
    List.mem_map] at h
  rw [tuningFlags]
  aesop

/-- A flag of the tuning changes nothing but the tuning. -/
theorem setOption_tuning (opts : Options) {flag : Str} (hflag : flag ∈ tuningFlags) (operand : Str) :
  ∃ added, addTuning opts.tuning flag operand = some added
    ∧ setOption opts flag operand = some (added >>= fun tuning => .ok { opts with tuning })
  := by
  simp only [tuningFlags, List.mem_cons, List.not_mem_nil, or_false] at hflag
  rcases hflag with rfl | rfl | rfl | rfl | rfl | rfl
  · exact ⟨_, rfl, rfl⟩
  · exact ⟨_, rfl, rfl⟩
  · exact ⟨_, rfl, rfl⟩
  · exact ⟨_, rfl, rfl⟩
  · exact ⟨_, rfl, rfl⟩
  · exact ⟨_, rfl, rfl⟩

theorem parseArgs_tuning (prog : Str) {opts : Options} {options : List (Str × Str)}
    (h : ∀ option ∈ options, option.1 ∈ tuningFlags) (rest : List Str) :
  parseArgs prog opts (optionList options ++ rest)
    = (addAll opts.tuning options >>= fun tuning => parseArgs prog { opts with tuning } rest)
  := by
  induction options generalizing opts with
  | nil => rfl
  | cons option options ih =>
      obtain ⟨added, hadd, hset⟩ :=
        setOption_tuning opts (h option List.mem_cons_self) option.2
      have hlist : optionList (option :: options) ++ rest
          = option.1 :: option.2 :: (optionList options ++ rest) := rfl
      rw [hlist, parseArgs, hset, addAll, List.foldlM_cons, hadd, Option.getD_some]
      rcases added with e | tuning
      · rfl
      · exact ih fun other hother => h other (List.mem_cons_of_mem option hother)

/-- The arguments of a run are accepted if its tuning is, and come back as they are. -/
theorem parseArgs_options (r : Vm.ValidatorRun) :
  parseArgs r.validator {} (optionList r.options)
    = (addAll {} (Vm.tuningOptions r.tuning) >>= fun tuning =>
      .ok {
        artifact := some r.artifact
        manifest := r.manifest
        functionalPlan := r.functionalPlan
        out := some r.result
        logDir := some r.logDir
        attachMode := r.mode
        tuning })
  := by
  have htuning (opts : Options) := @parseArgs_tuning r.validator opts (Vm.tuningOptions r.tuning)
    (fun option hoption => flag_mem_tuningFlags hoption) (optionList
      [(str "--attach-mode", r.mode), (str "--out", r.result), (str "--log-dir", r.logDir)])
  have hlist : optionList r.options = str "--artifact" :: r.artifact
      :: (optionList (r.manifest.toList.map (Prod.mk (str "--manifest")))
        ++ (optionList (r.functionalPlan.toList.map (Prod.mk (str "--functional-plan")))
        ++ (optionList (Vm.tuningOptions r.tuning) ++ optionList
          [(str "--attach-mode", r.mode), (str "--out", r.result), (str "--log-dir", r.logDir)]))) := by
    simp [Vm.ValidatorRun.options, optionList]
  rw [hlist]
  rcases r.manifest with - | path
  · rcases r.functionalPlan with - | plan
    · exact htuning { artifact := some r.artifact }
    · exact htuning { artifact := some r.artifact, functionalPlan := some plan }
  · rcases r.functionalPlan with - | plan
    · exact htuning { artifact := some r.artifact, manifest := some path }
    · exact htuning
        { artifact := some r.artifact, manifest := some path, functionalPlan := some plan }

end Validator
