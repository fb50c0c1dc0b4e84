import BpfCompat.Validator.Object

/-!
# Trial loads

Before the main load, programs are tried on their own in objects opened anew.  Of the four
steps of the main load's preparation a trial makes only the first, the map fixups.  It judges
the object the main load would see exactly when the other three have nothing to do
(`trial_prepares_iff`).
-/

namespace Validator

open Go

/-! ### The steps a trial skips -/

theorem autoSizeMap_eq_self_iff (map : BpfMap) :
  autoSizeMap map = map ↔ (map.maxEntries = 0 → mapTypeNeedsSize map.type = false)
  := by
  rw [autoSizeMap]
  by_cases hsize : map.maxEntries = 0
  · cases hneeds : mapTypeNeedsSize map.type with
    | false => simp [hsize]
    | true =>
        simp only [hsize, ne_eq, not_true_eq_false, if_false, Bool.not_true, Bool.false_eq_true,
          true_implies, Bool.true_eq_false, iff_false]
        intro h
        have hentries : autosizeDefaultMaxEntries = map.maxEntries := congrArg BpfMap.maxEntries h
        rw [hsize] at hentries
        exact absurd hentries (by decide)
  · simp [hsize]

theorem autoTypeProgram_eq_self_iff (prog : BpfProgram) :
  autoTypeProgram prog = prog
    ↔ (prog.type = unspecType → (str "socket").isPrefixOf prog.sectionName = false)
  := by
  rw [autoTypeProgram]
  by_cases htype : prog.type = unspecType
  · cases hsocket : (str "socket").isPrefixOf prog.sectionName with
    | false => simp [htype]
    | true =>
        simp only [htype, ne_eq, not_true_eq_false, if_false, if_true, true_implies,
          Bool.true_eq_false, iff_false]
        intro h
        have hnew : socketFilterType = prog.type := congrArg BpfProgram.type h
        rw [htype] at hnew
        exact absurd hnew (by decide)
  · simp [htype]

theorem map_eq_self_iff {α : Type*} (f : α → α) (l : List α) :
  l.map f = l ↔ ∀ a ∈ l, f a = a
  := by
  induction l with
  | nil => simp
  | cons a l ih => simp [ih]

/-! ### Changes to the first match -/

/-- Changing the first element a predicate selects changes one position. -/
theorem getElem?_modifyFirst {α : Type*} (p : α → Bool) (f : α → α) (l : List α) (i : Nat) :
  (modifyFirst p f l)[i]? = if l.findIdx? p = some i then l[i]?.map f else l[i]?
  := by
  induction l generalizing i with
  | nil => simp [modifyFirst]
  | cons a l ih =>
      rw [modifyFirst, List.findIdx?_cons]
      by_cases ha : p a = true
      · rw [if_pos ha, if_pos ha]
        rcases i with - | i
        · simp
        · simp
      · rw [if_neg ha, if_neg ha]
        rcases i with - | i
        · simp
        · rw [List.getElem?_cons_succ, ih, List.getElem?_cons_succ]
          simp

section Modify

variable {α β γ : Type*} (label : α → β) (sel : γ → β → Bool) (act : γ → α → α)

/-- The position a change is for.  Changes keep the labels they are directed by. -/
def target (l : List α) (g : γ) : Option Nat := (l.map label).findIdx? (sel g)

theorem getElem?_modifyFirst_target (l : List α) (g : γ) (i : Nat) :
  (modifyFirst (fun a => sel g (label a)) (act g) l)[i]?
    = if target label sel l g = some i then l[i]?.map (act g) else l[i]?
  := by
  rw [getElem?_modifyFirst, target, List.findIdx?_map]
  rfl

theorem target_modifyFirst (hkeep : ∀ g a, label (act g a) = label a) (l : List α) (g g' : γ) :
  target label sel (modifyFirst (fun a => sel g (label a)) (act g) l) g' = target label sel l g'
  := by
  have hlabels : (modifyFirst (fun a => sel g (label a)) (act g) l).map label = l.map label := by
    apply List.ext_getElem?
    intro i
    rw [List.getElem?_map, List.getElem?_map, getElem?_modifyFirst]
    split_ifs
    · rw [Option.map_map]
      exact congrFun (congrArg Option.map (funext fun a => hkeep g a)) _
    · rfl
  rw [target, target, hlabels]

/-- Changes one after the other, each at the first element it is directed to, seen from one
position. -/
theorem getElem?_modifyAll (hkeep : ∀ g a, label (act g a) = label a) (gs : List γ) (l : List α)
    (i : Nat) :
  (gs.foldl (fun l g => modifyFirst (fun a => sel g (label a)) (act g) l) l)[i]?
    = l[i]?.map fun a =>
        gs.foldl (fun a g => if target label sel l g = some i then act g a else a) a
  := by
  induction gs generalizing l with
  | nil =>
      change l[i]? = l[i]?.map fun a => a
      rw [Option.map_id']
  | cons g gs ih =>
      rw [List.foldl_cons, ih, getElem?_modifyFirst_target]
      simp only [target_modifyFirst label sel act hkeep, List.foldl_cons]
      by_cases htarget : target label sel l g = some i
      · simp only [htarget, if_true, Option.map_map]
        rfl
      · simp only [htarget, if_false]

end Modify

/-! ### Overrides -/

/-- What a program is selected by. -/
def BpfProgram.label (prog : BpfProgram) : Str × Str := (prog.name, prog.sectionName)

/-- The position of the program an override is for. -/
def overrideTarget (progs : List BpfProgram) (o : TypeOverride) : Option Nat :=
  target BpfProgram.label (fun o x => x.1 = o.selector || x.2 = o.selector) progs o

/-- The type a program at a position has after some overrides: that of the last one that is for
it, or its own. -/
def declaredType (progs : List BpfProgram) (overrides : List TypeOverride) (i own : Nat) : Nat :=
  overrides.foldl (fun t o => if overrideTarget progs o = some i then o.progType else t) own

theorem declaredType_cons (progs : List BpfProgram) (o : TypeOverride)
    (overrides : List TypeOverride) (i own : Nat) :
  declaredType progs (o :: overrides) i own
    = declaredType progs overrides i (if overrideTarget progs o = some i then o.progType else own)
  := rfl

theorem foldl_withType (overrides : List TypeOverride) (c : TypeOverride → Prop) [DecidablePred c]
    (p : BpfProgram) :
  overrides.foldl (fun p o => if c o then p.withType o.progType else p) p
    = p.withType (overrides.foldl (fun t o => if c o then o.progType else t) p.type)
  := by
  induction overrides generalizing p with
  | nil => rfl
  | cons o overrides ih =>
      rw [List.foldl_cons, ih, List.foldl_cons]
      split_ifs <;> rfl

theorem getElem?_overrideTypes (progs : List BpfProgram) (overrides : List TypeOverride) (i : Nat) :
  (overrideTypes progs overrides)[i]?
    = progs[i]?.map fun p => p.withType (declaredType progs overrides i p.type)
  := by
  have h := getElem?_modifyAll BpfProgram.label
    (fun (o : TypeOverride) x => x.1 = o.selector || x.2 = o.selector)
    (fun o p => p.withType o.progType) (fun _ _ => rfl) overrides progs i
  simp only [foldl_withType] at h
  exact h

/-! ### Fixups -/

/-- The position of the map a fixup is for. -/
def fixupTarget (maps : List BpfMap) (fixup : Fixup) : Option Nat :=
  target BpfMap.name (fun fixup name => name = fixup.name) maps fixup

/-- The number of entries a map at a position has after some fixups: what the last one that is for
it and gives a number asks for, or its own. -/
def declaredEntries (lib : Libbpf) (maps : List BpfMap) (fixups : List Fixup) (i : Nat)
    (own : UInt32) : UInt32 :=
  fixups.foldl
    (fun n fixup =>
      if fixupTarget maps fixup = some i ∧ fixup.maxEntries ≠ [] then fixupEntries lib fixup else n)
    own

/-- The parts of a map that are read later, of which a fixup changes the entries only. -/
def BpfMap.shape (map : BpfMap) : Str × Nat × UInt32 := (map.name, map.type, map.maxEntries)

theorem installInner_shape (lib : Libbpf) (map : BpfMap) (inner : InnerMap) :
  (∃ map', installInner lib map inner = .ok map' ∧ map'.shape = map.shape)
    ∨ installInner lib map inner = .error map
  := by
  rw [installInner]
  split_ifs
  · exact .inl ⟨_, rfl, rfl⟩
  · exact .inr rfl

theorem leftOver_bind_installInner (lib : Libbpf) (inner : InnerMap) (c : Prop) [Decidable c]
    (map : BpfMap) (next : BpfMap → Except BpfMap BpfMap)
    (hnext : ∀ map', (leftOver (next map')).shape = map'.shape) :
  (leftOver (if c then installInner lib map inner >>= next else .ok map >>= next)).shape = map.shape
  := by
  by_cases hc : c
  · rw [if_pos hc]
    rcases installInner_shape lib map inner with ⟨map', hok, hshape⟩ | herror
    · rw [hok, ← hshape]
      exact hnext map'
    · rw [herror]
      rfl
  · rw [if_neg hc]
    exact hnext map

/-- Whatever becomes of its prototypes, a fixup sets the entries it gives. -/
theorem shape_fixMap (lib : Libbpf) (fixup : Fixup) (map : BpfMap) :
  (leftOver (fixMap lib fixup map)).shape
    = (map.name, map.type,
        if fixup.maxEntries ≠ [] then fixupEntries lib fixup else map.maxEntries)
  := by
  rw [fixMap]
  apply (leftOver_bind_installInner lib ⟨ringbufType, 0, 0, fixup.innerRingbufBytes⟩
    (0 < fixup.innerRingbufBytes) _ _ ?_).trans
  · split_ifs <;> rfl
  · intro map'
    have h := leftOver_bind_installInner lib ⟨fixup.innerMapType, fixup.innerKeySize,
      fixup.innerValueSize, fixup.innerMaxEntries⟩ (0 < fixup.innerMapType) map' .ok
      (fun _ => rfl)
    rwa [show (Except.ok : BpfMap → Except BpfMap BpfMap) = pure from rfl, bind_pure, pure_bind] at h

theorem shape_fixups (lib : Libbpf) (fixups : List Fixup) (c : Fixup → Prop) [DecidablePred c]
    (map : BpfMap) :
  (fixups.foldl (fun map fixup => if c fixup then leftOver (fixMap lib fixup map) else map) map).shape
    = (map.name, map.type, fixups.foldl
        (fun n fixup => if c fixup ∧ fixup.maxEntries ≠ [] then fixupEntries lib fixup else n)
        map.maxEntries)
  := by
  induction fixups generalizing map with
  | nil => rfl
  | cons fixup fixups ih =>
      rw [List.foldl_cons, ih, List.foldl_cons]
      by_cases hc : c fixup
      · have hshape := shape_fixMap lib fixup map
        simp only [BpfMap.shape, Prod.mk.injEq] at hshape
        simp only [hc, if_true, true_and, hshape]
      · simp only [hc, if_false, false_and]

theorem getElem?_applyMapFixups (lib : Libbpf) (opts : Tuning) (obj : BpfObject) (i : Nat) :
  (applyMapFixups lib opts obj).maps[i]?.map BpfMap.shape
    = obj.maps[i]?.map fun map =>
        (map.name, map.type, declaredEntries lib obj.maps opts.mapFixups i map.maxEntries)
  := by
  have hname : ∀ (fixup : Fixup) (map : BpfMap),
      (leftOver (fixMap lib fixup map)).name = map.name :=
    fun fixup map => congrArg Prod.fst (shape_fixMap lib fixup map)
  have h := getElem?_modifyAll BpfMap.name (fun (fixup : Fixup) name => name = fixup.name)
    (fun fixup map => leftOver (fixMap lib fixup map)) hname opts.mapFixups obj.maps i
  have hmaps : (applyMapFixups lib opts obj).maps = opts.mapFixups.foldl
      (fun maps fixup => modifyFirst (fun map => map.name = fixup.name)
        (fun map => leftOver (fixMap lib fixup map)) maps) obj.maps := rfl
  rw [hmaps, h, Option.map_map]
  apply congrFun
  apply congrArg
  funext map
  exact shape_fixups lib opts.mapFixups _ map

/-! ### When a trial sees the object of the main load -/

/-- The steps a trial skips have nothing to do: the fixups leave no map without the entries its
type needs, the overrides leave every program the type it has, and no program without a type is
in a section of socket filters. -/
structure NothingSkipped (lib : Libbpf) (opts : Tuning) (obj : BpfObject) : Prop where
  sized : ∀ i map, obj.maps[i]? = some map →
    declaredEntries lib obj.maps opts.mapFixups i map.maxEntries = 0 →
    mapTypeNeedsSize map.type = false
  declared : ∀ i p, obj.programs[i]? = some p →
    declaredType obj.programs opts.progTypeOverrides i p.type = p.type
  inferred : ∀ p ∈ obj.programs, p.type = unspecType →
    (str "socket").isPrefixOf p.sectionName = false

theorem sizes_kept_iff (lib : Libbpf) (opts : Tuning) (obj : BpfObject) :
  (applyMapFixups lib opts obj).maps.map autoSizeMap = (applyMapFixups lib opts obj).maps
    ↔ ∀ i map, obj.maps[i]? = some map →
        declaredEntries lib obj.maps opts.mapFixups i map.maxEntries = 0 →
        mapTypeNeedsSize map.type = false
  := by
  have hat := getElem?_applyMapFixups lib opts obj
  rw [map_eq_self_iff]
  constructor
  · intro h i map hmap
    have hi := hat i
    rw [hmap, Option.map_some, Option.map_eq_some_iff] at hi
    obtain ⟨map', hmap', hshape⟩ := hi
    have hself := (autoSizeMap_eq_self_iff map').mp (h map' (List.mem_of_getElem? hmap'))
    simp only [BpfMap.shape, Prod.mk.injEq] at hshape
    rw [hshape.2.1, hshape.2.2] at hself
    exact hself
  · intro h map' hmem
    obtain ⟨i, hmap'⟩ := List.getElem?_of_mem hmem
    have hi := hat i
    rw [hmap', Option.map_some, eq_comm, Option.map_eq_some_iff] at hi
    obtain ⟨map, hmap, hshape⟩ := hi
    simp only [BpfMap.shape, Prod.mk.injEq] at hshape
    rw [autoSizeMap_eq_self_iff, ← hshape.2.1, ← hshape.2.2]
    exact h i map hmap

/-- No override makes a type unspecified. -/
theorem declaredType_ne_unspec {progs : List BpfProgram} {overrides : List TypeOverride}
    {i own : Nat} (h : declaredType progs overrides i own = unspecType) :
  own = unspecType
  := by
  induction overrides generalizing own with
  | nil => exact h
  | cons o overrides ih =>
      rw [declaredType_cons] at h
      have hown := ih h
      split_ifs at hown
      · exact absurd hown o.specified
      · exact hown

theorem types_kept_iff (progs : List BpfProgram) (overrides : List TypeOverride) :
  (overrideTypes progs overrides).map autoTypeProgram = progs
    ↔ (∀ i p, progs[i]? = some p → declaredType progs overrides i p.type = p.type)
      ∧ ∀ p ∈ progs, p.type = unspecType → (str "socket").isPrefixOf p.sectionName = false
  := by
  have hat : ∀ i, ((overrideTypes progs overrides).map autoTypeProgram)[i]?
      = progs[i]?.map fun p : BpfProgram =>
          autoTypeProgram (p.withType (declaredType progs overrides i p.type)) := by
    intro i
    rw [List.getElem?_map, getElem?_overrideTypes, Option.map_map]
    rfl
  constructor
  · intro h
    have heach : ∀ i p, progs[i]? = some p →
        autoTypeProgram (p.withType (declaredType progs overrides i p.type)) = p := by
      intro i p hp
      have hi := hat i
      rw [h, hp, Option.map_some, Option.some.injEq] at hi
      exact hi.symm
    have hdeclared : ∀ i p, progs[i]? = some p →
        declaredType progs overrides i p.type = p.type := by
      intro i p hp
      by_cases hunspec : declaredType progs overrides i p.type = unspecType
      · rw [hunspec, declaredType_ne_unspec hunspec]
      · have hkept := congrArg BpfProgram.type (heach i p hp)
        have htype : (p.withType (declaredType progs overrides i p.type)).type ≠ unspecType := hunspec
        rw [autoTypeProgram, if_pos htype] at hkept
        exact hkept
    refine ⟨hdeclared, ?_⟩
    intro p hp
    obtain ⟨i, hi⟩ := List.getElem?_of_mem hp
    have hself := heach i p hi
    rw [hdeclared i p hi] at hself
    exact (autoTypeProgram_eq_self_iff p).mp hself
  · rintro ⟨hdeclared, hinferred⟩
    apply List.ext_getElem?
    intro i
    rw [hat]
    rcases hp : progs[i]? with - | p
    · rfl
    · rw [Option.map_some, hdeclared i p hp]
      exact congrArg some ((autoTypeProgram_eq_self_iff p).mpr
        (hinferred p (List.mem_of_getElem? hp)))

theorem prepareObject_eq_iff (lib : Libbpf) (opts : Tuning) (obj : BpfObject) :
  applyMapFixups lib opts obj = prepareObject lib opts obj ↔ NothingSkipped lib opts obj
  := by
  have hmaps : (prepareObject lib opts obj).maps
      = (applyMapFixups lib opts obj).maps.map autoSizeMap := rfl
  have hprogs : (prepareObject lib opts obj).programs
      = (overrideTypes obj.programs opts.progTypeOverrides).map autoTypeProgram := rfl
  have hparts : applyMapFixups lib opts obj = prepareObject lib opts obj
      ↔ (applyMapFixups lib opts obj).maps.map autoSizeMap = (applyMapFixups lib opts obj).maps
        ∧ (overrideTypes obj.programs opts.progTypeOverrides).map autoTypeProgram = obj.programs := by
    rw [BpfObject.ext_iff, hmaps, hprogs, eq_comm (a := (applyMapFixups lib opts obj).maps),
      eq_comm (a := (applyMapFixups lib opts obj).programs)]
    rfl
  rw [hparts, sizes_kept_iff, types_kept_iff]
  constructor
  · rintro ⟨hsized, hdeclared, hinferred⟩
    exact ⟨hsized, hdeclared, hinferred⟩
  · rintro ⟨hsized, hdeclared, hinferred⟩
    exact ⟨hsized, hdeclared, hinferred⟩

/-- Whether the object, prepared as for the main load, loads with a variant and the companions
alone. -/
def VariantLoads (lib : Libbpf) (opts : Tuning) (obj : BpfObject) (name : Str) : Prop :=
  let prepared := prepareObject lib opts obj
  let progs := onlyCompanions opts prepared.programs
  ∃ i, findProgram progs name = some i
    ∧ lib.load { prepared with programs := setAutoload progs i true } = 0

/-- A trial prepares an object as the main load does.  A variant that the main path could load is
satisfied, and a program on its own is judged by what the object of the main load returns with it
alone. -/
structure TrialsAgree (lib : Libbpf) (opts : Tuning) (obj : BpfObject) : Prop where
  prepares : applyMapFixups lib opts obj = prepareObject lib opts obj
  satisfies : ∀ name, VariantLoads lib opts obj name → trialProbeVariant lib opts obj name = true
  isolates : ∀ i, trialLoadOneProgram lib opts obj i
    = lib.load { prepareObject lib opts obj with
        programs := onlyAt (prepareObject lib opts obj).programs i }

/-- Trials agree with the main load exactly when the steps they skip have nothing to do. -/
theorem trial_prepares_iff (lib : Libbpf) (opts : Tuning) (obj : BpfObject) :
  TrialsAgree lib opts obj ↔ NothingSkipped lib opts obj
  := by
  constructor
  · intro h
    exact (prepareObject_eq_iff lib opts obj).mp h.prepares
  · intro h
    have hsame := (prepareObject_eq_iff lib opts obj).mpr h
    refine ⟨hsame, ?_, ?_⟩
    · rintro name ⟨i, hfound, hloads⟩
      rw [trialProbeVariant, hsame]
      simp only [hfound, hloads, decide_true]
    · intro i
      rw [trialLoadOneProgram, hsame]

/-- A kernel that refuses maps without entries where their type needs some. -/
def strictKernel : Libbpf where
  numPossibleCpus := 4
  mapCreate := fun _ => true
  acceptsInner := fun _ _ => true
  probeHelper := fun _ => true
  load := fun obj =>
    if obj.maps.any fun map => map.maxEntries = 0 && mapTypeNeedsSize map.type then -22 else 0

/-- An object whose map gets its size from the loader, with a program that can be tried. -/
def runtimeSized : BpfObject where
  maps := [⟨str "events", 1, 0, none⟩]
  programs := [⟨str "iter", str "iter/task", 26, true⟩]

/-- The trial fails for want of a size that the main load would have set. -/
theorem trial_skips_sizes :
  ¬ ∀ (lib : Libbpf) (opts : Tuning) (obj : BpfObject), TrialsAgree lib opts obj
  := by
  intro h
  have hloads : VariantLoads strictKernel {} runtimeSized (str "iter") := ⟨0, by decide, by decide⟩
  exact absurd ((h strictKernel {} runtimeSized).satisfies (str "iter") hloads) (by decide)

end Validator
