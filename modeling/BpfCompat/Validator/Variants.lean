import BpfCompat.Manifest
import BpfCompat.Validator.Object

/-!
# Choosing among program variants

In each group the first variant that is present and satisfied is chosen, and among the
group's programs it alone is left on.  Since no program stands in two groups, a group comes
out as it would on its own.
-/

namespace Validator

open Go

/-! ### Programs by name -/

theorem names_setAutoload (progs : List BpfProgram) (i : Nat) (autoload : Bool) :
  (setAutoload progs i autoload).map BpfProgram.name = progs.map BpfProgram.name
  := by
  apply List.ext_getElem?
  intro j
  rw [List.getElem?_map, List.getElem?_map, setAutoload, List.getElem?_modify]
  rcases progs[j]? with - | p
  · rfl
  · by_cases hij : i = j
    · simp [hij]
    · simp [hij]

theorem getElem?_setAutoload (progs : List BpfProgram) (i j : Nat) (autoload : Bool) :
  (setAutoload progs i autoload)[j]?
    = if i = j then progs[j]?.map fun p => { p with autoload := autoload } else progs[j]?
  := by
  rw [setAutoload, List.getElem?_modify]
  split_ifs with hij
  · rfl
  · simp

theorem findProgram_congr {progs progs' : List BpfProgram}
    (h : progs'.map BpfProgram.name = progs.map BpfProgram.name) (name : Str) :
  findProgram progs' name = findProgram progs name
  := by
  rw [findProgram, findProgram, h]

/-- Two names do not lead to one program. -/
theorem findProgram_inj {progs : List BpfProgram} {name name' : Str} {i : Nat}
    (h : findProgram progs name = some i) (h' : findProgram progs name' = some i) :
  name = name'
  := by
  rw [findProgram, List.idxOf?_eq_some_iff] at h h'
  obtain ⟨hi, hname, -⟩ := h
  obtain ⟨hi', hname', -⟩ := h'
  rw [← hname, ← hname']

section

variable (helper : UInt32 → Bool) (trial : Str → Bool)

/-- What a variant asks for is there. -/
def Variant.Satisfied (variant : Variant) : Prop :=
  (0 < variant.helperID → helper variant.helperID = true)
    ∧ (variant.trialProbe = true → trial variant.name = true)

instance (variant : Variant) : Decidable (variant.Satisfied helper trial) :=
  inferInstanceAs (Decidable (_ ∧ _))

/-- The variant is present in the object and satisfied. -/
def Eligible (progs : List BpfProgram) (variant : Variant) : Bool :=
  (findProgram progs variant.name).isSome && decide (variant.Satisfied helper trial)

/-- The first variant, in order, that is present and satisfied. -/
def firstEligible (progs : List BpfProgram) (variants : List Variant) : Option Nat :=
  variants.findIdx? (Eligible helper trial progs)

variable {helper trial}

/-- The state of the programs of some variants after the choice: each one that is present is on
exactly when it is the chosen one, and every other program is as it was. -/
structure Chosen (k : Nat) (variants : List Variant) (progs : List BpfProgram)
    (r : Option Nat × List BpfProgram) : Prop where
  names : r.2.map BpfProgram.name = progs.map BpfProgram.name
  switched : ∀ j v i, variants[j]? = some v → findProgram progs v.name = some i →
    r.2[i]? = progs[i]?.map fun p => { p with autoload := decide (r.1 = some (k + j)) }
  untouched : ∀ i, (∀ v ∈ variants, findProgram progs v.name ≠ some i) → r.2[i]? = progs[i]?

theorem firstEligible_cons (progs : List BpfProgram) (v : Variant) (rest : List Variant) :
  firstEligible helper trial progs (v :: rest)
    = if Eligible helper trial progs v then some 0
      else (firstEligible helper trial progs rest).map (· + 1)
  := by
  rw [firstEligible, List.findIdx?_cons]
  rfl

theorem firstEligible_congr {progs progs' : List BpfProgram}
    (h : progs'.map BpfProgram.name = progs.map BpfProgram.name) (variants : List Variant) :
  firstEligible helper trial progs' variants = firstEligible helper trial progs variants
  := by
  have heligible : Eligible helper trial progs' = Eligible helper trial progs := by
    funext v
    rw [Eligible, Eligible, findProgram_congr h]
  rw [firstEligible, firstEligible, heligible]

/-- A variant that is not present changes nothing. -/
theorem Chosen.skip {k : Nat} {v : Variant} {rest : List Variant} {progs : List BpfProgram}
    {r : Option Nat × List BpfProgram} (h : Chosen (k + 1) rest progs r)
    (hv : findProgram progs v.name = none) :
  Chosen k (v :: rest) progs r
  where
  names := h.names
  switched j w i hw hi := by
    rcases j with - | j
    · rw [List.getElem?_cons_zero, Option.some.injEq] at hw
      rw [← hw, hv] at hi
      contradiction
    · rw [List.getElem?_cons_succ] at hw
      rw [h.switched j w i hw hi, show k + 1 + j = k + (j + 1) from by omega]
  untouched i hi := h.untouched i fun w hw => hi w (List.mem_cons_of_mem v hw)

/-- A variant that is present is switched, and the others have no part in that. -/
theorem Chosen.step {k i : Nat} {v : Variant} {rest : List Variant} {progs : List BpfProgram}
    {r : Option Nat × List BpfProgram} {autoload : Bool}
    (h : Chosen (k + 1) rest (setAutoload progs i autoload) r)
    (hv : findProgram progs v.name = some i) (hfresh : v.name ∉ rest.map Variant.name)
    (hautoload : autoload = decide (r.1 = some k)) :
  Chosen k (v :: rest) progs r
  := by
  have hnames := names_setAutoload progs i autoload
  have hapart : ∀ w ∈ rest, findProgram progs w.name ≠ some i := by
    intro w hw hi
    apply hfresh
    rw [findProgram_inj hv hi]
    exact List.mem_map_of_mem hw
  constructor
  · rw [h.names, hnames]
  · intro j w i' hw hi'
    rcases j with - | j
    · rw [List.getElem?_cons_zero, Option.some.injEq] at hw
      rw [← hw, hv, Option.some.injEq] at hi'
      rw [← hi', h.untouched i fun w hw => by rw [findProgram_congr hnames]; exact hapart w hw,
        getElem?_setAutoload, if_pos rfl, hautoload]
      rfl
    · rw [List.getElem?_cons_succ] at hw
      have hne : i ≠ i' := by
        rintro rfl
        exact hapart w (List.mem_of_getElem? hw) hi'
      rw [h.switched j w i' hw (by rw [findProgram_congr hnames]; exact hi'), getElem?_setAutoload,
        if_neg hne, show k + 1 + j = k + (j + 1) from by omega]
  · intro i' hi'
    have hne : i ≠ i' := by
      rintro rfl
      exact hi' v List.mem_cons_self hv
    rw [h.untouched i' fun w hw => by
      rw [findProgram_congr hnames]; exact hi' w (List.mem_cons_of_mem v hw),
      getElem?_setAutoload, if_neg hne]

/-- The loop over the variants of a group. -/
theorem selectVariants_spec {k : Nat} {chosen : Option Nat} {progs : List BpfProgram}
    {variants : List Variant} (hchosen : ∀ c, chosen = some c → c < k)
    (hnodup : (variants.map Variant.name).Nodup) :
  (selectVariants helper trial k chosen progs variants).1
      = chosen.or ((firstEligible helper trial progs variants).map (k + ·))
    ∧ Chosen k variants progs (selectVariants helper trial k chosen progs variants)
  := by
  induction variants generalizing k chosen progs with
  | nil =>
      rw [selectVariants]
      refine ⟨by simp [firstEligible], rfl, ?_, fun _ _ => rfl⟩
      intro j v i hv
      simp at hv
  | cons v rest ih =>
      rw [List.map_cons, List.nodup_cons] at hnodup
      have hlater : ∀ c, chosen = some c → c < k + 1 := fun c hc => Nat.lt_succ_of_lt (hchosen c hc)
      have hshift : ∀ o : Option Nat, (o.map (· + 1)).map (k + ·) = o.map (k + 1 + ·) := by
        intro o
        rw [Option.map_map]
        congr 1
        funext m
        simp only [Function.comp_apply]
        omega
      rw [selectVariants, firstEligible_cons]
      cases hfind : findProgram progs v.name with
      | none =>
          obtain ⟨hfirst, hstate⟩ := @ih (k + 1) chosen progs hlater hnodup.2
          have hnot : Eligible helper trial progs v = false := by simp [Eligible, hfind]
          refine ⟨?_, hstate.skip hfind⟩
          simp only [hnot, Bool.false_eq_true, if_false, hshift]
          exact hfirst
      | some i =>
          by_cases hsatisfied : chosen = none ∧ (0 < v.helperID → helper v.helperID = true)
              ∧ (v.trialProbe = true → trial v.name = true)
          · -- nothing was chosen before, so this variant is, and stays so
            have hyes : Eligible helper trial progs v = true := by
              simp only [Eligible, hfind, Option.isSome_some, Bool.true_and, decide_eq_true_eq]
              exact hsatisfied.2
            obtain ⟨hfirst, hstate⟩ := @ih (k + 1) (some k) (setAutoload progs i true)
              (fun c hc => by rw [Option.some.injEq] at hc; omega) hnodup.2
            rw [Option.some_or] at hfirst
            simp only [if_pos hsatisfied]
            refine ⟨?_, hstate.step hfind hnodup.1 ?_⟩
            · rw [hfirst, hyes, if_pos rfl, hsatisfied.1]
              rfl
            · simp [hfirst]
          · obtain ⟨hfirst, hstate⟩ := @ih (k + 1) chosen (setAutoload progs i false) hlater hnodup.2
            rw [firstEligible_congr (names_setAutoload progs i false)] at hfirst
            simp only [if_neg hsatisfied]
            have hfirst' : (selectVariants helper trial (k + 1) chosen (setAutoload progs i false) rest).1
                = chosen.or ((if Eligible helper trial progs v = true then some 0
                    else (firstEligible helper trial progs rest).map (· + 1)).map (k + ·)) := by
              rcases chosen with - | c
              · have hnot : Eligible helper trial progs v = false := by
                  simp only [Eligible, hfind, Option.isSome_some, Bool.true_and,
                    decide_eq_false_iff_not]
                  exact fun h => hsatisfied ⟨rfl, h⟩
                simp only [hnot, Bool.false_eq_true, if_false, hshift]
                exact hfirst
              · rw [hfirst, Option.some_or, Option.some_or]
            refine ⟨hfirst', hstate.step hfind hnodup.1 ?_⟩
            -- what is chosen is an earlier or a later variant
            rw [hfirst]
            rcases chosen with - | c
            · rcases firstEligible helper trial progs rest with - | m
              · simp
              · symm
                simp only [Option.none_or, Option.map_some, Option.some.injEq, decide_eq_false_iff_not]
                omega
            · have hc := hchosen c rfl
              symm
              simp only [Option.some_or, Option.some.injEq, decide_eq_false_iff_not]
              omega

/-! ### All groups -/

/-- All variants, group by group. -/
def allVariants (groups : List VariantGroup) : List Variant := groups.flatMap VariantGroup.variants

/-- What the groups come to: in each one the first variant that is present and satisfied is
chosen, and it alone is on among the group's programs; other programs are as they were. -/
structure GroupsChosen (helper : UInt32 → Bool) (trial : Str → Bool) (groups : List VariantGroup)
    (progs : List BpfProgram) (r : List (Option Nat) × List BpfProgram) : Prop where
  chosen : r.1 = groups.map fun g => firstEligible helper trial progs g.variants
  names : r.2.map BpfProgram.name = progs.map BpfProgram.name
  switched : ∀ g ∈ groups, ∀ j v i, g.variants[j]? = some v → findProgram progs v.name = some i →
    r.2[i]? = progs[i]?.map fun p =>
      { p with autoload := decide (firstEligible helper trial progs g.variants = some j) }
  untouched : ∀ i, (∀ v ∈ allVariants groups, findProgram progs v.name ≠ some i) →
    r.2[i]? = progs[i]?

theorem applyProgVariants_spec {progs : List BpfProgram} {groups : List VariantGroup}
    (hnodup : ((allVariants groups).map Variant.name).Nodup) :
  GroupsChosen helper trial groups progs (applyProgVariants helper trial progs groups)
  := by
  induction groups generalizing progs with
  | nil =>
      refine ⟨rfl, rfl, ?_, fun _ _ => rfl⟩
      intro g hg
      contradiction
  | cons g groups ih =>
      rw [allVariants, List.flatMap_cons, List.map_append, List.nodup_append] at hnodup
      obtain ⟨hown, hrest, happart⟩ := hnodup
      obtain ⟨hfirst, hstate⟩ := @selectVariants_spec helper trial 0 none progs g.variants (by simp) hown
      rw [applyProgVariants]
      set first := selectVariants helper trial 0 none progs g.variants
      have hlater := @ih first.2 hrest
      have hchosen : first.1 = firstEligible helper trial progs g.variants := by
        rw [hfirst, Option.none_or]
        simp
      -- no program of this group is one of a later group
      have hother : ∀ w ∈ allVariants groups, ∀ v ∈ g.variants, ∀ i,
          findProgram progs v.name = some i → findProgram progs w.name ≠ some i := by
        intro w hw v hv i hi hi'
        exact happart _ (List.mem_map_of_mem hv) _ (List.mem_map_of_mem hw) (findProgram_inj hi hi')
      constructor
      · simp only [hlater.chosen, List.map_cons, hchosen, firstEligible_congr hstate.names]
      · simp only [hlater.names, hstate.names]
      · intro g' hg' j v i hv hi
        rw [List.mem_cons] at hg'
        rcases hg' with rfl | hg'
        · have hkept := hlater.untouched i fun w hw => by
            rw [findProgram_congr hstate.names]
            exact hother w hw v (List.mem_of_getElem? hv) i hi
          rw [hkept, hstate.switched j v i hv hi, hchosen, Nat.zero_add]
        · have hmem : v ∈ allVariants groups :=
            List.mem_flatMap.mpr ⟨g', hg', List.mem_of_getElem? hv⟩
          have hsame := hstate.untouched i fun w hw hi' => hother v hmem w hw i hi' hi
          rw [hlater.switched g' hg' j v i hv (by rw [findProgram_congr hstate.names]; exact hi),
            hsame, firstEligible_congr hstate.names]
      · intro i hi
        rw [hlater.untouched i fun w hw => by
          rw [findProgram_congr hstate.names]
          exact hi w (List.mem_append_right _ hw)]
        exact hstate.untouched i fun w hw => hi w (List.mem_append_left _ hw)

end

/-- The groups of a manifest as the validator holds them: the same variants in the same order,
whatever is recorded of their requirements. -/
def Carries (groups : List VariantGroup) (m : Manifest.LoaderTuning) : Prop :=
  groups.map (fun g => g.variants.map Variant.name)
    = m.programVariants.map fun g => g.programs.map Manifest.ProgramVariant.name

theorem names_of_carries {groups : List VariantGroup} {m : Manifest.LoaderTuning}
    (h : Carries groups m) :
  (allVariants groups).map Variant.name = Manifest.variantNames m.programVariants
  := by
  rw [allVariants, List.map_flatMap, Manifest.variantNames, List.flatMap_def, List.flatMap_def]
  exact congrArg List.flatten h

/-- For the groups of an accepted manifest, any object and any answers of the probes: in each
group the first variant that is present and satisfied is chosen, it alone is on among the group's
programs, other programs keep their setting, and the group comes out as it does on its own. -/
theorem variant_selection [UnicodeTables] (m : Manifest.LoaderTuning)
    (hm : Manifest.validateTuning m = .ok ()) (groups : List VariantGroup)
    (hgroups : Carries groups m) (helper : UInt32 → Bool) (trial : Str → Bool)
    (progs : List BpfProgram) :
  GroupsChosen helper trial groups progs (applyProgVariants helper trial progs groups)
    ∧ ∀ g ∈ groups,
      (applyProgVariants helper trial progs [g]).1 = [firstEligible helper trial progs g.variants]
        ∧ ∀ v ∈ g.variants, ∀ i, findProgram progs v.name = some i →
          (applyProgVariants helper trial progs groups).2[i]?
            = (applyProgVariants helper trial progs [g]).2[i]?
  := by
  have hnodup : ((allVariants groups).map Variant.name).Nodup := by
    rw [names_of_carries hgroups]
    apply Manifest.variantNames_nodup hm
  have hall := @applyProgVariants_spec helper trial progs groups hnodup
  refine ⟨hall, ?_⟩
  intro g hg
  have hown : ((allVariants [g]).map Variant.name).Nodup := by
    have hsub : (allVariants [g]).Sublist (allVariants groups) :=
      (List.singleton_sublist.mpr hg).flatMap VariantGroup.variants
    exact hnodup.sublist (hsub.map _)
  have halone := @applyProgVariants_spec helper trial progs [g] hown
  refine ⟨halone.chosen, ?_⟩
  intro v hv i hi
  obtain ⟨j, hj⟩ := List.getElem?_of_mem hv
  rw [hall.switched g hg j v i hj hi, halone.switched g (List.mem_singleton_self g) j v i hj hi]

section

attribute [local instance] asciiTables

/-- A program that needs a helper, and its fallback. -/
def loopManifest : Manifest.LoaderTuning where
  programVariants := [⟨str "recvmmsg", [⟨str "recvmmsg_x", str "bpf_loop", []⟩,
    ⟨str "recvmmsg_old_x", [], []⟩]⟩]

def loopGroups : List VariantGroup :=
  [⟨str "recvmmsg", [⟨str "recvmmsg_x", 181, false⟩, ⟨str "recvmmsg_old_x", 0, false⟩]⟩]

/-- On a kernel without the helper the fallback is chosen. -/
theorem variant_selection_fallback :
  GroupsChosen (fun _ => false) (fun _ => false) loopGroups
    [⟨str "recvmmsg_x", str "tp/a", 5, true⟩, ⟨str "recvmmsg_old_x", str "tp/a", 5, true⟩]
    ([some 1], [⟨str "recvmmsg_x", str "tp/a", 5, false⟩, ⟨str "recvmmsg_old_x", str "tp/a", 5, true⟩])
  := (variant_selection loopManifest (by rfl) loopGroups rfl (fun _ => false) (fun _ => false)
    [⟨str "recvmmsg_x", str "tp/a", 5, true⟩, ⟨str "recvmmsg_old_x", str "tp/a", 5, true⟩]).1

end

end Validator
