import Mathlib.Data.List.Sort

/-!
# The first of a stable sort

A stable sort puts in front the first of the best members of a list.  Which member that is can be
said of the list as it was, without sorting it: no member before it ranks as high, and it ranks at
least as high as every member after it.  The list is cut in one place only by such a member
(`Leader.unique`).

The members may be restricted to those that satisfy a predicate, and ranked by what a function
makes of them.
-/

section

variable {α β : Type*}

/-- Of the members of `before ++ a :: after` that satisfy `p`, `a` is the first that ranks highest
in `r`. -/
structure Leader (p : α → Prop) (r : α → α → Prop) (before : List α) (a : α) (after : List α) :
    Prop where
  holds : p a
  before_lt : ∀ b ∈ before, p b → ¬ r b a
  le_after : ∀ b ∈ after, p b → r a b

variable {p : α → Prop} {r : α → α → Prop}

/-- A leader is not among the members before it. -/
theorem Leader.notMem_before [Std.Refl r] {before after : List α} {a : α}
    (h : Leader p r before a after) :
  a ∉ before
  := by
  intro ha
  apply h.before_lt a ha h.holds
  apply Std.Refl.refl

/-- A list is cut in one place only by its leader. -/
theorem Leader.unique {before after before' after' : List α} {a a' : α}
    (h : Leader p r before a after) (h' : Leader p r before' a' after')
    (heq : before ++ a :: after = before' ++ a' :: after') :
  before = before' ∧ a = a' ∧ after = after'
  := by
  rcases List.append_eq_append_iff.mp heq with ⟨m, hbefore, hafter⟩ | ⟨m, hbefore, hafter⟩
  · cases m with
    | nil =>
        rw [List.nil_append, List.cons.injEq] at hafter
        rw [List.append_nil] at hbefore
        exact ⟨hbefore.symm, hafter⟩
    | cons b m =>
        -- the first leader stands before the second
        rw [List.cons_append, List.cons.injEq] at hafter
        obtain ⟨rfl, rfl⟩ := hafter
        have hle : r a a' := by
          apply h.le_after a' _ h'.holds
          simp
        exact absurd hle (h'.before_lt a (by simp [hbefore]) h.holds)
  · cases m with
    | nil =>
        rw [List.nil_append, List.cons.injEq] at hafter
        rw [List.append_nil] at hbefore
        exact ⟨hbefore, hafter.1.symm, hafter.2.symm⟩
    | cons b m =>
        rw [List.cons_append, List.cons.injEq] at hafter
        obtain ⟨rfl, rfl⟩ := hafter
        have hle : r a' a := by
          apply h'.le_after a _ h.holds
          simp
        exact absurd hle (h.before_lt a' (by simp [hbefore]) h'.holds)

section

variable [DecidableRel r]

/-- What a stable sort puts in front leads the list. -/
theorem exists_leader_of_head?_insertionSort [Std.Total r] [IsTrans α r] {l : List α} {a : α}
    (h : (l.insertionSort r).head? = some a) :
  ∃ before after, l = before ++ a :: after ∧ Leader (fun _ => True) r before a after
  := by
  induction l generalizing a with
  | nil => cases h
  | cons b l ih =>
      rw [List.insertionSort_cons] at h
      cases hl : l.insertionSort r with
      | nil =>
          rw [hl, List.orderedInsert_nil, List.head?_cons, Option.some.injEq] at h
          have hnil : l = [] := by
            apply List.length_eq_zero_iff.mp
            rw [← List.length_insertionSort r, hl, List.length_nil]
          subst h hnil
          use [], []
          exact ⟨rfl, trivial, by simp, by simp⟩
      | cons c m =>
          rw [hl, List.orderedInsert_cons] at h
          obtain ⟨before, after, rfl, hlead⟩ := ih (by rw [hl]; rfl)
          by_cases hbc : r b c
          · rw [if_pos hbc, List.head?_cons, Option.some.injEq] at h
            subst h
            use [], before ++ c :: after
            refine ⟨rfl, trivial, by simp, ?_⟩
            intro d hd _
            rcases List.mem_append.mp hd with hd | hd
            · apply IsTrans.trans _ _ _ hbc
              apply (Std.Total.total c d).resolve_right
              exact hlead.before_lt d hd trivial
            · rcases List.mem_cons.mp hd with rfl | hd
              · exact hbc
              · exact IsTrans.trans _ _ _ hbc (hlead.le_after d hd trivial)
          · rw [if_neg hbc, List.head?_cons, Option.some.injEq] at h
            subst h
            use b :: before, after
            refine ⟨rfl, trivial, ?_, hlead.le_after⟩
            intro d hd _
            rcases List.mem_cons.mp hd with rfl | hd
            · exact hbc
            · exact hlead.before_lt d hd trivial

end

/-- A leader of the members that satisfy a predicate leads the whole list among them. -/
theorem exists_leader_of_filter {q : α → Bool} {l before after : List α} {a : α}
    (heq : l.filter q = before ++ a :: after) (h : Leader (fun _ => True) r before a after) :
  ∃ before' after', l = before' ++ a :: after' ∧ Leader (fun b => q b = true) r before' a after'
  := by
  obtain ⟨l₁, l₂, rfl, h₁, h₂⟩ := List.filter_eq_append_iff.mp heq
  obtain ⟨m₁, m₂, rfl, hm₁, ha, hm₂⟩ := List.filter_eq_cons_iff.mp h₂
  use l₁ ++ m₁, m₂
  refine ⟨by simp, ha, ?_, ?_⟩
  · intro b hb hq
    rcases List.mem_append.mp hb with hb | hb
    · apply h.before_lt b _ trivial
      rw [← h₁]
      exact List.mem_filter.mpr ⟨hb, hq⟩
    · exact absurd hq (hm₁ b hb)
  · intro b hb hq
    apply h.le_after b _ trivial
    rw [← hm₂]
    exact List.mem_filter.mpr ⟨hb, hq⟩

/-- What a stable sort of the images of some members puts in front is the image of the member that
leads the list among them. -/
theorem exists_leader_of_head?_map {s : β → β → Prop} [DecidableRel s] [Std.Total s] [IsTrans β s]
    {f : α → β} {q : α → Bool} {l : List α} {c : β}
    (h : (((l.filter q).map f).insertionSort s).head? = some c) :
  ∃ before a after, l = before ++ a :: after ∧ c = f a ∧
    Leader (fun b => q b = true) (fun b b' => s (f b) (f b')) before a after
  := by
  obtain ⟨cs, ds, heq, hlead⟩ := exists_leader_of_head?_insertionSort h
  obtain ⟨before, rest, hfilter, rfl, hrest⟩ := List.map_eq_append_iff.mp heq
  obtain ⟨a, after, rfl, rfl, rfl⟩ := List.map_eq_cons_iff.mp hrest
  have hlead' : Leader (fun _ => True) (fun b b' => s (f b) (f b')) before a after := by
    refine ⟨trivial, ?_, ?_⟩
    · intro b hb _
      exact hlead.before_lt (f b) (List.mem_map_of_mem hb) trivial
    · intro b hb _
      exact hlead.le_after (f b) (List.mem_map_of_mem hb) trivial
  obtain ⟨before', after', hl, hleads⟩ := exists_leader_of_filter hfilter hlead'
  exact ⟨before', a, after', hl, rfl, hleads⟩

end
