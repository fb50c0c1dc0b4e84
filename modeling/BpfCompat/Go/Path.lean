import BpfCompat.Go.Lines

/-!
# Paths

The part of `path/filepath` that the agent uses to place files, for paths with slashes.  Cleaning
is by the components of a path: empty ones and dots are dropped, and a double dot takes back the
component before it.

A cleaned path is determined by whether it begins at the root and by the components kept, and
these are again those of the cleaned path (`kept_clean`).  Double dots stand only in front of them
(`Cleaned`).  A path that begins with another one and a slash continues its components
(`prefix_of_render`).
-/

namespace Go

/-- The path begins at the root. -/
def isAbs (path : Str) : Bool := path.head? = some 47

/-- One component more, on the components kept so far, last one first.  At the root there is
nothing to take back; elsewhere double dots pile up in front. -/
def pushComponent (rooted : Bool) (kept : List Str) (component : Str) : List Str :=
  if component = [] ∨ component = str "." then kept
  else if component = str ".." then
    match kept with
    | [] => if rooted then [] else [component]
    | c :: cs => if c = str ".." then component :: kept else cs
  else component :: kept

/-- The shortest path equivalent to a path. -/
def clean (path : Str) : Str :=
  let kept := ((path.splitOn 47).foldl (pushComponent (isAbs path)) []).reverse
  if isAbs path then str "/" ++ join (str "/") kept
  else if kept = [] then str "."
  else join (str "/") kept

/-- Paths joined by slashes, the empty ones left out. -/
def joinPath (parts : List Str) : Str :=
  let parts := parts.filter (· ≠ [])
  if parts = [] then [] else clean (join (str "/") parts)

/-- The last component of a path. -/
def base (path : Str) : Str :=
  if path = [] then str "."
  else
    let path := (path.reverse.dropWhile (· = 47)).reverse
    if path = [] then str "/" else (path.reverse.takeWhile (· ≠ 47)).reverse

/-- The path without its last component. -/
def dir (path : Str) : Str := clean (path.reverse.dropWhile (· ≠ 47)).reverse

/-- The suffix of the last component that begins at its last dot. -/
def ext (path : Str) : Str :=
  let last := (path.reverse.takeWhile (· ≠ 47)).reverse
  if last.contains 46 then 46 :: (last.reverse.takeWhile (· ≠ 46)).reverse else []

/-- A relative path that stays below the directory it is taken from. -/
def isLocal (path : Str) : Bool :=
  !isAbs path && path ≠ [] && clean path ≠ str ".." && !(str "../").isPrefixOf (clean path)

/-- The absolute path a path denotes in a working directory. -/
def absPath (cwd path : Str) : Str :=
  if isAbs path then clean path else joinPath [cwd, path]

/-! ### The components of a cleaned path -/

/-- The components that cleaning keeps. -/
def kept (path : Str) : List Str :=
  ((path.splitOn 47).foldl (pushComponent (isAbs path)) []).reverse

/-- A path from its components. -/
def render (rooted : Bool) (components : List Str) : Str :=
  if rooted then str "/" ++ join (str "/") components
  else if components = [] then str "."
  else join (str "/") components

theorem clean_eq_render (path : Str) :
  clean path = render (isAbs path) (kept path)
  := rfl

/-- What a component that is kept looks like. -/
structure Component (c : Str) : Prop where
  nonempty : c ≠ []
  dot : c ≠ str "."
  slash : 47 ∉ c

/-- Components as they are kept, last one first: behind the names there are only double dots, and
none at the root. -/
structure Cleaned (rooted : Bool) (kept : List Str) : Prop where
  component : ∀ c ∈ kept, Component c
  dots : ∃ names k, kept = names ++ List.replicate k (str "..") ∧ str ".." ∉ names ∧
    (rooted = true → k = 0)

theorem cleaned_nil (rooted : Bool) :
  Cleaned rooted []
  := ⟨by simp, [], 0, rfl, by simp, fun _ => rfl⟩

/-- In front of a name there is anything; behind a double dot there are double dots. -/
theorem Cleaned.of_cons {rooted : Bool} {c : Str} {cs : List Str} (h : Cleaned rooted (c :: cs)) :
  Cleaned rooted cs
  := by
  obtain ⟨hcomponent, names, k, heq, hnames, hk⟩ := h
  rw [List.forall_mem_cons] at hcomponent
  refine ⟨hcomponent.2, ?_⟩
  rcases names with _ | ⟨name, names⟩
  · rcases k with _ | k
    · cases heq
    · rw [List.replicate_succ, List.nil_append] at heq
      obtain ⟨-, rfl⟩ := List.cons.inj heq
      exact ⟨[], k, rfl, by simp, fun hr => absurd (hk hr) (by simp)⟩
  · obtain ⟨-, rfl⟩ := List.cons.inj heq
    exact ⟨names, k, rfl, fun hmem => hnames (List.mem_cons_of_mem name hmem), hk⟩

theorem Cleaned.dots_of_cons {rooted : Bool} {cs : List Str} (h : Cleaned rooted (str ".." :: cs)) :
  rooted = false ∧ ∃ k, cs = List.replicate k (str "..")
  := by
  obtain ⟨-, names, k, heq, hnames, hk⟩ := h
  rcases names with _ | ⟨name, names⟩
  · rcases k with _ | k
    · cases heq
    · refine ⟨?_, k, ?_⟩
      · cases rooted with
        | false => rfl
        | true => cases hk rfl
      · rw [List.replicate_succ, List.nil_append] at heq
        exact (List.cons.inj heq).2
  · obtain ⟨rfl, -⟩ := List.cons.inj heq
    exact absurd List.mem_cons_self hnames

theorem Cleaned.cons_name {rooted : Bool} {c : Str} {cs : List Str} (h : Cleaned rooted cs)
    (hc : Component c) (hname : c ≠ str "..") :
  Cleaned rooted (c :: cs)
  := by
  obtain ⟨hcomponent, names, k, rfl, hnames, hk⟩ := h
  refine ⟨List.forall_mem_cons.mpr ⟨hc, hcomponent⟩, c :: names, k, rfl, ?_, hk⟩
  rw [List.mem_cons, not_or]
  exact ⟨hname.symm, hnames⟩

theorem component_dots :
  Component (str "..")
  := ⟨by decide, by decide, by decide⟩

theorem cleaned_replicate (k : Nat) :
  Cleaned false (List.replicate k (str ".."))
  := by
  refine ⟨?_, [], k, rfl, by simp, by simp⟩
  intro c hc
  rw [List.eq_of_mem_replicate hc]
  exact component_dots

/-- Behind a name there are no double dots. -/
theorem Cleaned.dots_notMem {rooted : Bool} {after before : List Str} {name : Str}
    (h : Cleaned rooted (after ++ name :: before)) (hname : name ≠ str "..") :
  str ".." ∉ after
  := by
  induction after with
  | nil => exact List.not_mem_nil
  | cons c after ih =>
      rw [List.mem_cons, not_or]
      refine ⟨?_, ih h.of_cons⟩
      rintro rfl
      obtain ⟨-, k, hk⟩ := h.dots_of_cons
      have hmem : name ∈ List.replicate k (str "..") := hk ▸ by simp
      exact hname (List.eq_of_mem_replicate hmem)

section

variable (rooted : Bool)

theorem pushComponent_skip {c : Str} (h : c = [] ∨ c = str ".") (cs : List Str) :
  pushComponent rooted cs c = cs
  := by
  rw [pushComponent.eq_def, if_pos h]

theorem pushComponent_name {c : Str} (hc : c ≠ []) (hdot : c ≠ str ".") (hdots : c ≠ str "..")
    (cs : List Str) :
  pushComponent rooted cs c = c :: cs
  := by
  rw [pushComponent.eq_def, if_neg (by simp [hc, hdot]), if_neg hdots]

theorem pushComponent_dots_nil :
  pushComponent rooted [] (str "..") = if rooted then [] else [str ".."]
  := by
  rw [pushComponent.eq_def, if_neg (by decide), if_pos rfl]

theorem pushComponent_dots_cons (c : Str) (cs : List Str) :
  pushComponent rooted (c :: cs) (str "..") =
    if c = str ".." then str ".." :: c :: cs else cs
  := by
  rw [pushComponent.eq_def, if_neg (by decide), if_pos rfl]

end

/-- One component more keeps the shape. -/
theorem Cleaned.push {rooted : Bool} {cs : List Str} (h : Cleaned rooted cs) {c : Str} (hc : 47 ∉ c) :
  Cleaned rooted (pushComponent rooted cs c)
  := by
  by_cases hskip : c = [] ∨ c = str "."
  · rw [pushComponent_skip rooted hskip]
    exact h
  · rw [not_or] at hskip
    by_cases hdots : c = str ".."
    · subst hdots
      cases cs with
      | nil =>
          rw [pushComponent_dots_nil]
          cases rooted with
          | true => exact h
          | false => exact cleaned_replicate 1
      | cons c cs =>
          rw [pushComponent_dots_cons]
          split_ifs with hc'
          · subst hc'
            obtain ⟨rfl, k, rfl⟩ := h.dots_of_cons
            exact cleaned_replicate (k + 2)
          · exact h.of_cons
    · rw [pushComponent_name rooted hskip.1 hskip.2 hdots]
      exact h.cons_name ⟨hskip.1, hskip.2, hc⟩ hdots

theorem Cleaned.foldl {rooted : Bool} {cs : List Str} (h : Cleaned rooted cs) {parts : List Str}
    (hparts : ∀ part ∈ parts, 47 ∉ part) :
  Cleaned rooted (parts.foldl (pushComponent rooted) cs)
  := by
  induction parts generalizing cs with
  | nil => exact h
  | cons part parts ih =>
      rw [List.forall_mem_cons] at hparts
      apply ih (h.push hparts.1) hparts.2

theorem cleaned_kept (path : Str) :
  Cleaned (isAbs path) (kept path).reverse
  := by
  rw [kept, List.reverse_reverse]
  exact (cleaned_nil _).foldl fun _ => notMem_of_mem_splitOn

/-- A component of a cleaned path is kept where it stands. -/
theorem Cleaned.push_self {rooted : Bool} {c : Str} {cs : List Str} (h : Cleaned rooted (c :: cs)) :
  pushComponent rooted cs c = c :: cs
  := by
  have hc := h.component c List.mem_cons_self
  by_cases hdots : c = str ".."
  · subst hdots
    obtain ⟨rfl, k, rfl⟩ := h.dots_of_cons
    cases k with
    | zero => exact pushComponent_dots_nil false
    | succ k =>
        rw [List.replicate_succ, pushComponent_dots_cons, if_pos rfl]
  · exact pushComponent_name rooted hc.nonempty hc.dot hdots cs

/-- The components of a cleaned path are kept as they are. -/
theorem Cleaned.foldl_reverse {rooted : Bool} {cs : List Str} (h : Cleaned rooted cs) :
  cs.reverse.foldl (pushComponent rooted) [] = cs
  := by
  induction cs with
  | nil => rfl
  | cons c cs ih =>
      rw [List.reverse_cons, List.foldl_append, ih h.of_cons]
      exact h.push_self

theorem str_slash :
  str "/" = [47]
  := rfl

theorem join_eq_intercalate (parts : List Str) :
  join (str "/") parts = [47].intercalate parts
  := rfl

theorem join_cons_cons (c c' : Str) (cs : List Str) :
  join (str "/") (c :: c' :: cs) = c ++ 47 :: join (str "/") (c' :: cs)
  := by
  simp [join, str_slash]

/-- A path split at its slashes. -/
theorem splitOn_join {cs : List Str} (hcs : cs ≠ []) (h : ∀ c ∈ cs, 47 ∉ c) :
  (join (str "/") cs).splitOn 47 = cs
  := by
  rw [join_eq_intercalate, List.splitOn_intercalate 47 h hcs]

theorem isAbs_join {cs : List Str} (h : ∀ c ∈ cs, Component c) :
  isAbs (join (str "/") cs) = false
  := by
  rcases cs with _ | ⟨c, cs⟩
  · rfl
  · have hc := h c List.mem_cons_self
    obtain ⟨b, rest, rfl⟩ := List.exists_cons_of_ne_nil hc.nonempty
    have hb : b ≠ 47 := fun hb => hc.slash (hb ▸ List.mem_cons_self)
    rcases cs with _ | ⟨c', cs⟩
    · simp [isAbs, join, hb]
    · rw [join_cons_cons]
      simp [isAbs, hb]

theorem isAbs_render {rooted : Bool} {cs : List Str} (h : ∀ c ∈ cs, Component c) :
  isAbs (render rooted cs) = rooted
  := by
  rw [render]
  split_ifs with hrooted hnil
  · rw [hrooted]
    rfl
  · rw [Bool.not_eq_true] at hrooted
    rw [hrooted]
    rfl
  · rw [Bool.not_eq_true] at hrooted
    rw [isAbs_join h, hrooted]

theorem splitOn_slash_cons (s : Str) :
  (47 :: s).splitOn 47 = [] :: s.splitOn 47
  := by
  rw [List.splitOn_cons_eq_if_modifyHead, if_pos (by decide)]

/-- The components of a path put together from components are these components. -/
theorem kept_render {rooted : Bool} {cs : List Str} (h : Cleaned rooted cs.reverse) :
  kept (render rooted cs) = cs
  := by
  have hcomponent : ∀ c ∈ cs, Component c := fun c hc => h.component c (List.mem_reverse.mpr hc)
  have hslash : ∀ c ∈ cs, 47 ∉ c := fun c hc => (hcomponent c hc).slash
  have hfold : cs.foldl (pushComponent rooted) [] = cs.reverse := by
    have hreverse := h.foldl_reverse
    rwa [List.reverse_reverse] at hreverse
  rw [kept, isAbs_render hcomponent]
  have hparts : ((render rooted cs).splitOn 47).foldl (pushComponent rooted) [] = cs.reverse := by
    rw [render]
    split_ifs with hrooted hnil
    · have hstr : str "/" ++ join (str "/") cs = 47 :: join (str "/") cs := rfl
      rw [hstr, splitOn_slash_cons, List.foldl_cons, pushComponent_skip rooted (.inl rfl)]
      rcases cs with _ | ⟨c, cs⟩
      · rw [join, List.intersperse_nil, List.flatten_nil, List.splitOn_nil, List.foldl_cons,
          pushComponent_skip rooted (.inl rfl), List.foldl_nil, List.reverse_nil]
      · rw [splitOn_join (List.cons_ne_nil c cs) hslash, hfold]
    · subst hnil
      rw [List.reverse_nil]
      cases rooted with
      | true => rfl
      | false => rfl
    · rw [splitOn_join hnil hslash, hfold]
  rw [hparts, List.reverse_reverse]

theorem component_of_mem_kept {path c : Str} (h : c ∈ kept path) :
  Component c
  := (cleaned_kept path).component c (List.mem_reverse.mpr h)

theorem kept_clean (path : Str) :
  kept (clean path) = kept path
  := by
  rw [clean_eq_render, kept_render (cleaned_kept path)]

theorem isAbs_clean (path : Str) :
  isAbs (clean path) = isAbs path
  := by
  rw [clean_eq_render, isAbs_render fun _ => component_of_mem_kept]

theorem clean_clean (path : Str) :
  clean (clean path) = clean path
  := by
  rw [clean_eq_render (clean path), isAbs_clean, kept_clean, ← clean_eq_render]

/-- Appending to a path appends to its components. -/
theorem kept_append {path : Str} (hpath : path ≠ []) (rest : Str) :
  isAbs (path ++ 47 :: rest) = isAbs path ∧
    kept (path ++ 47 :: rest) =
      ((rest.splitOn 47).foldl (pushComponent (isAbs path)) (kept path).reverse).reverse
  := by
  have habs : isAbs (path ++ 47 :: rest) = isAbs path := by
    rw [isAbs, isAbs, List.head?_append_of_ne_nil path hpath]
  refine ⟨habs, ?_⟩
  rw [kept, habs, List.splitOn_append_cons_self, List.foldl_append, kept, List.reverse_reverse]

/-- A component more at the end. -/
theorem join_concat {cs : List Str} (hcs : cs ≠ []) (last : Str) :
  join (str "/") (cs ++ [last]) = join (str "/") cs ++ 47 :: last
  := by
  induction cs with
  | nil => exact absurd rfl hcs
  | cons c cs ih =>
      rcases cs with _ | ⟨c', cs⟩
      · simp [join, str_slash]
      · rw [List.cons_append, List.cons_append, join_cons_cons, join_cons_cons, List.append_assoc,
          List.cons_append, ← ih (List.cons_ne_nil c' cs)]
        rfl

/-- Two texts that begin with a component and a slash, one of them with the other. -/
theorem prefix_of_slash {c c' s s' : Str} (hc : 47 ∉ c) (hc' : 47 ∉ c')
    (h : c ++ 47 :: s <+: c' ++ 47 :: s') :
  c = c' ∧ s <+: s'
  := by
  induction c generalizing c' with
  | nil =>
      rcases c' with _ | ⟨b, c'⟩
      · simpa using h
      · obtain ⟨rfl, -⟩ := List.cons_prefix_cons.mp h
        exact absurd List.mem_cons_self hc'
  | cons b c ih =>
      rcases c' with _ | ⟨b', c'⟩
      · obtain ⟨rfl, -⟩ := List.cons_prefix_cons.mp h
        exact absurd List.mem_cons_self hc
      · obtain ⟨rfl, htail⟩ := List.cons_prefix_cons.mp h
        rw [List.mem_cons, not_or] at hc hc'
        obtain ⟨rfl, hs⟩ := ih hc.2 hc'.2 htail
        exact ⟨rfl, hs⟩

theorem join_cons_slash (c : Str) (cs : List Str) :
  join (str "/") (c :: cs ++ [[]]) = c ++ 47 :: join (str "/") (cs ++ [[]])
  := by
  obtain ⟨d, ds, hd⟩ := List.exists_cons_of_ne_nil (List.append_ne_nil_of_right_ne_nil cs
    (List.cons_ne_nil ([] : Str) []))
  rw [List.cons_append, hd, join_cons_cons]

theorem prefix_of_join {cs cs' : List Str} (h : ∀ c ∈ cs, Component c) (h' : ∀ c ∈ cs', Component c)
    (hpre : join (str "/") (cs ++ [[]]) <+: join (str "/") (cs' ++ [[]])) :
  cs <+: cs'
  := by
  induction cs generalizing cs' with
  | nil => exact List.nil_prefix
  | cons c cs ih =>
      rw [List.forall_mem_cons] at h
      rcases cs' with _ | ⟨c', cs'⟩
      · rw [join_cons_slash] at hpre
        have hnil := List.prefix_nil.mp hpre
        simp at hnil
      · rw [List.forall_mem_cons] at h'
        rw [join_cons_slash, join_cons_slash] at hpre
        obtain ⟨rfl, hrest⟩ := prefix_of_slash h.1.slash h'.1.slash hpre
        rw [List.prefix_cons_inj]
        exact ih h.2 h'.2 hrest

theorem render_slash (rooted : Bool) {cs : List Str} (hcs : cs ≠ []) :
  render rooted cs ++ [47] = (if rooted then [47] else []) ++ join (str "/") (cs ++ [[]])
  := by
  rw [render, join_concat hcs, if_neg hcs]
  cases rooted with
  | true => rfl
  | false => rfl

/-- A cleaned path that begins with another one and a slash continues its components. -/
theorem prefix_of_render {rooted : Bool} {cs cs' : List Str} (hcs : cs ≠ [])
    (h : ∀ c ∈ cs, Component c) (h' : ∀ c ∈ cs', Component c)
    (hpre : render rooted cs ++ [47] <+: render rooted cs' ++ [47]) :
  cs <+: cs'
  := by
  rw [render_slash rooted hcs] at hpre
  rcases cs' with _ | ⟨c', cs'⟩
  · -- neither the root nor the dot continues a component
    obtain ⟨c, rest, rfl⟩ := List.exists_cons_of_ne_nil hcs
    have hc := h c List.mem_cons_self
    rw [join_cons_slash] at hpre
    cases rooted with
    | true =>
        have hroot : c ++ 47 :: join (str "/") (rest ++ [[]]) <+: [] ++ 47 :: [] :=
          (List.cons_prefix_cons.mp hpre).2
        exact absurd (prefix_of_slash hc.slash List.not_mem_nil hroot).1 hc.nonempty
    | false =>
        have hdot : c ++ 47 :: join (str "/") (rest ++ [[]]) <+: str "." ++ 47 :: [] := hpre
        exact absurd (prefix_of_slash hc.slash (by decide) hdot).1 hc.dot
  · rw [render_slash rooted (List.cons_ne_nil c' cs'), List.prefix_append_right_inj] at hpre
    exact prefix_of_join h h' hpre

/-- The directory of a path that ends in a component. -/
theorem dir_append_slash {front c : Str} (hc : 47 ∉ c) :
  dir (front ++ 47 :: c) = clean (front ++ [47])
  := by
  have hdrop : ∀ s : Str, (c.reverse ++ s).dropWhile (· ≠ 47) = s.dropWhile (· ≠ 47) := by
    intro s
    apply List.dropWhile_append_of_pos
    intro b hb
    rw [List.mem_reverse] at hb
    simp only [decide_eq_true_iff]
    rintro rfl
    exact hc hb
  rw [dir, List.reverse_append, List.reverse_cons, List.append_assoc, hdrop]
  simp

theorem dir_of_notMem {c : Str} (hc : 47 ∉ c) :
  dir c = str "."
  := by
  have hdrop : c.reverse.dropWhile (· ≠ 47) = [] := by
    rw [List.dropWhile_eq_nil_iff]
    intro b hb
    rw [List.mem_reverse] at hb
    simp only [decide_eq_true_iff]
    rintro rfl
    exact hc hb
  rw [dir, hdrop]
  rfl

theorem kept_slash {path : Str} (hpath : path ≠ []) :
  isAbs (path ++ [47]) = isAbs path ∧ kept (path ++ [47]) = kept path
  := by
  obtain ⟨habs, hkept⟩ := kept_append hpath []
  refine ⟨habs, ?_⟩
  rw [hkept, List.splitOn_nil, List.foldl_cons, pushComponent_skip _ (.inl rfl), List.foldl_nil,
    List.reverse_reverse]

/-- The directory of a cleaned path has all components but the last. -/
theorem kept_dir {rooted : Bool} {cs : List Str} (h : Cleaned rooted cs.reverse) :
  isAbs (dir (render rooted cs)) = rooted ∧ kept (dir (render rooted cs)) = cs.dropLast
  := by
  rcases List.eq_nil_or_concat cs with rfl | ⟨front, c, rfl⟩
  · cases rooted with
    | true => exact ⟨by decide, by decide⟩
    | false => exact ⟨by decide, by decide⟩
  · rw [List.concat_eq_append] at h ⊢
    rw [List.reverse_append] at h
    have hc : 47 ∉ c := (h.component c (by simp)).slash
    have hfront : Cleaned rooted front.reverse := Cleaned.of_cons h
    rw [List.dropLast_concat]
    by_cases hnil : front = []
    · subst hnil
      cases rooted with
      | true =>
          have hrender : render true ([] ++ [c]) = [] ++ 47 :: c := by simp [render, join, str_slash]
          rw [hrender, dir_append_slash hc]
          exact ⟨by decide, by decide⟩
      | false =>
          have hrender : render false ([] ++ [c]) = c := by simp [render, join]
          rw [hrender, dir_of_notMem hc]
          exact ⟨by decide, by decide⟩
    · have hrender : render rooted (front ++ [c]) = render rooted front ++ 47 :: c := by
        have hnil' : front ++ [c] ≠ [] := List.concat_ne_nil c front
        rw [render, render, join_concat hnil, if_neg hnil, if_neg hnil']
        cases rooted with
        | true => rfl
        | false => rfl
      have hne : render rooted front ≠ [] := by
        intro hempty
        have hkept := kept_render hfront
        rw [hempty] at hkept
        exact hnil hkept.symm
      obtain ⟨habs, hkept⟩ := kept_slash hne
      rw [hrender, dir_append_slash hc, isAbs_clean, kept_clean, habs, hkept, kept_render hfront,
        isAbs_render fun c hc => hfront.component c (List.mem_reverse.mpr hc)]
      exact ⟨rfl, rfl⟩

example : clean (str "a//b/./../c/") = str "a/c" := by decide

example : absPath (str "/srv") (str "../x") = str "/x" := by decide

end Go
