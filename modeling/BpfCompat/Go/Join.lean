import BpfCompat.Go.Path

/-!
# Joined paths

A path joined to a directory continues the components of the directory (`kept_joinPath`), and a
name joined to it is one component more: the directory and the name can be read off the joined path
again (`dir_joinPath`, `base_joinPath`).  The absolute path of a path depends only on the components
that cleaning keeps (`absPath_clean`), so that names joined to one directory denote different files
exactly when they differ (`absPath_joinPath_inj`).
-/

namespace Go

/-- A component that names something in the directory it is joined to. -/
structure Name (c : Str) : Prop extends Component c where
  dots : c ≠ str ".."

theorem Name.push {c : Str} (h : Name c) (rooted : Bool) (cs : List Str) :
  pushComponent rooted cs c = c :: cs
  := pushComponent_name rooted h.nonempty h.dot h.dots cs

theorem Name.of_length {c : Str} (hlength : 2 < c.length) (hslash : 47 ∉ c) :
  Name c
  := by
  refine ⟨⟨?_, ?_, hslash⟩, ?_⟩
  all_goals
    rintro rfl
    exact absurd hlength (by decide)

theorem splitOn_of_notMem {b : UInt8} {c : Str} (h : b ∉ c) :
  c.splitOn b = [c]
  := by
  have hjoin := List.splitOn_intercalate b (List.forall_mem_singleton.mpr h) (List.cons_ne_nil c [])
  simpa [List.intercalate] using hjoin

theorem isAbs_component {c : Str} (hc : Component c) :
  isAbs c = false
  := by
  have h := isAbs_join (List.forall_mem_singleton.mpr hc)
  simpa [join] using h

theorem kept_component {c : Str} (hc : Component c) :
  kept c = [c]
  := by
  rw [kept, isAbs_component hc, splitOn_of_notMem hc.slash, List.foldl_cons, List.foldl_nil]
  by_cases hdots : c = str ".."
  · rw [hdots]
    rfl
  · rw [pushComponent_name false hc.nonempty hc.dot hdots, List.reverse_singleton]

theorem clean_component {c : Str} (hc : Component c) :
  clean c = c
  := by
  rw [clean_eq_render, isAbs_component hc, kept_component hc]
  simp [render, join]

/-- A component that stays below a directory is a name. -/
theorem isLocal_component {c : Str} (hc : Component c) :
  isLocal c = true ↔ Name c
  := by
  have hprefix : ¬(str "../" <+: c) := by
    intro h
    exact hc.slash (h.subset (by decide))
  rw [isLocal, isAbs_component hc, clean_component hc]
  simp only [Bool.not_false, Bool.true_and, Bool.and_eq_true, decide_eq_true_iff,
    Bool.not_eq_true', ← Bool.not_eq_true, List.isPrefixOf_iff_prefix]
  exact ⟨fun h => ⟨hc, h.1.2⟩, fun h => ⟨⟨hc.nonempty, h.dots⟩, hprefix⟩⟩

theorem clean_ne_nil (path : Str) :
  clean path ≠ []
  := by
  intro hnil
  have habs := isAbs_clean path
  have hkept := kept_clean path
  rw [hnil] at habs hkept
  rw [clean_eq_render, ← habs, ← hkept] at hnil
  exact absurd hnil (by decide)

/-- Cleaned paths are equal if they begin at the same place and keep the same components. -/
theorem clean_ext {path path' : Str} (hclean : clean path = path) (hclean' : clean path' = path')
    (habs : isAbs path = isAbs path') (hkept : kept path = kept path') :
  path = path'
  := by
  rw [← hclean, ← hclean', clean_eq_render, clean_eq_render, habs, hkept]

/-! ### The components of a joined path -/

section

variable {path : Str}

theorem joinPath_nil (hpath : path ≠ []) :
  joinPath [path, []] = clean path
  := by
  simp [joinPath, hpath, join]

theorem joinPath_cons (hpath : path ≠ []) {entry : Str} (hentry : entry ≠ []) :
  joinPath [path, entry] = clean (path ++ 47 :: entry)
  := by
  simp [joinPath, hpath, hentry, join, str_slash]

/-- A joined path is cleaned, and begins where the directory begins. -/
theorem joinPath_pair (hpath : path ≠ []) (entry : Str) :
  isAbs (joinPath [path, entry]) = isAbs path ∧
    clean (joinPath [path, entry]) = joinPath [path, entry]
  := by
  by_cases hentry : entry = []
  · rw [hentry, joinPath_nil hpath, isAbs_clean, clean_clean]
    exact ⟨rfl, rfl⟩
  · rw [joinPath_cons hpath hentry, isAbs_clean, clean_clean, (kept_append hpath entry).1]
    exact ⟨rfl, rfl⟩

theorem kept_joinPath (hpath : path ≠ []) (entry : Str) :
  kept (joinPath [path, entry]) =
    ((entry.splitOn 47).foldl (pushComponent (isAbs path)) (kept path).reverse).reverse
  := by
  by_cases hentry : entry = []
  · rw [hentry, joinPath_nil hpath, kept_clean, List.splitOn_nil, List.foldl_cons,
      pushComponent_skip _ (.inl rfl), List.foldl_nil, List.reverse_reverse]
  · rw [joinPath_cons hpath hentry, kept_clean, (kept_append hpath entry).2]

theorem kept_joinPath_name (hpath : path ≠ []) {c : Str} (hc : Name c) :
  kept (joinPath [path, c]) = kept path ++ [c]
  := by
  rw [kept_joinPath hpath, splitOn_of_notMem hc.slash, List.foldl_cons, List.foldl_nil, hc.push,
    List.reverse_cons, List.reverse_reverse]

theorem joinPath_name (hpath : path ≠ []) {c : Str} (hc : Name c) :
  joinPath [path, c] = render (isAbs path) (kept path ++ [c])
  := by
  obtain ⟨habs, hclean⟩ := joinPath_pair hpath c
  rw [← hclean, clean_eq_render, habs, kept_joinPath_name hpath hc]

end

/-- A double dot takes back a component, or stands in front of other double dots. -/
theorem pushComponent_dots_ne {rooted : Bool} {cs : List Str} {name : Str} (h : Component name)
    (hdots : name ≠ str "..") :
  pushComponent rooted cs (str "..") ≠ pushComponent rooted cs name
  := by
  rw [pushComponent_name rooted h.nonempty h.dot hdots]
  intro heq
  cases cs with
  | nil =>
      rw [pushComponent_dots_nil] at heq
      split_ifs at heq
      exact hdots (List.cons.inj heq).1.symm
  | cons c cs =>
      rw [pushComponent_dots_cons] at heq
      split_ifs at heq
      · exact hdots (List.cons.inj heq).1.symm
      · have hlength := congrArg List.length heq
        simp only [List.length_cons] at hlength
        omega

theorem pushComponent_injective {rooted : Bool} {cs : List Str} {a b : Str} (ha : Component a)
    (hb : Component b) (h : pushComponent rooted cs a = pushComponent rooted cs b) :
  a = b
  := by
  by_cases hadots : a = str ".."
  · by_cases hbdots : b = str ".."
    · rw [hadots, hbdots]
    · rw [hadots] at h
      exact absurd h (pushComponent_dots_ne hb hbdots)
  · by_cases hbdots : b = str ".."
    · rw [hbdots] at h
      exact absurd h.symm (pushComponent_dots_ne ha hadots)
    · rw [pushComponent_name rooted ha.nonempty ha.dot hadots,
        pushComponent_name rooted hb.nonempty hb.dot hbdots] at h
      exact (List.cons.inj h).1

/-- Components stay apart in a directory. -/
theorem joinPath_injective {dir a b : Str} (hdir : dir ≠ []) (ha : Component a) (hb : Component b)
    (h : joinPath [dir, a] = joinPath [dir, b]) :
  a = b
  := by
  have hkept := congrArg kept h
  rw [kept_joinPath hdir, kept_joinPath hdir, splitOn_of_notMem ha.slash,
    splitOn_of_notMem hb.slash] at hkept
  exact pushComponent_injective ha hb (List.reverse_injective hkept)

/-! ### The name at the end of a path -/

theorem render_append (rooted : Bool) {front : List Str} (hfront : front ≠ []) (c : Str) :
  render rooted (front ++ [c]) = render rooted front ++ 47 :: c
  := by
  rw [render, render, join_concat hfront, if_neg hfront, if_neg (List.concat_ne_nil c front)]
  cases rooted with
  | true => rfl
  | false => rfl

theorem render_eq_dot_iff {front : List Str} (h : Cleaned false front.reverse) :
  render false front = str "." ↔ front = []
  := by
  constructor
  · intro hdot
    rw [← kept_render h, hdot]
    decide
  · rintro rfl
    rfl

/-- What a path with a last component has in front of it. -/
def lead (rooted : Bool) (front : List Str) : Str :=
  (if rooted then [47] else []) ++ join (str "/") (front ++ [[]])

theorem render_concat (rooted : Bool) (front : List Str) (c : Str) :
  render rooted (front ++ [c]) = lead rooted front ++ c
  := by
  have hjoin : join (str "/") (front ++ [c]) = join (str "/") (front ++ [[]]) ++ c := by
    rcases front with _ | ⟨d, ds⟩
    · simp [join]
    · rw [join_concat (List.cons_ne_nil d ds), join_concat (List.cons_ne_nil d ds),
        List.append_assoc]
      rfl
  rw [render, lead, hjoin, if_neg (List.concat_ne_nil c front)]
  cases rooted with
  | true => rfl
  | false => rfl

/-- In front of the last component stands a slash, if anything does. -/
theorem lead_cases (rooted : Bool) (front : List Str) :
  lead rooted front = [] ∨ ∃ s, lead rooted front = s ++ [47]
  := by
  rcases front with _ | ⟨d, ds⟩
  · cases rooted with
    | true => exact .inr ⟨[], rfl⟩
    | false => exact .inl rfl
  · refine .inr ⟨(if rooted then [47] else []) ++ join (str "/") (d :: ds), ?_⟩
    rw [lead, join_concat (List.cons_ne_nil d ds), List.append_assoc]

/-- The last component of a path that ends in a name. -/
theorem base_append {front c : Str} (hfront : front = [] ∨ ∃ s, front = s ++ [47]) (hc : Component c) :
  base (front ++ c) = c
  := by
  obtain ⟨b, rest, hrev⟩ := List.exists_cons_of_ne_nil (List.reverse_ne_nil_iff.mpr hc.nonempty)
  have hb : b ≠ 47 := by
    rintro rfl
    exact hc.slash (List.mem_reverse.mp (hrev ▸ List.mem_cons_self))
  have hdrop : (front ++ c).reverse.dropWhile (· = 47) = (front ++ c).reverse := by
    rw [List.reverse_append, hrev, List.cons_append, List.dropWhile_cons_of_neg (by simpa using hb)]
  have htake : (front ++ c).reverse.takeWhile (· ≠ 47) = c.reverse := by
    rw [List.reverse_append, List.takeWhile_append_of_pos]
    · obtain rfl | ⟨s, rfl⟩ := hfront
      · simp
      · simp
    · intro x hx
      rw [List.mem_reverse] at hx
      simp only [decide_eq_true_iff]
      rintro rfl
      exact hc.slash hx
  have hne : front ++ c ≠ [] := List.append_ne_nil_of_right_ne_nil front hc.nonempty
  rw [base, if_neg hne]
  dsimp only
  rw [hdrop, List.reverse_reverse, if_neg hne, htake, List.reverse_reverse]

section

variable {path : Str} (hpath : path ≠ []) {c : Str} (hc : Name c)

include hpath hc

theorem base_joinPath :
  base (joinPath [path, c]) = c
  := by
  rw [joinPath_name hpath hc, render_concat]
  exact base_append (lead_cases _ _) hc.toComponent

theorem dir_joinPath :
  dir (joinPath [path, c]) = clean path
  := by
  have hcleaned := cleaned_kept (joinPath [path, c])
  rw [(joinPath_pair hpath c).1, kept_joinPath_name hpath hc] at hcleaned
  obtain ⟨habs, hkept⟩ := kept_dir hcleaned
  rw [joinPath_name hpath hc]
  apply clean_ext
  · rw [dir, clean_clean]
  · rw [clean_clean]
  · rw [habs, isAbs_clean]
  · rw [hkept, kept_clean, List.dropLast_concat]

/-- A suffix of the name is a suffix of the path. -/
theorem joinPath_append {s : Str} (hcs : Name (c ++ s)) :
  joinPath [path, c] ++ s = joinPath [path, c ++ s]
  := by
  rw [joinPath_name hpath hc, joinPath_name hpath hcs, render_concat, render_concat,
    List.append_assoc]

end

/-- A path with a name behind its last slash. -/
theorem kept_append_name {front c : Str} (hfront : front = [] ∨ ∃ s, front = s ++ [47])
    (hc : Name c) :
  isAbs (front ++ c) = isAbs front ∧ kept (front ++ c) = kept front ++ [c]
  := by
  obtain rfl | ⟨s, rfl⟩ := hfront
  · exact ⟨isAbs_component hc.toComponent, kept_component hc.toComponent⟩
  · rw [List.append_assoc, List.singleton_append]
    by_cases hs : s = []
    · subst hs
      refine ⟨rfl, ?_⟩
      have habs : isAbs (47 :: c) = true := rfl
      have hroot : kept ([] ++ [47]) = [] := by decide
      rw [List.nil_append, kept, habs, splitOn_slash_cons, splitOn_of_notMem hc.slash, List.foldl_cons,
        pushComponent_skip _ (.inl rfl), List.foldl_cons, List.foldl_nil, hc.push, hroot]
      rfl
    · obtain ⟨habs, hkept⟩ := kept_append hs c
      obtain ⟨habs', hkept'⟩ := kept_slash hs
      rw [habs, hkept, habs', hkept', splitOn_of_notMem hc.slash, List.foldl_cons, List.foldl_nil,
        hc.push, List.reverse_cons, List.reverse_reverse]
      exact ⟨rfl, rfl⟩

theorem dir_append {front c : Str} (hfront : front = [] ∨ ∃ s, front = s ++ [47]) (hc : 47 ∉ c) :
  dir (front ++ c) = clean front
  := by
  obtain rfl | ⟨s, rfl⟩ := hfront
  · rw [List.nil_append, dir_of_notMem hc]
    rfl
  · rw [List.append_assoc, List.singleton_append, dir_append_slash hc]

/-- A path up to its last slash, and what is behind it. -/
theorem exists_last_slash (path : Str) :
  ∃ front last, path = front ++ last ∧ (front = [] ∨ ∃ s, front = s ++ [47]) ∧ 47 ∉ last
  := by
  refine ⟨(path.reverse.dropWhile (· ≠ 47)).reverse, (path.reverse.takeWhile (· ≠ 47)).reverse,
    ?_, ?_, ?_⟩
  · rw [← List.reverse_append, List.takeWhile_append_dropWhile, List.reverse_reverse]
  · cases hdrop : path.reverse.dropWhile (· ≠ 47) with
    | nil => exact .inl rfl
    | cons b rest =>
        have hb := List.head?_dropWhile_not (· ≠ 47) path.reverse
        rw [hdrop] at hb
        have hb' : b = 47 := by simpa using hb
        rw [hb', List.reverse_cons]
        exact .inr ⟨rest.reverse, rfl⟩
  · rw [List.mem_reverse]
    intro hmem
    have hne := List.mem_takeWhile_imp hmem
    simp at hne

/-! ### Paths that stay below a directory -/

/-- A local path has no double dots. -/
theorem name_of_isLocal {path : Str} (h : isLocal path = true) :
  isAbs path = false ∧ ∀ c ∈ kept path, Name c
  := by
  rw [isLocal] at h
  simp only [Bool.and_eq_true, decide_eq_true_iff, Bool.not_eq_true'] at h
  obtain ⟨⟨⟨habs, -⟩, hdots⟩, hprefix⟩ := h
  refine ⟨habs, fun c hc => ⟨component_of_mem_kept hc, ?_⟩⟩
  rintro rfl
  obtain ⟨-, names, k, hcleaned, hnames, -⟩ := cleaned_kept path
  rw [List.reverse_eq_iff, List.reverse_append, List.reverse_replicate] at hcleaned
  rcases k with _ | k
  · rw [hcleaned] at hc
    exact hnames (by simpa using hc)
  · -- the double dots stand in front
    rw [clean_eq_render, habs, hcleaned, List.replicate_succ, List.cons_append] at hdots hprefix
    rcases hrest : List.replicate k (str "..") ++ names.reverse with _ | ⟨d, ds⟩
    · rw [hrest] at hdots
      exact hdots rfl
    · rw [hrest, render, if_neg (by decide), if_neg (List.cons_ne_nil _ _), join_cons_cons] at hprefix
      have hdots' : str "../" <+: str ".." ++ 47 :: join (str "/") (d :: ds) :=
        ⟨join (str "/") (d :: ds), rfl⟩
      rw [List.isPrefixOf_iff_prefix.mpr hdots'] at hprefix
      cases hprefix

theorem foldl_names (rooted : Bool) {cs : List Str} (h : ∀ c ∈ cs, Name c) (st : List Str) :
  cs.foldl (pushComponent rooted) st = cs.reverse ++ st
  := by
  induction cs generalizing st with
  | nil => rfl
  | cons c cs ih =>
      rw [List.forall_mem_cons] at h
      rw [List.foldl_cons, h.1.push, ih h.2, List.reverse_cons, List.append_assoc]
      rfl

/-! ### Absolute paths -/

/-- Taking a relative path from somewhere is taking the components it keeps from there. -/
theorem foldl_kept (rooted : Bool) (st : List Str) {path : Str} (hpath : isAbs path = false) :
  (kept path).foldl (pushComponent rooted) st = (path.splitOn 47).foldl (pushComponent rooted) st
  := by
  have hslash : ∀ part ∈ path.splitOn 47, 47 ∉ part := fun _ => notMem_of_mem_splitOn
  rw [kept, hpath]
  generalize path.splitOn 47 = parts at hslash
  induction parts using List.reverseRecOn with
  | nil => rfl
  | append_singleton parts c ih =>
      have hparts : ∀ part ∈ parts, 47 ∉ part := fun part hpart =>
        hslash part (List.mem_append_left [c] hpart)
      have hcleaned : Cleaned false (parts.foldl (pushComponent false) []) :=
        (cleaned_nil false).foldl hparts
      rw [List.foldl_append, List.foldl_append, ← ih hparts, List.foldl_cons, List.foldl_nil,
        List.foldl_cons, List.foldl_nil]
      generalize parts.foldl (pushComponent false) [] = names at hcleaned
      by_cases hskip : c = [] ∨ c = str "."
      · rw [pushComponent_skip _ hskip, pushComponent_skip _ hskip]
      · rw [not_or] at hskip
        by_cases hdots : c = str ".."
        · subst hdots
          rcases names with _ | ⟨name, names⟩
          · rfl
          · rw [pushComponent_dots_cons]
            split_ifs with hname
            · rw [List.reverse_cons, List.foldl_append]
              rfl
            · -- the name is taken back where it was put
              have hcomponent := hcleaned.component name List.mem_cons_self
              rw [List.reverse_cons, List.foldl_append, List.foldl_cons, List.foldl_nil,
                pushComponent_name rooted hcomponent.nonempty hcomponent.dot hname,
                pushComponent_dots_cons, if_neg hname]
        · rw [pushComponent_name _ hskip.1 hskip.2 hdots, List.reverse_cons, List.foldl_append]
          rfl

/-- A local path continues the components of the directory it is joined to. -/
theorem kept_joinPath_local {path rel : Str} (hpath : path ≠ []) (h : isLocal rel = true) :
  kept (joinPath [path, rel]) = kept path ++ kept rel
  := by
  obtain ⟨habs, hnames⟩ := name_of_isLocal h
  rw [kept_joinPath hpath, ← foldl_kept _ _ habs, foldl_names _ hnames, List.reverse_append,
    List.reverse_reverse, List.reverse_reverse]

section

variable {cwd : Str} (hcwd : isAbs cwd = true)

include hcwd

theorem cwd_ne_nil :
  cwd ≠ []
  := by
  rintro rfl
  cases hcwd

theorem absPath_cleaned (path : Str) :
  isAbs (absPath cwd path) = true ∧ clean (absPath cwd path) = absPath cwd path
  := by
  rw [absPath]
  split_ifs with hpath
  · exact ⟨by rw [isAbs_clean, hpath], clean_clean path⟩
  · obtain ⟨habs, hclean⟩ := joinPath_pair (cwd_ne_nil hcwd) path
    exact ⟨habs.trans hcwd, hclean⟩

theorem absPath_ne_nil (path : Str) :
  absPath cwd path ≠ []
  := cwd_ne_nil (absPath_cleaned hcwd path).1

theorem kept_absPath (path : Str) :
  kept (absPath cwd path) =
    if isAbs path then kept path
    else ((kept path).foldl (pushComponent true) (kept cwd).reverse).reverse
  := by
  rw [absPath]
  split_ifs with hpath
  · rw [kept_clean]
  · rw [Bool.not_eq_true] at hpath
    rw [kept_joinPath (cwd_ne_nil hcwd), hcwd, foldl_kept true _ hpath]

theorem absPath_ext {path path' : Str} (hkept : kept (absPath cwd path) = kept (absPath cwd path')) :
  absPath cwd path = absPath cwd path'
  := by
  obtain ⟨habs, hclean⟩ := absPath_cleaned hcwd path
  obtain ⟨habs', hclean'⟩ := absPath_cleaned hcwd path'
  exact clean_ext hclean hclean' (habs.trans habs'.symm) hkept

theorem absPath_clean (path : Str) :
  absPath cwd (clean path) = absPath cwd path
  := by
  apply absPath_ext hcwd
  rw [kept_absPath hcwd, kept_absPath hcwd, isAbs_clean, kept_clean]

/-- An absolute path is the path it denotes. -/
theorem absPath_absPath (path : Str) :
  absPath cwd (absPath cwd path) = absPath cwd path
  := by
  obtain ⟨habs, hclean⟩ := absPath_cleaned hcwd path
  rw [absPath, if_pos habs, hclean]

theorem kept_absPath_joinPath (path : Str) {c : Str} (hc : Name c) :
  kept (absPath cwd (joinPath [path, c])) = kept (absPath cwd path) ++ [c]
  := by
  have hjoined : isAbs (joinPath [path, c]) = isAbs path ∧ kept (joinPath [path, c]) = kept path ++ [c] := by
    by_cases hpath : path = []
    · have hjoin : joinPath [path, c] = clean c := by
        simp [joinPath, hpath, hc.nonempty, join]
      rw [hjoin, clean_component hc.toComponent, hpath, isAbs_component hc.toComponent,
        kept_component hc.toComponent]
      exact ⟨rfl, rfl⟩
    · exact ⟨(joinPath_pair hpath c).1, kept_joinPath_name hpath hc⟩
  rw [kept_absPath hcwd, kept_absPath hcwd, hjoined.1, hjoined.2]
  split_ifs with habs
  · rfl
  · rw [List.foldl_append, List.foldl_cons, List.foldl_nil, hc.push, List.reverse_cons]

/-- A name joined to a path denotes what it names in the directory the path denotes. -/
theorem joinPath_absPath (path : Str) {c : Str} (hc : Name c) :
  joinPath [absPath cwd path, c] = absPath cwd (joinPath [path, c])
  := by
  obtain ⟨habs, -⟩ := absPath_cleaned hcwd path
  have hne := absPath_ne_nil hcwd path
  obtain ⟨habs', hclean'⟩ := joinPath_pair hne c
  obtain ⟨habs'', hclean''⟩ := absPath_cleaned hcwd (joinPath [path, c])
  apply clean_ext hclean' hclean''
  · rw [habs', habs, habs'']
  · rw [kept_joinPath_name hne hc, kept_absPath_joinPath hcwd path hc]

/-- Names joined to one directory denote one file only if they are equal. -/
theorem absPath_joinPath_inj {path c c' : Str} (hc : Name c) (hc' : Name c') :
  absPath cwd (joinPath [path, c]) = absPath cwd (joinPath [path, c']) ↔ c = c'
  := by
  constructor
  · intro h
    have hkept := congrArg kept h
    rw [kept_absPath_joinPath hcwd path hc, kept_absPath_joinPath hcwd path hc',
      List.append_right_inj, List.cons.injEq] at hkept
    exact hkept.1
  · rintro rfl
    rfl

/-- A name joined to two directories denotes one file only if the directories are one. -/
theorem absPath_joinPath_dir_inj {path path' c : Str} (hc : Name c) :
  absPath cwd (joinPath [path, c]) = absPath cwd (joinPath [path', c]) ↔
    absPath cwd path = absPath cwd path'
  := by
  constructor
  · intro h
    have hkept := congrArg kept h
    rw [kept_absPath_joinPath hcwd path hc, kept_absPath_joinPath hcwd path' hc,
      List.append_left_inj] at hkept
    exact absPath_ext hcwd hkept
  · intro h
    apply absPath_ext hcwd
    rw [kept_absPath_joinPath hcwd path hc, kept_absPath_joinPath hcwd path' hc, h]

end

end Go
