import BpfCompat.Go.Join

/-!
# Symbolic links

A path may lead through links, so the place it leads to need not be where its text says.  Resolving
the links gives the text of the place itself: every component of it is a directory, apart from the
last one, and none is a link (`real_of_evalSymlinks`).  A path that is real already is left as it is
(`evalSymlinks_real`).
-/

namespace Go

/-- What stands at a place. -/
inductive FileKind where
  | dir
  | regular
  | other
  | link (target : Str)
deriving DecidableEq

/-- What stands at the places of a file tree, each given by the components of its path from the root,
last one first. -/
abbrev FileTree : Type := List Str → Option FileKind

/-- How far a path leads. -/
inductive Walked where
  | arrived (dest : List Str)
  | failed
  | linked (dest : List Str) (target : Str) (rest : List Str)

section

variable (tree : FileTree)

/-- The components of a path are followed up to the first link. -/
def walk (dest : List Str) : List Str → Walked
  | [] => .arrived dest
  | c :: rest =>
    if c = [] ∨ c = str "." then walk dest rest
    else if c = str ".." then walk dest.tail rest
    else
      match tree (c :: dest) with
      | none => .failed
      | some (.link target) => .linked dest target rest
      | some .dir => walk (c :: dest) rest
      | some _ => if rest = [] then .arrived (c :: dest) else .failed

/-- The place a path leads to over at most so many links. -/
def followLinks : Nat → List Str → List Str → Option (List Str)
  | 0, dest, path =>
    match walk tree dest path with
    | .arrived dest => some dest
    | _ => none
  | links + 1, dest, path =>
    match walk tree dest path with
    | .arrived dest => some dest
    | .failed => none
    | .linked dest target rest =>
      followLinks links (if isAbs target then [] else dest) (target.splitOn 47 ++ rest)

/-- An absolute path with its links resolved. -/
def evalSymlinks (path : Str) : Option Str :=
  (followLinks tree 255 [] (path.splitOn 47)).map fun dest => render true dest.reverse

/-- What a path leads to. -/
def stat (path : Str) : Option FileKind :=
  (followLinks tree 255 [] (path.splitOn 47)).bind fun dest => if dest = [] then some .dir else tree dest

/-! ### Real places -/

/-- Directories all the way. -/
inductive RealDir : List Str → Prop where
  | root : RealDir []
  | sub {c : Str} {dest : List Str} (hdest : RealDir dest) (hc : Name c)
      (hdir : tree (c :: dest) = some .dir) : RealDir (c :: dest)

/-- A place with directories all the way to it, and no link at it. -/
inductive RealPlace : List Str → Prop where
  | root : RealPlace []
  | at {c : Str} {dest : List Str} {k : FileKind} (hdest : RealDir tree dest) (hc : Name c)
      (hkind : tree (c :: dest) = some k) (hlink : ∀ target, k ≠ .link target) :
      RealPlace (c :: dest)

variable {tree}

theorem RealDir.tail {dest : List Str} (h : RealDir tree dest) :
  RealDir tree dest.tail
  := by
  cases h with
  | root => apply RealDir.root
  | sub hdest hc hdir => apply hdest

theorem RealDir.place {dest : List Str} (h : RealDir tree dest) :
  RealPlace tree dest
  := by
  cases h with
  | root => apply RealPlace.root
  | sub hdest hc hdir =>
      apply RealPlace.at hdest hc hdir
      rintro target ⟨⟩

/-- What lies above a real place is a real directory. -/
theorem RealPlace.above {front back : List Str} (h : RealPlace tree (front ++ back))
    (hfront : front ≠ []) :
  RealDir tree back
  := by
  induction front with
  | nil => apply absurd rfl hfront
  | cons c front ih =>
      cases h with
      | «at» hdest hc hkind hlink =>
          cases front with
          | nil => apply hdest
          | cons c' front => apply ih hdest.place (List.cons_ne_nil _ _)

theorem RealPlace.name {dest : List Str} (h : RealPlace tree dest) :
  ∀ c ∈ dest, Name c
  := by
  induction dest with
  | nil =>
      intro c hc
      cases hc
  | cons c dest ih =>
      cases h with
      | «at» hdest hc hkind hlink =>
          rw [List.forall_mem_cons]
          exact ⟨hc, ih hdest.place⟩

theorem name_of_split {c : Str} (hslash : 47 ∉ c) (hne : ¬ (c = [] ∨ c = str "."))
    (hdots : c ≠ str "..") :
  Name c
  := by
  rw [not_or] at hne
  exact ⟨⟨hne.1, hne.2, hslash⟩, hdots⟩

/-- Following components from a real directory leads to a real place, or to a link in a real
directory. -/
theorem walk_spec {dest path : List Str} (hdest : RealDir tree dest) (hpath : ∀ c ∈ path, 47 ∉ c) :
  (∀ d, walk tree dest path = .arrived d → RealPlace tree d)
    ∧ ∀ d target rest, walk tree dest path = .linked d target rest →
      RealDir tree d ∧ ∀ c ∈ rest, 47 ∉ c
  := by
  induction path generalizing dest with
  | nil =>
      constructor
      · rintro d ⟨⟩
        apply hdest.place
      · rintro d target rest ⟨⟩
  | cons c path ih =>
      rw [List.forall_mem_cons] at hpath
      rw [walk]
      by_cases hskip : c = [] ∨ c = str "."
      · rw [if_pos hskip]
        apply ih hdest hpath.2
      rw [if_neg hskip]
      by_cases hdots : c = str ".."
      · rw [if_pos hdots]
        apply ih hdest.tail hpath.2
      rw [if_neg hdots]
      have hname : Name c := name_of_split hpath.1 hskip hdots
      split
      · constructor
        · rintro d ⟨⟩
        · rintro d target rest ⟨⟩
      · constructor
        · rintro d ⟨⟩
        · rintro d target rest ⟨⟩
          exact ⟨hdest, hpath.2⟩
      · rename_i hdir
        apply ih (.sub hdest hname hdir) hpath.2
      · rename_i k hlink hdir hkind
        split_ifs with hrest
        · constructor
          · rintro d ⟨⟩
            apply RealPlace.at hdest hname hkind
            apply hlink
          · rintro d target rest ⟨⟩
        · constructor
          · rintro d ⟨⟩
          · rintro d target rest ⟨⟩

theorem real_of_follow {links : Nat} {dest path d : List Str} (hdest : RealDir tree dest)
    (hpath : ∀ c ∈ path, 47 ∉ c) (h : followLinks tree links dest path = some d) :
  RealPlace tree d
  := by
  induction links generalizing dest path with
  | zero =>
      rw [followLinks] at h
      split at h
      · rename_i d' harrived
        rw [Option.some.injEq] at h
        apply (walk_spec hdest hpath).1
        rw [harrived, h]
      · cases h
  | succ links ih =>
      rw [followLinks] at h
      split at h
      · rename_i d' harrived
        rw [Option.some.injEq] at h
        apply (walk_spec hdest hpath).1
        rw [harrived, h]
      · cases h
      · rename_i d' target rest hlinked
        obtain ⟨hd', hrest⟩ := (walk_spec hdest hpath).2 d' target rest hlinked
        refine ih ?_ ?_ h
        · split_ifs
          · apply RealDir.root
          · apply hd'
        · intro c hc
          rw [List.mem_append] at hc
          exact hc.elim notMem_of_mem_splitOn (hrest c)

/-- A real path leads to itself. -/
theorem walk_real {path dest : List Str} (h : RealPlace tree (path.reverse ++ dest)) :
  walk tree dest path = .arrived (path.reverse ++ dest)
  := by
  induction path generalizing dest with
  | nil => rfl
  | cons c path ih =>
      rw [List.reverse_cons, List.append_assoc, List.singleton_append] at h ⊢
      have hname : Name c := h.name c (List.mem_append_right _ List.mem_cons_self)
      have hskip : ¬ (c = [] ∨ c = str ".") := not_or.mpr ⟨hname.nonempty, hname.dot⟩
      rw [walk, if_neg hskip, if_neg hname.dots]
      by_cases hpath : path = []
      · rw [hpath, List.reverse_nil, List.nil_append] at h ⊢
        cases h with
        | «at» hdest hc hkind hlink =>
            rename_i k
            cases k with
            | dir => simp [hkind, walk]
            | regular => simp [hkind]
            | other => simp [hkind]
            | link target => apply absurd rfl (hlink target)
      · have hdir := h.above (by simpa using hpath)
        cases hdir with
        | sub hdest hc hkind =>
            rw [hkind]
            apply ih h

/-- The real place with the given components. -/
def Real (tree : FileTree) (path : Str) : Prop :=
  isAbs path = true ∧ RealPlace tree (kept path).reverse

theorem cleaned_of_names {cs : List Str} (h : ∀ c ∈ cs, Name c) :
  Cleaned true cs
  := by
  induction cs with
  | nil => apply cleaned_nil
  | cons c cs ih =>
      rw [List.forall_mem_cons] at h
      apply (ih h.2).cons_name h.1.toComponent h.1.dots

theorem RealPlace.kept {dest : List Str} (h : RealPlace tree dest) :
  Go.kept (render true dest.reverse) = dest.reverse
  := by
  apply kept_render
  rw [List.reverse_reverse]
  apply cleaned_of_names h.name

/-- Resolved, a path is real. -/
theorem real_of_evalSymlinks {path p : Str} (h : evalSymlinks tree path = some p) :
  Real tree p
  := by
  obtain ⟨dest, hdest, rfl⟩ := Option.map_eq_some_iff.mp h
  have hreal : RealPlace tree dest := real_of_follow .root (fun _ => notMem_of_mem_splitOn) hdest
  constructor
  · rfl
  · rwa [hreal.kept, List.reverse_reverse]

theorem follow_real {path : Str} (hclean : clean path = path) (h : Real tree path) :
  followLinks tree 255 [] (path.splitOn 47) = some (Go.kept path).reverse
  := by
  have hwalk : walk tree [] (path.splitOn 47) = .arrived (Go.kept path).reverse := by
    have htext : path = 47 :: join (str "/") (Go.kept path) := by
      have hrender := clean_eq_render path
      rw [hclean, h.1] at hrender
      apply hrender
    have hreal : RealPlace tree ((Go.kept path).reverse ++ []) := by
      rw [List.append_nil]
      apply h.2
    rw [htext, splitOn_slash_cons, walk, if_pos (.inl rfl), ← htext]
    cases hkept : Go.kept path with
    | nil => rfl
    | cons c cs =>
        rw [hkept] at hreal
        rw [splitOn_join (List.cons_ne_nil c cs), walk_real hreal, List.append_nil]
        intro c' hc'
        rw [← hkept] at hc'
        apply (component_of_mem_kept hc').slash
  rw [followLinks, hwalk]

/-- A real path is resolved already. -/
theorem evalSymlinks_real {path : Str} (hclean : clean path = path) (h : Real tree path) :
  evalSymlinks tree path = some path
  := by
  rw [evalSymlinks, follow_real hclean h, Option.map_some, List.reverse_reverse]
  conv_rhs => rw [← hclean, clean_eq_render, h.1]

/-- What lies above a real path is real. -/
theorem Real.above {path root : Str} (h : Real tree path) (habs : isAbs root = true)
    (hroot : Go.kept root <+: Go.kept path) :
  Real tree root
  := by
  obtain ⟨below, hbelow⟩ := hroot
  have hreal := h.2
  rw [← hbelow, List.reverse_append] at hreal
  refine ⟨habs, ?_⟩
  by_cases hnil : below.reverse = []
  · rwa [hnil, List.nil_append] at hreal
  · apply (hreal.above hnil).place

end

/-! ### One path relative to another -/

/-- Two lists without the elements they begin with alike. -/
def dropCommon : List Str → List Str → List Str × List Str
  | b :: bs, t :: ts => if b = t then dropCommon bs ts else (b :: bs, t :: ts)
  | bs, ts => (bs, ts)

/-- The path that leads from one place to another. -/
def rel (basepath targpath : Str) : Option Str :=
  let base := clean basepath
  let targ := clean targpath
  if targ = base then some (str ".")
  else if isAbs base ≠ isAbs targ then none
  else
    -- a path to the working directory itself keeps its dot
    let (bs, ts) := dropCommon (kept base) (if targ = str "." then [str "."] else kept targ)
    if bs.head? = some (str "..") then none
    else some (join (str "/") (List.replicate bs.length (str "..") ++ ts))

theorem dropCommon_spec (bs ts : List Str) :
  ∃ front, bs = front ++ (dropCommon bs ts).1 ∧ ts = front ++ (dropCommon bs ts).2
  := by
  induction bs generalizing ts with
  | nil => exact ⟨[], rfl, rfl⟩
  | cons b bs ih =>
      cases ts with
      | nil => exact ⟨[], rfl, rfl⟩
      | cons t ts =>
          rw [dropCommon]
          split_ifs with h
          · obtain ⟨front, hbs, hts⟩ := ih ts
            use t :: front
            rw [h, List.cons_append, List.cons_append, ← hbs, ← hts]
            exact ⟨rfl, rfl⟩
          · exact ⟨[], rfl, rfl⟩

theorem dropCommon_append (bs ts : List Str) :
  dropCommon bs (bs ++ ts) = ([], ts)
  := by
  induction bs with
  | nil => cases ts <;> rfl
  | cons b bs ih => rw [List.cons_append, dropCommon, if_pos rfl, ih]

end Go
