import BpfCompat.Go.Collections
import BpfCompat.Go.Symlink

/-!
# Paths on the server

Reports and manifests are named by paths that come from outside.  A path is accepted if it stands
below one of a few directories, and still does when its links are resolved.  What is opened then is
a regular file below one of these directories, whatever links there are (`server_local_contained`).
-/

namespace Api

open Go

/-! ### The source -/

def pathUnderRoot (target root : Str) : Bool :=
  let target := clean target
  let root := clean root
  if target = root then true
  else
    match rel root target with
    | none => false
    | some rel =>
      if rel = str "." then true
      else if (str "..").isPrefixOf rel then false
      else !isAbs rel

def pathUnderAnyRoot (target : Str) (roots : List Str) : Bool :=
  roots.any fun root => pathUnderRoot target root

section

variable (tree : FileTree) (cwd : Str)

def validatePathUnderRoots (userPath : Str) (roots : List Str) (outsideErr : Str) :
    Except Str Str :=
  let userPath := trimSpace userPath
  if userPath = [] then .error (str "path is required")
  else
    let abs := absPath cwd userPath
    if pathUnderAnyRoot abs roots = false then .error outsideErr
    else
      match evalSymlinks tree abs with
      | none => .error outsideErr
      | some resolved =>
        if pathUnderAnyRoot resolved roots = false then .error outsideErr
        else if stat tree resolved = some .regular then .ok resolved
        else .error outsideErr

/-- A directory that cannot be resolved stands for itself. -/
def resolvedRoot (c : Str) : Str := (evalSymlinks tree c).getD c

def dedupedResolvedRoots (candidates : List Str) : Except Str (List Str) :=
  let out := (candidates.map (resolvedRoot tree)).eraseDups
  if out.length = 0 then .error (str "no allowed roots configured") else .ok out

/-- The directories reports may be in. -/
def reportCandidates (workDir : Str) : List Str :=
  let workDir := trimSpace workDir
  (if workDir = [] then []
    else [absPath cwd workDir, joinPath [dir (absPath cwd workDir), str "reports"]]) ++
    [joinPath [cwd, str "reports"]]

def allowedReportRoots (workDir : Str) : Except Str (List Str) :=
  dedupedResolvedRoots tree (reportCandidates cwd workDir)

def allowedManifestRoots (workDir : Str) : Except Str (List Str) :=
  let workDir := trimSpace workDir
  if workDir = [] then .error (str "workdir required for manifest path validation")
  else dedupedResolvedRoots tree [absPath cwd workDir]

def resolveServerLocalReportPath (workDir userPath : Str) : Except Str Str := do
  let roots ← allowedReportRoots tree cwd workDir
  validatePathUnderRoots tree cwd userPath roots (str "report path is outside allowed roots")

def resolveServerLocalManifestPath (workDir userPath : Str) : Except Str Str := do
  let roots ← allowedManifestRoots tree cwd workDir
  validatePathUnderRoots tree cwd userPath roots (str "manifest path is outside allowed roots")

end

/-! ### Below a directory -/

/-- The text of a path begins with dots if its first component does. -/
theorem dots_prefix_join {c : Str} (cs : List Str) (h : (str "..").isPrefixOf c = true) :
  (str "..").isPrefixOf (join (str "/") (c :: cs)) = true
  := by
  rw [List.isPrefixOf_iff_prefix] at h ⊢
  cases cs with
  | nil => simpa [join] using h
  | cons c' cs =>
      rw [join_cons_cons]
      apply h.trans
      simp

/-- What is under an absolute root has the components of the root in front. -/
theorem prefix_of_pathUnderRoot {target root : Str} (habs : isAbs root = true)
    (h : pathUnderRoot target root = true) :
  isAbs target = true ∧ kept root <+: kept target
  := by
  rw [pathUnderRoot] at h
  by_cases heq : clean target = clean root
  · have habs' : isAbs target = isAbs root := by
      rw [← isAbs_clean target, heq, isAbs_clean]
    have hkept : kept target = kept root := by
      rw [← kept_clean target, heq, kept_clean]
    rw [habs', hkept]
    exact ⟨habs, List.prefix_refl _⟩
  simp only [heq, if_false] at h
  split at h
  · cases h
  · rename_i r hr
    simp only [rel, clean_clean, if_neg heq, isAbs_clean, kept_clean, ite_eq_iff, reduceCtorEq,
      and_false, false_or, Option.some.injEq] at hr
    obtain ⟨hboth, -, hr⟩ := hr
    have htarget : isAbs target = true := by
      rw [← not_not.mp hboth, habs]
    have hdot : clean target ≠ str "." := by
      intro hdot
      rw [← isAbs_clean, hdot] at htarget
      cases htarget
    rw [if_neg hdot] at hr
    obtain ⟨front, hbs, hts⟩ := dropCommon_spec (kept root) (kept target)
    refine ⟨htarget, ?_⟩
    cases hrest : (dropCommon (kept root) (kept target)).1 with
    | nil =>
        rw [hrest, List.append_nil] at hbs
        rw [hbs, hts]
        apply List.prefix_append
    | cons b bs =>
        -- the way from the root begins with a step up
        rw [hrest, List.length_cons, List.replicate_succ, List.cons_append] at hr
        have hup := dots_prefix_join (List.replicate bs.length (str "..") ++
          (dropCommon (kept root) (kept target)).2) (c := str "..") (by decide)
        rw [hr] at hup
        split_ifs at h with hone
        · rw [hone] at hup
          exact absurd hup (by decide)

/-- A regular file that lies below a directory as both are when links are resolved. -/
structure LiesBelow (tree : FileTree) (root path : Str) : Prop where
  below : ∃ real, evalSymlinks tree root = some real ∧ kept real <+: kept path
  real : Real tree path
  regular : stat tree path = some .regular

section

variable {tree : FileTree} {cwd : Str}

/-- An accepted path is where the path given leads, and lies below a directory. -/
theorem below_of_validate {userPath outsideErr p : Str} {candidates roots : List Str}
    (hcandidates : ∀ c ∈ candidates, isAbs c = true ∧ clean c = c)
    (hroots : dedupedResolvedRoots tree candidates = .ok roots)
    (h : validatePathUnderRoots tree cwd userPath roots outsideErr = .ok p) :
  evalSymlinks tree (absPath cwd (trimSpace userPath)) = some p ∧ ∃ c ∈ candidates, LiesBelow tree c p
  := by
  simp only [validatePathUnderRoots, refuse_if_eq_ok_iff] at h
  obtain ⟨-, -, h⟩ := h
  split at h
  · cases h
  · rename_i resolved hresolved
    rw [refuse_if_eq_ok_iff] at h
    obtain ⟨hunder, h⟩ := h
    split_ifs at h with hregular
    rw [Except.ok.injEq] at h
    subst h
    refine ⟨hresolved, ?_⟩
    rw [dedupedResolvedRoots, refuse_if_eq_ok_iff, Except.ok.injEq] at hroots
    rw [Bool.not_eq_false, pathUnderAnyRoot, List.any_eq_true, ← hroots.2] at hunder
    obtain ⟨root, hmem, hunder⟩ := hunder
    rw [List.mem_eraseDups, List.mem_map] at hmem
    obtain ⟨c, hc, rfl⟩ := hmem
    obtain ⟨habs, hclean⟩ := hcandidates c hc
    have hreal := real_of_evalSymlinks hresolved
    refine ⟨c, hc, ?_, hreal, hregular⟩
    cases hresolve : evalSymlinks tree c with
    | some r =>
        rw [resolvedRoot, hresolve, Option.getD_some] at hunder
        exact ⟨r, rfl, (prefix_of_pathUnderRoot (real_of_evalSymlinks hresolve).1 hunder).2⟩
    | none =>
        -- a directory above a real place is real, so it could have been resolved
        rw [resolvedRoot, hresolve, Option.getD_none] at hunder
        have hroot := (prefix_of_pathUnderRoot habs hunder).2
        rw [evalSymlinks_real hclean (hreal.above habs hroot)] at hresolve
        cases hresolve

theorem reportCandidates_cleaned (hcwd : isAbs cwd = true) (workDir : Str) :
  ∀ c ∈ reportCandidates cwd workDir, isAbs c = true ∧ clean c = c
  := by
  have habs := absPath_cleaned hcwd (trimSpace workDir)
  have hdir : isAbs (dir (absPath cwd (trimSpace workDir))) = true := by
    rw [← habs.2, clean_eq_render, habs.1]
    apply (kept_dir _).1
    rw [← habs.1]
    apply cleaned_kept
  intro c hc
  simp only [reportCandidates, List.mem_append, List.mem_singleton] at hc
  rcases hc with hc | rfl
  · split_ifs at hc
    · cases hc
    · simp only [List.mem_cons, List.not_mem_nil, or_false] at hc
      rcases hc with rfl | rfl
      · apply habs
      · obtain ⟨hjoin, hclean⟩ := joinPath_pair (cwd_ne_nil hdir) (str "reports")
        exact ⟨hjoin.trans hdir, hclean⟩
  · obtain ⟨hjoin, hclean⟩ := joinPath_pair (cwd_ne_nil hcwd) (str "reports")
    exact ⟨hjoin.trans hcwd, hclean⟩

theorem manifest_below (hcwd : isAbs cwd = true) {workDir userPath p : Str}
    (h : resolveServerLocalManifestPath tree cwd workDir userPath = .ok p) :
  evalSymlinks tree (absPath cwd (trimSpace userPath)) = some p
    ∧ LiesBelow tree (absPath cwd (trimSpace workDir)) p
  := by
  obtain ⟨roots, hroots, h⟩ := bind_eq_ok_iff.mp h
  rw [allowedManifestRoots, refuse_if_eq_ok_iff] at hroots
  obtain ⟨hleads, c, hc, hbelow⟩ := below_of_validate
    (List.forall_mem_singleton.mpr (absPath_cleaned hcwd _)) hroots.2 h
  rw [List.mem_singleton] at hc
  rw [hc] at hbelow
  exact ⟨hleads, hbelow⟩

/-- A path that is accepted leads, over whatever links, to a regular file that really lies below the
working directory of the server; or, for reports, below one of the directories for reports. -/
theorem server_local_contained (hcwd : isAbs cwd = true) (workDir userPath p : Str) :
  (resolveServerLocalManifestPath tree cwd workDir userPath = .ok p →
      evalSymlinks tree (absPath cwd (trimSpace userPath)) = some p
        ∧ LiesBelow tree (absPath cwd (trimSpace workDir)) p)
    ∧ (resolveServerLocalReportPath tree cwd workDir userPath = .ok p →
      evalSymlinks tree (absPath cwd (trimSpace userPath)) = some p
        ∧ ∃ root ∈ reportCandidates cwd workDir, LiesBelow tree root p)
  := by
  constructor
  · apply manifest_below hcwd
  · intro h
    obtain ⟨roots, hroots, h⟩ := bind_eq_ok_iff.mp h
    apply below_of_validate (reportCandidates_cleaned hcwd workDir) hroots h

end

/-- The working directory and the latest report in it are links. -/
def linkedTree (place : List Str) : Option FileKind :=
  if place.reverse = [str "srv"] then some .dir
  else if place.reverse = [str "srv", str "work"] then some (.link (str "/data/work"))
  else if place.reverse = [str "data"] then some .dir
  else if place.reverse = [str "data", str "work"] then some .dir
  else if place.reverse = [str "data", str "work", str "latest"] then some (.link (str "../work/1"))
  else if place.reverse = [str "data", str "work", str "1"] then some .regular
  else none

theorem server_local_contained_linked :
  LiesBelow linkedTree (str "/srv/work") (str "/data/work/1")
  := by
  have hwork : absPath (str "/srv") (trimSpace (str "work")) = str "/srv/work" := by decide +kernel
  have haccepted : resolveServerLocalManifestPath linkedTree (str "/srv") (str "work")
      (str "/data/work/latest") = .ok (str "/data/work/1") := by
    decide +kernel
  have hbelow := ((server_local_contained (by decide) (str "work") (str "/data/work/latest")
    (str "/data/work/1")).1 haccepted).2
  rwa [hwork] at hbelow

end Api
