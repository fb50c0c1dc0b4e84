import BpfCompat.Go.Path

/-!
# What is remote

An artifact may be named by a path or by a reference to a registry.  The command line decides with
`isOCISource` what a name that is no path stands for, and the action decides with
`is_remote_artifact`, a function of the shell, before there is a file system to look at.

The action calls everything remote that the command line takes for a reference.  What else it calls
remote is path-like, an object, has a scheme, or is `localhost` with nothing or a colon after it and
no slash (`remote_agrees`); what follows the colon need not be a port (`localhost_tag_disagrees`).
-/

namespace Artifact

open Go

/-! ### The command line -/

/-- A reference that can only be a path. -/
def isPathLike (ref : Str) : Bool :=
  ref = str "." || ref = str ".." || isAbs ref || ref.contains 92 ||
    [str "/", str "./", str "../", str "~"].any fun start => start.isPrefixOf ref

section

variable [UnicodeTables]

def looksLikeRegistryRef (ref : Str) : Bool :=
  let ref := trimSpace ref
  if ref = [] || isPathLike ref || decide (str "://" <:+: ref) then false
  else if (str ".bpf.o").isSuffixOf (toLower ref) then false
  else if str "@sha256:" <:+: ref then true
  else
    let first := ref.takeWhile (· ≠ 47)
    if !ref.contains 47 then false
    else first = str "localhost" || first.any fun b => b = 46 || b = 58

/-- What a path names: a directory with the marker of a layout or without, a file with its first bytes
where it can be opened, nothing, or what cannot be looked at. -/
inductive PathState where
  | dir (ociLayout : Bool)
  | file (header : Option Str)
  | missing
  | unreachable

/-- The path names something. -/
def PathState.exists : PathState → Bool
  | .dir _ | .file _ => true
  | _ => false

def fileLooksLikeOCIArchive : Option Str → Bool
  | none => false
  | some content =>
    let header := content.take 512
    if [0x7f, 0x45, 0x4c, 0x46].isPrefixOf header then false
    else if [0x1f, 0x8b].isPrefixOf header then true
    else 263 ≤ header.length && (header.drop 257).take 5 = str "ustar"

/-- Whether a reference is taken for an image.  What parses as a reference is decided elsewhere. -/
def isOCISource (stat : Str → PathState) (parseReference : Str → Bool) (ref : Str) : Bool :=
  if trimSpace ref = [] then false
  else
    match stat ref with
    | .dir ociLayout => ociLayout
    | .file header => fileLooksLikeOCIArchive header
    | .unreachable => false
    | .missing => looksLikeRegistryRef ref && parseReference ref

/-! ### The action -/

/-- The patterns of the shell in turn: `*://*` and `*@sha256:*`; an empty first component, `.` and
`..`; `localhost` and `localhost:*`; and a slash after a component with a dot or a colon. -/
def isRemoteArtifact (a : Str) : Bool :=
  if str "://" <:+: a ∨ str "@sha256:" <:+: a then true
  else
    let first := a.takeWhile (· ≠ 47)
    if first = [] ∨ first = str "." ∨ first = str ".." then false
    else if first = str "localhost" ∨ str "localhost:" <+: first then true
    else a.contains 47 && (first.contains 46 || first.contains 58)

/-! ### The two tests -/

theorem looksLikeRegistryRef_iff {ref : Str} :
  looksLikeRegistryRef ref = true ↔
    (trimSpace ref ≠ [] ∧ isPathLike (trimSpace ref) = false ∧ ¬ str "://" <:+: trimSpace ref
      ∧ (str ".bpf.o").isSuffixOf (toLower (trimSpace ref)) = false)
    ∧ (str "@sha256:" <:+: trimSpace ref ∨ 47 ∈ trimSpace ref ∧
      ((trimSpace ref).takeWhile (· ≠ 47) = str "localhost"
        ∨ 46 ∈ (trimSpace ref).takeWhile (· ≠ 47) ∨ 58 ∈ (trimSpace ref).takeWhile (· ≠ 47)))
  := by
  generalize ht : trimSpace ref = t
  simp only [looksLikeRegistryRef, ht]
  generalize t.takeWhile (· ≠ 47) = first
  split_ifs with hpath hsuffix hdigest hslash
  · simp only [Bool.or_eq_true, decide_eq_true_eq] at hpath
    grind
  · grind
  · simp only [Bool.or_eq_true, decide_eq_true_eq] at hpath
    grind
  · simp only [Bool.or_eq_true, decide_eq_true_eq] at hpath
    grind
  · simp only [Bool.or_eq_true, decide_eq_true_eq] at hpath
    grind

omit [UnicodeTables] in
theorem isRemoteArtifact_iff {a : Str} :
  isRemoteArtifact a = true ↔ str "://" <:+: a ∨ str "@sha256:" <:+: a ∨
    (a.takeWhile (· ≠ 47) ≠ [] ∧ a.takeWhile (· ≠ 47) ≠ str "." ∧ a.takeWhile (· ≠ 47) ≠ str "..")
    ∧ (a.takeWhile (· ≠ 47) = str "localhost" ∨ str "localhost:" <+: a.takeWhile (· ≠ 47)
      ∨ 47 ∈ a ∧ (46 ∈ a.takeWhile (· ≠ 47) ∨ 58 ∈ a.takeWhile (· ≠ 47)))
  := by
  simp only [isRemoteArtifact]
  generalize a.takeWhile (· ≠ 47) = first
  split_ifs with hscheme hdots hlocal
  · grind
  · grind
  · grind
  · grind

/-! ### Trimmed references -/

omit [UnicodeTables] in
theorem infix_of_infix_append {p before m : Str} {q : UInt8 → Prop} (hne : p ≠ [])
    (hp : ∀ b ∈ p, q b) (hbefore : ∀ b ∈ before, ¬ q b) (h : p <:+: before ++ m) :
  p <:+: m
  := by
  induction before with
  | nil => exact h
  | cons x before ih =>
      rw [List.forall_mem_cons] at hbefore
      rw [List.cons_append, List.infix_cons_iff] at h
      obtain h | h := h
      · cases p with
        | nil => exact absurd rfl hne
        | cons y p =>
            rw [List.cons_prefix_cons] at h
            exact absurd (h.1 ▸ hp y List.mem_cons_self) hbefore.1
      · exact ih hbefore.2 h

omit [UnicodeTables] in
/-- Signs that are found in a text are found in what is left of it without white space around. -/
theorem infix_trimSpace {p s : Str} (hne : p ≠ []) (hp : ∀ b ∈ p, 33 ≤ b ∧ b < 128)
    (h : p <:+: s) :
  p <:+: trimSpace s
  := by
  obtain ⟨before, after, hs, hspace⟩ := trimSpace_split s
  have hnot : ∀ b ∈ before ++ after, ¬ (33 ≤ b ∧ b < 128) := by
    intro b hb
    obtain hlt | hle := hspace b hb
    · exact fun h => absurd h.1 (not_le.mpr hlt)
    · exact fun h => absurd h.2 (not_lt.mpr hle)
  rw [hs] at h
  have hright := infix_of_infix_append hne hp (fun b hb => hnot b (List.mem_append_left _ hb)) h
  rw [← List.reverse_infix, List.reverse_append] at hright
  rw [← List.reverse_infix]
  apply infix_of_infix_append (List.reverse_ne_nil_iff.mpr hne) (q := fun b => 33 ≤ b ∧ b < 128)
  · intro b hb
    exact hp b (List.mem_reverse.mp hb)
  · intro b hb
    exact hnot b (List.mem_append_right _ (List.mem_reverse.mp hb))
  · exact hright

omit [UnicodeTables] in
/-- A text with a slash keeps it, and what comes before the slash loses only white space. -/
theorem takeWhile_trimSpace {s : Str} (h : 47 ∈ s) :
  47 ∈ trimSpace s ∧ ∃ before, s.takeWhile (· ≠ 47) = before ++ (trimSpace s).takeWhile (· ≠ 47)
    ∧ ∀ b ∈ before, b < 33 ∨ 128 ≤ b
  := by
  obtain ⟨before, after, hs, hspace⟩ := trimSpace_split s
  have hnot : ∀ b ∈ before ++ after, b ≠ 47 := by
    rintro b hb rfl
    obtain hlt | hle := hspace 47 hb
    · exact absurd hlt (by decide)
    · exact absurd hle (by decide)
  have hmem : 47 ∈ trimSpace s := by
    rw [hs, List.mem_append, List.mem_append] at h
    obtain h | h | h := h
    · exact absurd rfl (hnot 47 (List.mem_append_left _ h))
    · exact h
    · exact absurd rfl (hnot 47 (List.mem_append_right _ h))
  refine ⟨hmem, before, ?_, fun b hb => hspace b (List.mem_append_left _ hb)⟩
  conv_lhs => rw [hs]
  rw [List.takeWhile_append_of_pos, List.takeWhile_append, if_neg]
  · intro hlength
    have hall := List.takeWhile_eq_self_iff.mp ((List.takeWhile_prefix _).eq_of_length hlength)
    simpa using hall 47 hmem
  · intro b hb
    simpa using hnot b (List.mem_append_left _ hb)

omit [UnicodeTables] in
theorem trimSpace_of_forall_not_isSpace {s : Str} (h : ∀ r ∈ runes s, isSpace r.value = false) :
  trimSpace s = s
  := by
  rw [trimSpace, trimBoth_of_forall_not h, ofRunes_runes]

/-! ### Agreement -/

/-- The local host, with nothing or a colon and any text after it, and without a repository. -/
def BareLocalhost (a : Str) : Prop :=
  a = str "localhost" ∨ ∃ rest, a = str "localhost:" ++ rest ∧ 47 ∉ rest

omit [UnicodeTables] in
/-- A reference that is no path has a first component that is neither `.` nor `..`. -/
theorem takeWhile_of_not_isPathLike {ref : Str} (h : isPathLike ref = false) (hslash : 47 ∈ ref) :
  ref.takeWhile (· ≠ 47) ≠ str "." ∧ ref.takeWhile (· ≠ 47) ≠ str ".."
  := by
  obtain ⟨rest, hrest⟩ : ∃ rest, ref = ref.takeWhile (· ≠ 47) ++ 47 :: rest := by
    cases hd : ref.dropWhile (· ≠ 47) with
    | nil =>
        rw [List.dropWhile_eq_nil_iff] at hd
        simpa using hd 47 hslash
    | cons x rest =>
        have hx := List.head?_dropWhile_not (· ≠ 47) ref
        rw [hd] at hx
        obtain rfl : x = 47 := by simpa using hx
        use rest
        rw [← hd, List.takeWhile_append_dropWhile]
  have hstart : ∀ start ∈ [str "/", str "./", str "../", str "~"], start.isPrefixOf ref = false := by
    rw [isPathLike, Bool.or_eq_false_iff] at h
    exact fun start hmem => Bool.eq_false_iff.mpr (List.any_eq_false.mp h.2 start hmem)
  constructor
  · intro hfirst
    rw [hfirst] at hrest
    have hdot := hstart (str "./") (by decide)
    rw [hrest] at hdot
    cases hdot
  · intro hfirst
    rw [hfirst] at hrest
    have hdots := hstart (str "../") (by decide)
    rw [hrest] at hdots
    cases hdots

/-- What the command line takes for a reference is remote for the action. -/
theorem isRemoteArtifact_of_looksLikeRegistryRef {a : Str} (htrim : trimSpace a = a)
    (h : looksLikeRegistryRef a = true) :
  isRemoteArtifact a = true
  := by
  rw [looksLikeRegistryRef_iff, htrim] at h
  rw [isRemoteArtifact_iff]
  obtain ⟨⟨-, hpath, -, -⟩, hdigest | ⟨hslash, hfirst⟩⟩ := h
  · exact .inr (.inl hdigest)
  · obtain ⟨hdot, hdots⟩ := takeWhile_of_not_isPathLike hpath hslash
    have hne : a.takeWhile (· ≠ 47) ≠ [] := by
      intro hnil
      rw [hnil] at hfirst
      revert hfirst
      decide
    refine .inr (.inr ⟨⟨hne, hdot, hdots⟩, ?_⟩)
    obtain hlocal | hsign := hfirst
    · exact .inl hlocal
    · exact .inr (.inr ⟨hslash, hsign⟩)

omit [UnicodeTables] in
/-- What makes a first component a host for the action makes it one without white space around. -/
theorem host_trimSpace {a : Str} (hslash : 47 ∈ a)
    (h : a.takeWhile (· ≠ 47) = str "localhost" ∨ str "localhost:" <+: a.takeWhile (· ≠ 47)
      ∨ 47 ∈ a ∧ (46 ∈ a.takeWhile (· ≠ 47) ∨ 58 ∈ a.takeWhile (· ≠ 47))) :
  (trimSpace a).takeWhile (· ≠ 47) = str "localhost"
    ∨ 46 ∈ (trimSpace a).takeWhile (· ≠ 47) ∨ 58 ∈ (trimSpace a).takeWhile (· ≠ 47)
  := by
  obtain ⟨-, before, hfirst, hspace⟩ := takeWhile_trimSpace hslash
  have hgraphic : ∀ b, 33 ≤ b → b < 128 → b ∉ before := by
    intro b hlow hhigh hb
    obtain hlt | hle := hspace b hb
    · exact absurd hlow (not_le.mpr hlt)
    · exact absurd hhigh (not_lt.mpr hle)
  have hsign : ∀ b, 33 ≤ b → b < 128 → b ∈ a.takeWhile (· ≠ 47) →
      b ∈ (trimSpace a).takeWhile (· ≠ 47) := by
    intro b hlow hhigh hb
    rw [hfirst, List.mem_append] at hb
    exact hb.resolve_left (hgraphic b hlow hhigh)
  obtain hlocal | hlocal | ⟨-, hdot | hcolon⟩ := h
  · left
    rw [hfirst] at hlocal
    have hnil : before = [] := by
      rw [List.eq_nil_iff_forall_not_mem]
      intro b hb
      have hbytes : ∀ b ∈ str "localhost", 33 ≤ b ∧ b < 128 := by decide
      have hrange := hbytes b (hlocal ▸ List.mem_append_left _ hb)
      exact hgraphic b hrange.1 hrange.2 hb
    rwa [hnil, List.nil_append] at hlocal
  · exact .inr (.inr (hsign 58 (by decide) (by decide) (hlocal.subset (by decide))))
  · exact .inr (.inl (hsign 46 (by decide) (by decide) hdot))
  · exact .inr (.inr (hsign 58 (by decide) (by decide) hcolon))

/-- What only the action calls remote. -/
theorem isRemoteArtifact_cases {a : Str} (h : isRemoteArtifact a = true)
    (hcli : looksLikeRegistryRef a = false) :
  isPathLike (trimSpace a) = true ∨ (str ".bpf.o").isSuffixOf (toLower (trimSpace a)) = true
    ∨ BareLocalhost a ∨ str "://" <:+: a
  := by
  by_contra hnone
  simp only [not_or, Bool.not_eq_true] at hnone
  obtain ⟨hpath, hsuffix, hlocal, hscheme⟩ := hnone
  have hscheme' : ¬ str "://" <:+: trimSpace a := by
    obtain ⟨before, after, hsplit, -⟩ := trimSpace_split a
    intro hinfix
    apply hscheme
    rw [hsplit]
    exact hinfix.trans ⟨before, after, by rw [List.append_assoc]⟩
  apply Bool.eq_false_iff.mp hcli
  rw [looksLikeRegistryRef_iff]
  obtain hin | hdigest | ⟨-, hfirst⟩ := isRemoteArtifact_iff.mp h
  · exact absurd hin hscheme
  · have hinfix : str "@sha256:" <:+: trimSpace a :=
      infix_trimSpace (by decide) (by decide) hdigest
    have hne : trimSpace a ≠ [] := by
      intro hnil
      rw [hnil] at hinfix
      revert hinfix
      decide
    exact ⟨⟨hne, hpath, hscheme', hsuffix⟩, .inl hinfix⟩
  · by_cases hslash : 47 ∈ a
    · have hne : trimSpace a ≠ [] := List.ne_nil_of_mem (takeWhile_trimSpace hslash).1
      exact ⟨⟨hne, hpath, hscheme', hsuffix⟩,
        .inr ⟨(takeWhile_trimSpace hslash).1, host_trimSpace hslash hfirst⟩⟩
    · have hall : a.takeWhile (· ≠ 47) = a := by
        rw [List.takeWhile_eq_self_iff]
        intro b hb
        rw [decide_eq_true_iff]
        rintro rfl
        exact hslash hb
      rw [hall] at hfirst
      obtain hfirst | ⟨rest, hrest⟩ | hfirst := hfirst
      · exact absurd (.inl hfirst) hlocal
      · refine absurd (.inr ⟨rest, hrest.symm, fun hmem => hslash ?_⟩) hlocal
        rw [← hrest]
        exact List.mem_append_right _ hmem
      · exact absurd hfirst.1 hslash

/-- What the command line takes for a reference is remote for the action; and what only the action
calls remote is path-like, an object, the bare local host, or has a scheme. -/
theorem remote_agrees {stat : Str → PathState} {parseReference : Str → Bool}
    (hparse : ∀ ref, (∃ r ∈ runes ref, isSpace r.value = true) → parseReference ref = false)
    (a : Str) :
  ((stat a).exists = false → isOCISource stat parseReference a = true → isRemoteArtifact a = true)
  ∧ (isRemoteArtifact a = true → looksLikeRegistryRef a = false →
      isPathLike (trimSpace a) = true ∨ (str ".bpf.o").isSuffixOf (toLower (trimSpace a)) = true
        ∨ BareLocalhost a ∨ str "://" <:+: a)
  := by
  constructor
  · intro hmissing hsource
    obtain ⟨hlooks, hreference⟩ :
        looksLikeRegistryRef a = true ∧ parseReference a = true := by
      unfold isOCISource at hsource
      split_ifs at hsource with hempty
      cases hstat : stat a with
      | dir ociLayout => simp [hstat, PathState.exists] at hmissing
      | file header => simp [hstat, PathState.exists] at hmissing
      | unreachable => simp [hstat] at hsource
      | missing => simpa [hstat] using hsource
    apply isRemoteArtifact_of_looksLikeRegistryRef _ hlooks
    apply trimSpace_of_forall_not_isSpace
    intro r hr
    by_contra hspace
    rw [hparse a ⟨r, hr, by simpa using hspace⟩] at hreference
    cases hreference
  · exact isRemoteArtifact_cases

end

attribute [local instance] asciiTables

/-- A parser that takes what has a slash and no white space. -/
def slashReference (ref : Str) : Bool := ref.contains 47 && (runes ref).all fun r => !isSpace r.value

theorem slashReference_of_isSpace {ref : Str} (h : ∃ r ∈ runes ref, isSpace r.value = true) :
  slashReference ref = false
  := by
  obtain ⟨r, hr, hspace⟩ := h
  rw [slashReference, Bool.and_eq_false_iff]
  right
  rw [List.all_eq_false]
  exact ⟨r, hr, by simp [hspace]⟩

/-- An image of a registry is remote on both sides. -/
theorem registry_image_remote :
  isRemoteArtifact (str "ghcr.io/org/prog.o") = true
  := by
  apply (@remote_agrees _ (fun _ => .missing) slashReference (fun _ => slashReference_of_isSpace)
    (str "ghcr.io/org/prog.o")).1 rfl
  decide

/-- A local image with a tag is remote for the action only, and what follows its colon is no
port. -/
theorem localhost_tag_disagrees :
  isRemoteArtifact (str "localhost:latest") = true
  ∧ looksLikeRegistryRef (str "localhost:latest") = false
  ∧ isPathLike (trimSpace (str "localhost:latest")) = false
  ∧ (str ".bpf.o").isSuffixOf (toLower (trimSpace (str "localhost:latest"))) = false
  ∧ str "localhost:latest" ≠ str "localhost"
  ∧ (¬ ∃ port : Str, str "localhost:latest" = str "localhost:" ++ port ∧ ∀ b ∈ port, isDecimal b = true)
  ∧ ¬ str "://" <:+: str "localhost:latest"
  := by
  refine ⟨by decide, by decide, by decide, by decide, by decide, ?_, by decide⟩
  rintro ⟨port, hport, hdigits⟩
  have hsuffix : str "localhost:latest" = str "localhost:" ++ str "latest" := by decide
  rw [hsuffix, List.append_cancel_left_eq] at hport
  subst hport
  revert hdigits
  decide

end Artifact
