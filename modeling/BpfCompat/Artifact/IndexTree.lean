import BpfCompat.Artifact.OciImage

/-!
# The first image of a tree of indexes

An index of a layout lists images, further indexes, and what is neither.  The search takes the first
entry that is an image or an index, and does not come back from an index it went into.

It returns the first image in depth-first order, and reports that there is none where there is none,
exactly if it never goes into an index without images while the index before it has one
(`search_complete_iff`).
-/

namespace Artifact

open Go

/-! ### Trees -/

/-- An entry of an index: an image, an index with entries of its own, or something else. -/
inductive IndexEntry where
  | image (desc : Descriptor)
  | index (entries : List IndexEntry)
  | other

mutual

/-- The first image in depth-first order. -/
def IndexEntry.firstImage : IndexEntry → Option Descriptor
  | .image desc => some desc
  | .index entries => Artifact.firstImage entries
  | .other => none

@[inherit_doc IndexEntry.firstImage]
def firstImage : List IndexEntry → Option Descriptor
  | [] => none
  | node :: nodes => node.firstImage.or (firstImage nodes)

end

mutual

/-- How deep indexes are nested. -/
def IndexEntry.height : IndexEntry → Nat
  | .index entries => Artifact.height entries + 1
  | _ => 0

@[inherit_doc IndexEntry.height]
def height : List IndexEntry → Nat
  | [] => 0
  | node :: nodes => max node.height (height nodes)

end

section

variable (fmt : Formats) (fs : FileSystem) (dir : Str)

mutual

/-- What an entry of an index stands for, where all that it refers to can be read. -/
def IndexEntry.Describes (manifests : List Descriptor) (desc : Descriptor) : IndexEntry → Prop
  | .image found =>
    isImage desc.mediaType = true ∧ findDescriptor manifests desc.digest = some found ∧
      isImage found.mediaType = true ∧ (readBlob fs dir found.digest).isSome = true
  | .index entries =>
    isImage desc.mediaType = false ∧ isIndex desc.mediaType = true ∧
      (∃ found, findDescriptor manifests desc.digest = some found ∧
        isIndex found.mediaType = true) ∧
      ∃ raw children, readBlob fs dir desc.digest = some raw ∧
        fmt.indexManifest raw = some children ∧ DescribeAll children children entries
  | .other => isImage desc.mediaType = false ∧ isIndex desc.mediaType = false

@[inherit_doc IndexEntry.Describes]
def DescribeAll (manifests : List Descriptor) : List Descriptor → List IndexEntry → Prop
  | desc :: descs, node :: nodes =>
    node.Describes manifests desc ∧ DescribeAll manifests descs nodes
  | [], [] => True
  | _, _ => False

end

/-- The tree an index is the root of. -/
def IsTree (rawIndex : Str) (nodes : List IndexEntry) : Prop :=
  ∃ manifests, fmt.indexManifest rawIndex = some manifests ∧
    DescribeAll fmt fs dir manifests manifests nodes

end

/-! ### What the search follows -/

/-- Something the search stops at. -/
def IndexEntry.stops : IndexEntry → Bool
  | .other => false
  | _ => true

/-- The entry the search takes. -/
def firstEntry (nodes : List IndexEntry) : Option IndexEntry := nodes.find? IndexEntry.stops

theorem firstImage_of_firstEntry_none {nodes : List IndexEntry} (h : firstEntry nodes = none) :
  firstImage nodes = none
  := by
  induction nodes with
  | nil => rfl
  | cons node nodes ih =>
      rw [firstEntry, List.find?_cons] at h
      split at h
      · cases h
      · next hstops =>
          cases node with
          | image desc => cases hstops
          | index entries => cases hstops
          | other => exact ih h

/-- The images of the entry that is taken come first. -/
theorem firstImage_of_firstEntry {nodes : List IndexEntry} {node : IndexEntry}
    (h : firstEntry nodes = some node) :
  ∃ rest, firstImage nodes = node.firstImage.or rest
  := by
  induction nodes with
  | nil => cases h
  | cons first nodes ih =>
      rw [firstEntry, List.find?_cons] at h
      split at h
      · cases h
        exact ⟨_, rfl⟩
      · next hstops =>
          cases first with
          | image desc => cases hstops
          | index entries => cases hstops
          | other => exact ih h

theorem height_le_of_firstEntry {nodes : List IndexEntry} {node : IndexEntry} (h : firstEntry nodes = some node) :
  node.height ≤ height nodes
  := by
  induction nodes with
  | nil => cases h
  | cons first nodes ih =>
      rw [firstEntry, List.find?_cons] at h
      rw [height]
      split at h
      · cases h
        exact Nat.le_max_left _ _
      · exact (ih h).trans (Nat.le_max_right _ _)

/-- An index without images is the first entry somewhere the search comes to, although the index it
is an entry of has an image. -/
inductive DeadEnd : List IndexEntry → Prop
  | here {nodes entries : List IndexEntry} (hfirst : firstEntry nodes = some (.index entries))
      (hnone : firstImage entries = none) (himage : firstImage nodes ≠ none) : DeadEnd nodes
  | inside {nodes entries : List IndexEntry} (hfirst : firstEntry nodes = some (.index entries))
      (h : DeadEnd entries) : DeadEnd nodes

section

variable {fmt : Formats} {fs : FileSystem} {dir : Str}

/-- The descriptor the search stops at is that of the entry it takes. -/
theorem DescribeAll.find {manifests descs : List Descriptor} {nodes : List IndexEntry}
    (h : DescribeAll fmt fs dir manifests descs nodes) :
  (descs.find? fun desc => isImage desc.mediaType || isIndex desc.mediaType) = none ∧
      firstEntry nodes = none ∨
    ∃ desc node,
      (descs.find? fun desc => isImage desc.mediaType || isIndex desc.mediaType) = some desc ∧
      firstEntry nodes = some node ∧ node.Describes fmt fs dir manifests desc
  := by
  induction descs generalizing nodes with
  | nil =>
      cases nodes with
      | nil => exact .inl ⟨rfl, rfl⟩
      | cons node nodes => cases h
  | cons desc descs ih =>
      cases nodes with
      | nil => cases h
      | cons node nodes =>
          obtain ⟨hnode, hrest⟩ := h
          cases node with
          | image found =>
              refine .inr ⟨desc, _, ?_, rfl, hnode⟩
              rw [List.find?_cons_of_pos]
              simp [hnode.1]
          | index entries =>
              refine .inr ⟨desc, _, ?_, rfl, hnode⟩
              rw [List.find?_cons_of_pos]
              simp [hnode.2.1]
          | other =>
              have hfind := ih hrest
              rw [List.find?_cons_of_neg]
              · exact hfind
              · simp [hnode.1, hnode.2]

/-- One level of the search. -/
theorem search_step (depth : Nat) {rawIndex : Str} {nodes : List IndexEntry}
    (h : IsTree fmt fs dir rawIndex nodes) :
  match firstEntry nodes with
  | some (.image found) =>
    firstImageFromIndex fmt fs dir (depth + 1) rawIndex = .ok (.layout dir found)
  | some (.index entries) =>
    ∃ raw, IsTree fmt fs dir raw entries ∧
      firstImageFromIndex fmt fs dir (depth + 1) rawIndex = firstImageFromIndex fmt fs dir depth raw
  | _ => firstImageFromIndex fmt fs dir (depth + 1) rawIndex = .error .noImage
  := by
  obtain ⟨manifests, hmanifests, hall⟩ := h
  rw [firstImageFromIndex, hmanifests]
  obtain ⟨hfind, hentry⟩ | ⟨desc, node, hfind, hentry, hnode⟩ := hall.find
  · rw [hentry]
    simp only [hfind]
  · rw [hentry]
    simp only [hfind]
    cases node with
    | image found =>
        obtain ⟨himage, hfound, hmedia, -⟩ := hnode
        simp [hfound, himage, hmedia]
    | index entries =>
        obtain ⟨himage, hindex, ⟨found, hfound, hmedia⟩, raw, children, hraw, hchildren, htree⟩ := hnode
        use raw, ⟨children, hchildren, htree⟩
        simp [hfound, himage, hmedia, hraw]
    | other =>
        have hstops := List.find?_some hentry
        cases hstops

/-- The search finds the first image, or nothing. -/
theorem search_sound {depth : Nat} {rawIndex : Str} {nodes : List IndexEntry}
    (h : IsTree fmt fs dir rawIndex nodes) (hdepth : height nodes < depth) :
  firstImageFromIndex fmt fs dir depth rawIndex = .error .noImage ∨
    ∃ desc, firstImageFromIndex fmt fs dir depth rawIndex = .ok (.layout dir desc) ∧
      firstImage nodes = some desc
  := by
  induction depth generalizing rawIndex nodes with
  | zero => cases hdepth
  | succ depth ih =>
      have hstep := search_step depth h
      split at hstep
      · next found hfirst =>
          obtain ⟨rest, hrest⟩ := firstImage_of_firstEntry hfirst
          exact .inr ⟨found, hstep, hrest⟩
      · next entries hfirst =>
          obtain ⟨raw, htree, hsearch⟩ := hstep
          have hheight : height entries + 1 ≤ height nodes := height_le_of_firstEntry hfirst
          obtain ⟨rest, hrest⟩ := firstImage_of_firstEntry hfirst
          rw [hsearch]
          apply (ih htree (by omega)).imp_right
          rintro ⟨desc, hok, himage⟩
          refine ⟨desc, hok, ?_⟩
          rw [hrest, IndexEntry.firstImage, himage, Option.some_or]
      · exact .inl hstep

/-- The search reports that there is no image although there is one exactly at a dead end. -/
theorem deadEnd_iff {depth : Nat} {rawIndex : Str} {nodes : List IndexEntry}
    (h : IsTree fmt fs dir rawIndex nodes) (hdepth : height nodes < depth) :
  DeadEnd nodes ↔ firstImageFromIndex fmt fs dir depth rawIndex = .error .noImage ∧
    firstImage nodes ≠ none
  := by
  induction depth generalizing rawIndex nodes with
  | zero => cases hdepth
  | succ depth ih =>
      have hstep := search_step depth h
      split at hstep
      · next found hfirst =>
          constructor
          · rintro (⟨hindex, -, -⟩ | ⟨hindex, -⟩)
            · rw [hfirst] at hindex
              cases hindex
            · rw [hfirst] at hindex
              cases hindex
          · rintro ⟨herror, -⟩
            rw [hstep] at herror
            cases herror
      · next entries hfirst =>
          obtain ⟨raw, htree, hsearch⟩ := hstep
          have hheight : height entries + 1 ≤ height nodes := height_le_of_firstEntry hfirst
          obtain ⟨rest, hrest⟩ := firstImage_of_firstEntry hfirst
          have hentries := ih htree (by omega)
          rw [hsearch]
          constructor
          · rintro (⟨hindex, hnone, himage⟩ | ⟨hindex, hbelow⟩)
            · rw [hfirst, Option.some_inj, IndexEntry.index.injEq] at hindex
              subst hindex
              refine ⟨?_, himage⟩
              apply (search_sound htree (by omega)).resolve_right
              rintro ⟨desc, -, hsome⟩
              rw [hnone] at hsome
              cases hsome
            · rw [hfirst, Option.some_inj, IndexEntry.index.injEq] at hindex
              subst hindex
              obtain ⟨herror, himage⟩ := hentries.mp hbelow
              refine ⟨herror, ?_⟩
              rw [hrest, IndexEntry.firstImage]
              intro hnone
              exact himage (Option.or_eq_none_iff.mp hnone).1
          · rintro ⟨herror, himage⟩
            by_cases hnone : firstImage entries = none
            · exact .here hfirst hnone himage
            · exact .inside hfirst (hentries.mpr ⟨herror, hnone⟩)
      · next hother himages hindexes =>
          have hnone : firstEntry nodes = none := by
            cases hentry : firstEntry nodes with
            | none => rfl
            | some node =>
                cases node with
                | image found => exact absurd hentry (himages found)
                | index entries => exact absurd hentry (hindexes entries)
                | other => cases List.find?_some hentry
          constructor
          · rintro (⟨hindex, -, -⟩ | ⟨hindex, -⟩)
            · rw [hnone] at hindex
              cases hindex
            · rw [hnone] at hindex
              cases hindex
          · rintro ⟨-, himage⟩
            exact absurd (firstImage_of_firstEntry_none hnone) himage

/-- What the search is for: the first image where there is one, and no complaint of a missing image
otherwise. -/
structure Complete (dir : Str) (nodes : List IndexEntry) (result : Except OciError Image) : Prop where
  found : ∀ desc, firstImage nodes = some desc → result = .ok (.layout dir desc)
  missing : result = .error .noImage → firstImage nodes = none

/-- The search in a layout is complete exactly if it comes to no dead end. -/
theorem search_complete_iff {depth : Nat} {rawIndex : Str} {nodes : List IndexEntry}
    (hread : readFile fs (below dir [str "index.json"]) = some rawIndex)
    (h : IsTree fmt fs dir rawIndex nodes) (hdepth : height nodes < depth) :
  Complete dir nodes (imageFromLayout fmt depth fs dir) ↔ ¬ DeadEnd nodes
  := by
  rw [imageFromLayout, hread, deadEnd_iff h hdepth]
  dsimp only
  constructor
  · rintro hcomplete ⟨herror, himage⟩
    exact himage (hcomplete.missing herror)
  · intro hdead
    constructor
    · intro desc hdesc
      obtain herror | ⟨found, hok, hfound⟩ := search_sound h hdepth
      · refine absurd ⟨herror, ?_⟩ hdead
        rw [hdesc]
        apply Option.some_ne_none
      · rw [hdesc, Option.some_inj] at hfound
        rw [hok, hfound]
    · intro herror
      by_contra himage
      exact hdead ⟨herror, himage⟩

end

/-! ### A layout with an empty index -/

/-- The descriptors of an index and of an image. -/
def indexDesc : Descriptor := ⟨str "application/vnd.oci.image.index.v1+json", ⟨str "sha256", str "ee"⟩⟩

@[inherit_doc indexDesc]
def imageDesc : Descriptor :=
  ⟨str "application/vnd.oci.image.manifest.v1+json", ⟨str "sha256", str "aa"⟩⟩

/-- Two documents that are indexes: an empty one, and one with the given entries. -/
def indexFormats (root : List Descriptor) : Formats where
  gunzip _ := none
  untar _ := ([], none)
  decompress _ := none
  sha256 s := s
  indexManifest raw := if raw = str "i" then some root else if raw = str "e" then some [] else none
  manifest _ := none
  dockerImage _ := none
  pull _ := none

/-- The files of a layout with these documents and the manifest of an image. -/
def indexFiles : FileSystem := fun p =>
  if p = below (str "/l") [str "index.json"] then some (.file (str "i"))
  else if p = below (str "/l") [str "blobs", str "sha256", str "ee"] then some (.file (str "e"))
  else if p = below (str "/l") [str "blobs", str "sha256", str "aa"] then some (.file (str "m"))
  else none

/-- Where the image comes before the empty index it is found. -/
theorem image_before_index_found :
  Complete (str "/l") [.image imageDesc, .index []]
    (imageFromLayout (indexFormats [imageDesc, indexDesc]) 2 indexFiles (str "/l"))
  := by
  have htree : IsTree (indexFormats [imageDesc, indexDesc]) indexFiles (str "/l") (str "i")
      [.image imageDesc, .index []] :=
    ⟨_, rfl, ⟨rfl, rfl, rfl, rfl⟩, ⟨rfl, rfl, ⟨indexDesc, rfl, rfl⟩, _, _, rfl, rfl, trivial⟩, trivial⟩
  apply (search_complete_iff rfl htree (by decide)).mpr
  rintro (⟨hfirst, -, -⟩ | ⟨hfirst, -⟩)
  · cases hfirst
  · cases hfirst

/-- An empty index before an image hides the image. -/
theorem empty_index_hides_image :
  IsTree (indexFormats [indexDesc, imageDesc]) indexFiles (str "/l") (str "i")
      [.index [], .image imageDesc] ∧
    ¬ Complete (str "/l") [.index [], .image imageDesc]
      (imageFromLayout (indexFormats [indexDesc, imageDesc]) 2 indexFiles (str "/l"))
  := by
  constructor
  · exact ⟨_, rfl, ⟨rfl, rfl, ⟨indexDesc, rfl, rfl⟩, _, _, rfl, rfl, trivial⟩, ⟨rfl, rfl, rfl, rfl⟩,
      trivial⟩
  · intro hcomplete
    have hfound := hcomplete.found imageDesc rfl
    cases hfound

end Artifact
