import BpfCompat.Artifact.Archive
import BpfCompat.Go.Encoding

/-!
# The object of an image

An artifact may come in an image: a directory in the layout of OCI, an archive of such a directory
or one that docker saved, or a reference to a registry.  `extractEBPFFromOCI` finds the layer of
the image that holds the eBPF object, and returns its bytes and the digest of the image.

An image of a layout is read when it is asked for: opening it reads the index, and the manifest and
the layers are read from the directory later.  The image of an archive is one of a temporary
directory, which is removed when the image has been opened.  So an archive of a layout never gives
anything.  It gives what the directory gives exactly when that is nothing, or the archive is at the
same time one that docker saved, with the same object and digest (`archive_agrees_iff`).
-/

namespace Artifact

open Go

/-! ### Images -/

/-- A digest, as it stands in a manifest; both parts are empty where it is missing. -/
structure Hash where
  algorithm : Str := []
  hex : Str := []
deriving DecidableEq

structure Descriptor where
  mediaType : Str
  digest : Hash
deriving DecidableEq

structure Manifest where
  config : Descriptor
  layers : List Descriptor

/-- What can be read from an uncompressed layer, and whether reading it ends in an error. -/
structure Stream where
  data : Str
  failed : Bool := false

/-- A layer: its media type, where that is known, and what it reads as. -/
structure Layer where
  mediaType : Option Str
  uncompressed : Option Stream

/-- An image that does not depend on a directory: what its digest and its layers are. -/
structure StoredImage where
  digest : Option Str
  layers : Option (List Layer)

/-- What is read by other packages: the archive and compression formats, the documents of a layout,
the archives of docker, and the registry. -/
structure Formats where
  gunzip : Str → Option Str
  untar : Str → List Entry × Option Str
  decompress : Str → Option Stream
  sha256 : Str → Str
  indexManifest : Str → Option (List Descriptor)
  manifest : Str → Option Manifest
  dockerImage : Str → Option StoredImage
  pull : Str → Option StoredImage

/-- An image.  Of a layout only the place and the descriptor are kept. -/
inductive Image where
  | layout (dir : Str) (desc : Descriptor)
  | stored (image : StoredImage)

/-- The host: its file system and disk, and the name of the next temporary directory. -/
structure OciHost where
  fs : FileSystem
  disk : Disk
  tempDir : Str
  digits : Str

inductive OciError where
  | notFound
  | noIndex
  | badIndex
  | noImage
  | tooDeep
  | tempDir
  | extract (err : ExtractError)
  | noLayers
  | noELFLayer
  | readLayer
  | tooLarge
deriving DecidableEq

def readFile (fs : FileSystem) (p : Place) : Option Str :=
  match fs p with
  | some (.file content) => some content
  | _ => none

/-- A place below a directory. -/
def below (dir : Str) (names : List Str) : Place := ⟨isAbs dir, kept dir ++ names.filter (· ≠ [])⟩

/-- A directory and all that is below it are gone. -/
def removeAll (fs : FileSystem) (dir : Str) : FileSystem :=
  fun p => if p.rooted = isAbs dir ∧ kept dir <+: p.components then none else fs p

/-! ### The source -/

def isImage (mediaType : Str) : Bool :=
  mediaType ∈ [str "application/vnd.oci.image.manifest.v1+json",
    str "application/vnd.docker.distribution.manifest.v2+json"]

def isIndex (mediaType : Str) : Bool :=
  mediaType ∈ [str "application/vnd.oci.image.index.v1+json",
    str "application/vnd.docker.distribution.manifest.list.v2+json"]

def readBlob (fs : FileSystem) (dir : Str) (h : Hash) : Option Str :=
  readFile fs (below dir [str "blobs", h.algorithm, h.hex])

def findDescriptor (manifests : List Descriptor) (h : Hash) : Option Descriptor :=
  if h = {} then if manifests.length = 1 then manifests.head? else none
  else manifests.find? fun desc => desc.digest = h

/-- The first image of an index, which may be in an index of its own.  An index that contains
itself would be followed forever; `depth` bounds how far it is. -/
def firstImageFromIndex (fmt : Formats) (fs : FileSystem) (dir : Str) :
    Nat → Str → Except OciError Image
  | 0, _ => .error .tooDeep
  | depth + 1, rawIndex =>
    match fmt.indexManifest rawIndex with
    | none => .error .badIndex
    | some manifests =>
      match manifests.find? fun desc => isImage desc.mediaType || isIndex desc.mediaType with
      | none => .error .noImage
      | some desc =>
        match findDescriptor manifests desc.digest with
        | none => .error .noImage
        | some found =>
          if isImage desc.mediaType then
            if isImage found.mediaType then .ok (.layout dir found) else .error .noImage
          else if isIndex found.mediaType then
            match readBlob fs dir desc.digest with
            | none => .error .noImage
            | some raw => firstImageFromIndex fmt fs dir depth raw
          else .error .noImage

def imageFromLayout (fmt : Formats) (depth : Nat) (fs : FileSystem) (dir : Str) :
    Except OciError Image :=
  match readFile fs (below dir [str "index.json"]) with
  | none => .error .noIndex
  | some rawIndex => firstImageFromIndex fmt fs dir depth rawIndex

/-- The entries of an archive, which may be compressed. -/
def openArchive (fmt : Formats) (bytes : Str) : List Entry × Option Str :=
  if bytes.take 2 = [0x1f, 0x8b] then
    match fmt.gunzip bytes with
    | some plain => fmt.untar plain
    | none => ([], some (str "gzip: invalid header"))
  else fmt.untar bytes

/-- The image of an archive: one that docker saved, or one of a layout, which is unpacked.  The
directory it is unpacked into is removed before the image is returned. -/
def imageFromArchive (fmt : Formats) (depth : Nat) (host : OciHost) (bytes : Str) :
    FileSystem × Except OciError Image :=
  match fmt.dockerImage bytes with
  | some image => (host.fs, .ok (.stored image))
  | none =>
    let dir := mkdirTemp host.tempDir host.digits
    if (host.fs (place dir)).isSome ∨ ¬ host.disk.mkdir (place dir) then (host.fs, .error .tempDir)
    else
      let (stream, streamError) := openArchive fmt bytes
      let (progress, outcome) :=
        extractTar host.disk (host.fs.set (place dir) .dir) dir stream streamError
      let image :=
        match outcome with
        | some err => .error (.extract err)
        | none => imageFromLayout fmt depth progress.fs dir
      (removeAll progress.fs dir, image)

def loadOCIImage (fmt : Formats) (depth : Nat) (host : OciHost) (ref : Str) :
    FileSystem × Except OciError Image :=
  match host.fs (place ref) with
  | some .dir => (host.fs, imageFromLayout fmt depth host.fs ref)
  | some (.file bytes) => imageFromArchive fmt depth host bytes
  | none =>
    match fmt.pull ref with
    | some image => (host.fs, .ok (.stored image))
    | none => (host.fs, .error .notFound)

/-- The manifest of a layout is read when it is asked for. -/
def Image.rawManifest (fs : FileSystem) (dir : Str) (desc : Descriptor) : Option Str :=
  readBlob fs dir desc.digest

def Image.digest (fmt : Formats) (fs : FileSystem) : Image → Option Str
  | .layout dir desc =>
    (rawManifest fs dir desc).map fun raw => str "sha256:" ++ hexEncode (fmt.sha256 raw)
  | .stored image => image.digest

/-- The layer of a digest: the configuration counts as one. -/
def layerByDigest (m : Manifest) (h : Hash) : Option Descriptor :=
  if h = m.config.digest then some m.config else m.layers.find? fun desc => desc.digest = h

def Image.layers (fmt : Formats) (fs : FileSystem) : Image → Option (List Layer)
  | .layout dir desc => do
    let raw ← rawManifest fs dir desc
    let m ← fmt.manifest raw
    m.layers.mapM fun layer => do
      let found ← layerByDigest m layer.digest
      return ⟨some found.mediaType, (readBlob fs dir found.digest).bind fmt.decompress⟩
  | .stored image => image.layers

def gadgetEBPFMediaType : Str := str "application/vnd.gadget.ebpf.program.v1+binary"

def elfMagic : Str := [0x7f, 0x45, 0x4c, 0x46]

def selectEBPFLayer (layers : List Layer) : Option Layer :=
  match layers.find? fun l => l.mediaType = some gadgetEBPFMediaType with
  | some l => some l
  | none =>
    layers.find? fun l =>
      match l.uncompressed with
      | none => false
      | some stream => elfMagic.isPrefixOf (stream.data.take elfMagic.length)

def maxEBPFArtifactBytes : Nat := 512 * 2 ^ 20

/-- The bytes that are written for a layer. -/
def extractLayerToFile (layer : Layer) (maxBytes : Nat) : Except OciError Str :=
  match layer.uncompressed with
  | none => .error .readLayer
  | some stream =>
    if maxBytes < stream.data.length then .error .tooLarge
    else if stream.failed then .error .readLayer
    else .ok stream.data

/-- The object of an image and the digest of the image, which is left empty where it cannot be
computed. -/
def extractFromImage (fmt : Formats) (fs : FileSystem) (image : Image) : Except OciError (Str × Str) :=
  let digest := (image.digest fmt fs).getD []
  match image.layers fmt fs with
  | none => .error .noLayers
  | some layers =>
    if layers.length = 0 then .error .noLayers
    else
      match selectEBPFLayer layers with
      | none => .error .noELFLayer
      | some elf => do
        let bytes ← extractLayerToFile elf maxEBPFArtifactBytes
        return (bytes, digest)

def extractEBPFFromOCI (fmt : Formats) (depth : Nat) (host : OciHost) (ref : Str) :
    Except OciError (Str × Str) :=
  match loadOCIImage fmt depth host ref with
  | (_, .error err) => .error err
  | (fs, .ok image) => extractFromImage fmt fs image

/-! ### Archives of layouts -/

section

variable {fmt : Formats} {depth : Nat} {host : OciHost}

/-- An image of an index of a layout is one of this layout. -/
theorem image_of_index {fs : FileSystem} {dir rawIndex : Str} {image : Image}
    (h : firstImageFromIndex fmt fs dir depth rawIndex = .ok image) :
  ∃ desc, image = .layout dir desc
  := by
  induction depth generalizing rawIndex with
  | zero => cases h
  | succ depth ih =>
      rw [firstImageFromIndex] at h
      split at h
      · cases h
      · split at h
        · cases h
        · split at h
          · cases h
          · next found _ =>
              split_ifs at h
              · cases h
                exact ⟨found, rfl⟩
              · split at h
                · cases h
                · exact ih h

theorem image_of_layout {fs : FileSystem} {dir : Str} {image : Image}
    (h : imageFromLayout fmt depth fs dir = .ok image) :
  ∃ desc, image = .layout dir desc
  := by
  rw [imageFromLayout] at h
  split at h
  · cases h
  · exact image_of_index h

/-- Nothing is left below a directory that was removed. -/
theorem readBlob_removeAll (fs : FileSystem) (dir : Str) (h : Hash) :
  readBlob (removeAll fs dir) dir h = none
  := by
  have hgone : removeAll fs dir (below dir [str "blobs", h.algorithm, h.hex]) = none :=
    if_pos ⟨rfl, List.prefix_append _ _⟩
  rw [readBlob, readFile, hgone]

/-- An image of a directory that was removed has no layers. -/
theorem extractFromImage_removeAll (fs : FileSystem) (dir : Str) (desc : Descriptor) :
  extractFromImage fmt (removeAll fs dir) (.layout dir desc) = .error .noLayers
  := by
  have hlayers : (Image.layout dir desc).layers fmt (removeAll fs dir) = none := by
    rw [Image.layers, Image.rawManifest, readBlob_removeAll]
    rfl
  rw [extractFromImage, hlayers]

/-- An archive that docker did not save gives nothing. -/
theorem archive_gives_nothing {ref bytes : Str} (harchive : host.fs (place ref) = some (.file bytes))
    (hdocker : fmt.dockerImage bytes = none) (result : Str × Str) :
  extractEBPFFromOCI fmt depth host ref ≠ .ok result
  := by
  intro h
  rw [extractEBPFFromOCI, loadOCIImage, harchive] at h
  dsimp only at h
  rw [imageFromArchive, hdocker] at h
  dsimp only at h
  by_cases htemp : (host.fs (place (mkdirTemp host.tempDir host.digits))).isSome ∨
      ¬ host.disk.mkdir (place (mkdirTemp host.tempDir host.digits))
  · rw [if_pos htemp] at h
    cases h
  · rw [if_neg htemp] at h
    split at h
    · cases h
    · next heq =>
        obtain ⟨rfl, himage⟩ := Prod.mk.inj heq
        split at himage
        · cases himage
        · obtain ⟨desc, rfl⟩ := image_of_layout himage
          rw [extractFromImage_removeAll] at h
          cases h

theorem archive_of_docker {ref bytes : Str} (harchive : host.fs (place ref) = some (.file bytes))
    {image : StoredImage} (hdocker : fmt.dockerImage bytes = some image) :
  extractEBPFFromOCI fmt depth host ref = extractFromImage fmt host.fs (.stored image)
  := by
  rw [extractEBPFFromOCI, loadOCIImage, harchive]
  dsimp only
  rw [imageFromArchive, hdocker]

/-- An archive gives what a layout gives exactly when that is nothing, or when the archive is one
that docker saved, whose image has the object and the digest of the layout. -/
theorem archive_agrees_iff {layoutRef archiveRef bytes : Str}
    (harchive : host.fs (place archiveRef) = some (.file bytes)) :
  (∀ object digest, extractEBPFFromOCI fmt depth host layoutRef = .ok (object, digest) →
      extractEBPFFromOCI fmt depth host archiveRef = .ok (object, digest)) ↔
    (∀ result, extractEBPFFromOCI fmt depth host layoutRef ≠ .ok result) ∨
      ∃ image, fmt.dockerImage bytes = some image ∧
        extractFromImage fmt host.fs (.stored image) = extractEBPFFromOCI fmt depth host layoutRef
  := by
  constructor
  · intro hagree
    cases hlayout : extractEBPFFromOCI fmt depth host layoutRef with
    | error err => exact .inl fun result h => by cases h
    | ok result =>
        have harchive' := hagree result.1 result.2 hlayout
        cases hdocker : fmt.dockerImage bytes with
        | none => exact absurd harchive' (archive_gives_nothing harchive hdocker _)
        | some image =>
            rw [archive_of_docker harchive hdocker] at harchive'
            exact .inr ⟨image, rfl, harchive'⟩
  · rintro (hnothing | ⟨image, hdocker, himage⟩) object digest hlayout
    · exact absurd hlayout (hnothing (object, digest))
    · rw [archive_of_docker harchive hdocker, himage, hlayout]

end

/-! ### A layout and its archive -/

/-- The files of a layout with one layer, by their names below it. -/
def layoutFiles : List (List Str × Str) :=
  [([str "index.json"], str "i"), ([str "blobs", str "sha256", str "aa"], str "m"),
    ([str "blobs", str "sha256", str "bb"], elfMagic ++ str "x")]

/-- An archive of it: its files, in order. -/
def layoutEntries : List Entry :=
  layoutFiles.map fun file => ⟨join (str "/") file.1, typeReg, Int64.ofNat file.2.length, file.2⟩

/-- Documents of one byte, and archives that docker saved or did not save. -/
def smallFormats (docker : Option StoredImage) : Formats where
  gunzip _ := none
  untar _ := (layoutEntries, none)
  decompress s := some ⟨s, false⟩
  sha256 s := s
  indexManifest raw :=
    if raw = str "i" then
      some [⟨str "application/vnd.oci.image.manifest.v1+json", ⟨str "sha256", str "aa"⟩⟩]
    else none
  manifest raw :=
    if raw = str "m" then
      some ⟨⟨[], ⟨str "sha256", str "cc"⟩⟩, [⟨gadgetEBPFMediaType, ⟨str "sha256", str "bb"⟩⟩]⟩
    else none
  dockerImage _ := docker
  pull _ := none

/-- A host with the layout and its archive. -/
def layoutHost : OciHost where
  fs p :=
    if p = place (str "/l") ∨ p = place (str "/tmp") then some .dir
    else if p = place (str "/l.tar") then some (.file (str "tar"))
    else (layoutFiles.find? fun file => p = below (str "/l") file.1).map fun file => .file file.2
  disk := openDisk
  tempDir := str "/tmp"
  digits := str "1"

/-- The archive unpacks to the files of the layout, the layout gives its object and its digest, and
the archive gives an error. -/
theorem layout_archive_fails :
  (∀ file ∈ layoutFiles,
      readFile (extractTar openDisk (layoutHost.fs.set (place (str "/tmp/u")) .dir) (str "/tmp/u")
        layoutEntries none).1.fs (below (str "/tmp/u") file.1) = some file.2 ∧
      readFile layoutHost.fs (below (str "/l") file.1) = some file.2) ∧
    extractEBPFFromOCI (smallFormats none) 1 layoutHost (str "/l") =
      .ok (elfMagic ++ str "x", str "sha256:6d") ∧
    extractEBPFFromOCI (smallFormats none) 1 layoutHost (str "/l.tar") = .error .noLayers
  := by
  refine ⟨?_, ?_, ?_⟩
  · decide
  · decide
  · decide

/-- An image as docker saves it, with the object and the digest of the layout. -/
def dockerTwin : StoredImage where
  digest := some (str "sha256:6d")
  layers := some [⟨none, some ⟨elfMagic ++ str "x", false⟩⟩]

/-- With it the archive gives what the layout gives. -/
theorem docker_twin_agrees :
  layoutHost.fs (place (str "/l.tar")) = some (.file (str "tar")) ∧
    extractEBPFFromOCI (smallFormats (some dockerTwin)) 1 layoutHost (str "/l") =
      .ok (elfMagic ++ str "x", str "sha256:6d") ∧
    extractEBPFFromOCI (smallFormats (some dockerTwin)) 1 layoutHost (str "/l.tar") =
      .ok (elfMagic ++ str "x", str "sha256:6d")
  := by
  have harchive : layoutHost.fs (place (str "/l.tar")) = some (.file (str "tar")) := by decide
  have hlayout : extractEBPFFromOCI (smallFormats (some dockerTwin)) 1 layoutHost (str "/l") =
      .ok (elfMagic ++ str "x", str "sha256:6d") := by
    decide
  refine ⟨harchive, hlayout, (archive_agrees_iff harchive).mpr (.inr ⟨dockerTwin, rfl, ?_⟩) _ _ hlayout⟩
  decide

end Artifact
