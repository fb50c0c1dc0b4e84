import BpfCompat.Go.Collections
import BpfCompat.Go.Join

/-!
# Unpacking an archive

An image may come as an archive, which is unpacked into a fresh directory.  The archive is not
trusted: its entries may have any names, kinds and sizes, and it may be cut off.  `extractTar`
writes only below the directory, creates every file anew, and stops before it has written more
than a bound or looked at more entries than a bound (`extraction_contained`).

The file system is a tree, addressed by the components of cleaned paths.  What the disk refuses to
do is a parameter, and so an error may end the extraction at any point.
-/

namespace Artifact

open Go

/-! ### The file system -/

/-- A place in the file system: the components of a path, from the root or from the working
directory. -/
structure Place where
  rooted : Bool
  components : List Str
deriving DecidableEq

/-- The place a path names. -/
def place (path : Str) : Place := ⟨isAbs path, kept path⟩

inductive Node where
  | dir
  | file (content : Str)
deriving DecidableEq

/-- What stands at each place. -/
abbrev FileSystem : Type := Place → Option Node

def FileSystem.set (fs : FileSystem) (at' : Place) (node : Node) : FileSystem :=
  fun p => if p = at' then some node else fs p

/-- What the disk is willing to do: make a directory, create a file, take so many bytes of it, and
close it. -/
structure Disk where
  mkdir : Place → Bool
  create : Place → Bool
  room : Place → Nat
  close : Place → Bool

/-- Directories are made from the top; the components of the path are given last one first.  The
result says whether the directory is there. -/
def mkdirAllFrom (disk : Disk) (rooted : Bool) (fs : FileSystem) : List Str → FileSystem × Bool
  | [] => (fs, true)
  | name :: parents =>
    let here : Place := ⟨rooted, (name :: parents).reverse⟩
    match fs here with
    | some .dir => (fs, true)
    | some (.file _) => (fs, false)
    | none =>
      let (fs, ok) := mkdirAllFrom disk rooted fs parents
      if ok && disk.mkdir here then (fs.set here .dir, true) else (fs, false)

def mkdirAll (disk : Disk) (fs : FileSystem) (path : Str) : FileSystem × Bool :=
  mkdirAllFrom disk (isAbs path) fs (kept path).reverse

/-- A file can be created exclusively: where there is nothing, in a directory. -/
def creatable (disk : Disk) (fs : FileSystem) (path : Str) : Bool :=
  let here := place path
  (fs here).isNone && disk.create here &&
    (here.components.dropLast = [] || fs ⟨here.rooted, here.components.dropLast⟩ = some .dir)

/-! ### The source -/

/-- A header of the archive, and the bytes that follow it, as many as the stream has. -/
structure Entry where
  name : Str
  typeflag : UInt8
  size : Int64
  data : Str

def typeReg : UInt8 := '0'.toUInt8

def typeDir : UInt8 := '5'.toUInt8

inductive ExtractError where
  | stream (reason : Str)
  | tooManyEntries
  | escapes (entry : Str)
  | tooLarge
  | io
deriving DecidableEq

def safeJoin (dir entry : Str) : Except ExtractError Str :=
  let target := joinPath [dir, entry]
  let cleanDir := clean dir ++ str "/"
  if cleanDir.isPrefixOf (clean target ++ str "/") then .ok target else .error (.escapes entry)

/-- What an extraction has done so far: the file system, the bytes it has written, the running
total of sizes, and how many entries it has looked at. -/
structure Progress where
  fs : FileSystem
  written : Nat := 0
  totalBytes : Int64 := 0
  entries : Nat := 0

/-- A directory of the archive. -/
def extractDir (disk : Disk) (s : Progress) (target : Str) : Progress × Option ExtractError :=
  let (fs, ok) := mkdirAll disk s.fs target
  ({ s with fs := fs }, if ok then none else some .io)

/-- A new file and its bytes.  As many are written as the stream and the disk have. -/
def copyN (disk : Disk) (s : Progress) (target : Str) (entry : Entry) :
    Progress × Option ExtractError :=
  let here := place target
  let n := entry.size.toInt.toNat
  let content := entry.data.take (min n (disk.room here))
  ({ s with fs := s.fs.set here (.file content), written := s.written + content.length },
    if content.length < n ∨ ¬ disk.close here then some .io else none)

/-- A file of the archive. -/
def extractFile (disk : Disk) (s : Progress) (maxBytes : Int64) (target : Str) (entry : Entry) :
    Progress × Option ExtractError :=
  if entry.size < 0 ∨ maxBytes - s.totalBytes < entry.size then (s, some .tooLarge)
  else
    let (fs, ok) := mkdirAll disk s.fs (dir target)
    let s := { s with fs := fs, totalBytes := s.totalBytes + entry.size }
    if ok && creatable disk s.fs target then copyN disk s target entry else (s, some .io)

/-- One entry; what is neither a directory nor a file is passed over. -/
def extractEntry (disk : Disk) (dstDir : Str) (maxBytes : Int64) (maxEntries : Nat) (s : Progress)
    (entry : Entry) : Progress × Option ExtractError :=
  if maxEntries < s.entries + 1 then (s, some .tooManyEntries)
  else
    let s := { s with entries := s.entries + 1 }
    match safeJoin dstDir entry.name with
    | .error err => (s, some err)
    | .ok target =>
      if entry.typeflag = typeDir then extractDir disk s target
      else if entry.typeflag = typeReg then extractFile disk s maxBytes target entry
      else (s, none)

/-- The loop through the entries.  The stream may end in an error. -/
def extractEntries (disk : Disk) (dstDir : Str) (maxBytes : Int64) (maxEntries : Nat)
    (streamError : Option Str) : Progress → List Entry → Progress × Option ExtractError
  | s, [] => (s, streamError.map .stream)
  | s, entry :: rest =>
    match extractEntry disk dstDir maxBytes maxEntries s entry with
    | (s, some err) => (s, some err)
    | (s, none) => extractEntries disk dstDir maxBytes maxEntries streamError s rest

def extractTarWithLimits (disk : Disk) (fs : FileSystem) (dstDir : Str) (maxBytes : Int64)
    (maxEntries : Nat) (stream : List Entry) (streamError : Option Str) :
    Progress × Option ExtractError :=
  extractEntries disk dstDir maxBytes maxEntries streamError { fs := fs } stream

def maxOCIArchiveExpandedBytes : Int64 := 8589934592

def maxOCIArchiveEntries : Nat := 100000

def extractTar (disk : Disk) (fs : FileSystem) (dstDir : Str) (stream : List Entry)
    (streamError : Option Str) : Progress × Option ExtractError :=
  extractTarWithLimits disk fs dstDir maxOCIArchiveExpandedBytes maxOCIArchiveEntries stream
    streamError

/-! ### What lies inside -/

/-- The last component of the destination is a name. -/
def Named (dstDir : Str) : Prop := ∃ front name, kept dstDir = front ++ [name] ∧ name ≠ str ".."

/-- A place that is the destination or below it. -/
def Inside (dstDir : Str) (p : Place) : Prop :=
  p.rooted = isAbs dstDir ∧ ∃ rest, p.components = kept dstDir ++ rest ∧ str ".." ∉ rest

/-- Above everything there are directories. -/
def Tree (fs : FileSystem) : Prop :=
  ∀ rooted components name, fs ⟨rooted, components ++ [name]⟩ ≠ none → components ≠ [] →
    fs ⟨rooted, components⟩ = some .dir

theorem Named.ne_nil {dstDir : Str} (h : Named dstDir) :
  dstDir ≠ []
  := by
  rintro rfl
  obtain ⟨front, name, hkept, -⟩ := h
  have hnil : kept [] = [] := by decide
  rw [hnil] at hkept
  simp at hkept

/-- What a name is joined to lies inside, or is refused. -/
theorem inside_of_safeJoin {dstDir entry target : Str} (hdst : Named dstDir)
    (h : safeJoin dstDir entry = .ok target) :
  Inside dstDir (place target) ∧ clean target = target
  := by
  rw [safeJoin] at h
  split_ifs at h with hprefix
  cases h
  obtain ⟨habs, hclean⟩ := joinPath_pair hdst.ne_nil entry
  obtain ⟨front, name, hkept, hname⟩ := hdst
  refine ⟨⟨habs, ?_⟩, hclean⟩
  rw [List.isPrefixOf_iff_prefix, clean_eq_render, clean_eq_render, habs] at hprefix
  have hpre : kept dstDir <+: kept (joinPath [dstDir, entry]) := by
    apply prefix_of_render _ (fun _ => component_of_mem_kept) (fun _ => component_of_mem_kept) hprefix
    rw [hkept]
    exact List.concat_ne_nil name front
  obtain ⟨rest, hrest⟩ := hpre
  refine ⟨rest, hrest.symm, ?_⟩
  have hcleaned := cleaned_kept (joinPath [dstDir, entry])
  rw [← hrest, hkept, List.reverse_append, List.reverse_append] at hcleaned
  rw [← List.mem_reverse]
  exact Cleaned.dots_notMem hcleaned hname

/-! ### Making directories and files -/

section

variable {fs : FileSystem}

/-- What stands somewhere stays there. -/
def Extends (fs fs' : FileSystem) : Prop := ∀ p node, fs p = some node → fs' p = some node

theorem Extends.trans {fs' fs'' : FileSystem} (h : Extends fs fs') (h' : Extends fs' fs'') :
  Extends fs fs''
  := fun p node hp => h' p node (h p node hp)

theorem extends_set {here : Place} (hnone : fs here = none) (node : Node) :
  Extends fs (fs.set here node)
  := by
  intro p node' hp
  rw [FileSystem.set, if_neg, hp]
  rintro rfl
  rw [hnone] at hp
  cases hp

/-- A tree with a new leaf below a directory is a tree. -/
theorem Tree.set (h : Tree fs) {rooted : Bool} {front : List Str} {name : Str}
    (hnone : fs ⟨rooted, front ++ [name]⟩ = none)
    (hparent : front = [] ∨ fs ⟨rooted, front⟩ = some .dir) (node : Node) :
  Tree (fs.set ⟨rooted, front ++ [name]⟩ node)
  := by
  intro r cs n hn hcs
  apply extends_set hnone
  by_cases hhere : (⟨r, cs ++ [n]⟩ : Place) = ⟨rooted, front ++ [name]⟩
  · rw [Place.mk.injEq, List.append_singleton_inj] at hhere
    obtain ⟨rfl, rfl, rfl⟩ := hhere
    exact hparent.resolve_left hcs
  · rw [FileSystem.set, if_neg hhere] at hn
    exact h r cs n hn hcs

/-- Above a directory there are only directories. -/
theorem Tree.above (h : Tree fs) {rooted : Bool} {components front : List Str}
    (hdir : fs ⟨rooted, components⟩ = some .dir) (hfront : front <+: components) (hne : front ≠ []) :
  fs ⟨rooted, front⟩ = some .dir
  := by
  obtain ⟨rest, rfl⟩ := hfront
  induction rest using List.reverseRecOn with
  | nil => rwa [List.append_nil] at hdir
  | append_singleton rest name ih =>
      apply ih
      rw [← List.append_assoc] at hdir
      apply h rooted (front ++ rest) name
      · rw [hdir]
        exact Option.some_ne_none _
      · exact List.append_ne_nil_of_left_ne_nil hne rest

/-- Making a directory changes nothing but the directories on its path, and leaves a tree. -/
structure Made (fs fs' : FileSystem) (rooted : Bool) (components : List Str) : Prop where
  tree : Tree fs'
  keeps : Extends fs fs'
  new : ∀ p, fs p = none → fs' p ≠ none →
    p.rooted = rooted ∧ p.components <+: components ∧ p.components ≠ []

theorem made_refl (h : Tree fs) (rooted : Bool) (components : List Str) :
  Made fs fs rooted components
  := ⟨h, fun _ _ hp => hp, fun _ hnone hsome => absurd hnone hsome⟩

/-- One directory more below those that were made. -/
theorem Made.set {fs' : FileSystem} {rooted : Bool} {front : List Str} {name : Str}
    (h : Made fs fs' rooted front) (hnone : fs ⟨rooted, front ++ [name]⟩ = none)
    (hparent : front = [] ∨ fs' ⟨rooted, front⟩ = some .dir) :
  Made fs (fs'.set ⟨rooted, front ++ [name]⟩ .dir) rooted (front ++ [name])
  := by
  have hnone' : fs' ⟨rooted, front ++ [name]⟩ = none := by
    by_contra hsome
    have hlength := (h.new _ hnone hsome).2.1.length_le
    simp at hlength
  refine ⟨h.tree.set hnone' hparent .dir, h.keeps.trans (extends_set hnone' .dir), ?_⟩
  intro p hp hp'
  rw [FileSystem.set] at hp'
  split_ifs at hp' with hhere
  · rw [hhere]
    exact ⟨rfl, List.prefix_rfl, List.concat_ne_nil name front⟩
  · obtain ⟨hrooted, hunder, hne⟩ := h.new p hp hp'
    exact ⟨hrooted, hunder.trans (List.prefix_append front [name]), hne⟩

theorem made_mkdirAllFrom (disk : Disk) (rooted : Bool) (h : Tree fs) (parents : List Str) :
  Made fs (mkdirAllFrom disk rooted fs parents).1 rooted parents.reverse ∧
    ((mkdirAllFrom disk rooted fs parents).2 = true → parents.reverse = [] ∨
      (mkdirAllFrom disk rooted fs parents).1 ⟨rooted, parents.reverse⟩ = some .dir)
  := by
  induction parents with
  | nil => exact ⟨made_refl h rooted [], fun _ => .inl rfl⟩
  | cons name parents ih =>
      rw [mkdirAllFrom]
      split
      · next hdir => exact ⟨made_refl h rooted _, fun _ => .inr hdir⟩
      · exact ⟨made_refl h rooted _, fun hok => by cases hok⟩
      · next hnone =>
          obtain ⟨hmade, hdir⟩ := ih
          rw [List.reverse_cons] at hnone ⊢
          dsimp only
          split_ifs with hok
          · rw [Bool.and_eq_true] at hok
            refine ⟨hmade.set hnone (hdir hok.1), fun _ => .inr ?_⟩
            exact if_pos rfl
          · refine ⟨⟨hmade.tree, hmade.keeps, ?_⟩, fun hok => by cases hok⟩
            intro p hp hp'
            obtain ⟨hrooted, hunder, hne⟩ := hmade.new p hp hp'
            exact ⟨hrooted, hunder.trans (List.prefix_append _ [name]), hne⟩

theorem made_mkdirAll (disk : Disk) (h : Tree fs) (path : Str) :
  Made fs (mkdirAll disk fs path).1 (isAbs path) (kept path) ∧
    ((mkdirAll disk fs path).2 = true → kept path = [] ∨
      (mkdirAll disk fs path).1 ⟨isAbs path, kept path⟩ = some .dir)
  := by
  have hmade := made_mkdirAllFrom disk (isAbs path) h (kept path).reverse
  rwa [List.reverse_reverse] at hmade

/-- A directory made on the way to a place inside the destination lies inside: those above the
destination are there already. -/
theorem Made.inside {fs' : FileSystem} {dstDir : Str} {rooted : Bool} {components rest : List Str}
    (h : Made fs fs' rooted components) (htree : Tree fs) (hdst : fs (place dstDir) = some .dir)
    (hrooted : rooted = isAbs dstDir) (hcomponents : components <+: kept dstDir ++ rest)
    (hdots : str ".." ∉ rest) {p : Place} (hnone : fs p = none) (hsome : fs' p ≠ none) :
  Inside dstDir p
  := by
  obtain ⟨hr, hunder, hne⟩ := h.new p hnone hsome
  rcases List.prefix_or_prefix_of_prefix (hunder.trans hcomponents)
    (List.prefix_append (kept dstDir) rest) with habove | hbelow
  · have hdir := htree.above hdst habove hne
    rw [hrooted] at hr
    rw [← hr] at hdir
    exact absurd hnone (hdir ▸ Option.some_ne_none _)
  · obtain ⟨below, hbelow⟩ := hbelow
    refine ⟨hr.trans hrooted, below, hbelow.symm, ?_⟩
    have hsub := hunder.trans hcomponents
    rw [← hbelow, List.prefix_append_right_inj] at hsub
    exact fun hmem => hdots (hsub.subset hmem)

end

/-! ### One entry -/

section

variable (dstDir : Str) (maxBytes : Int64) (maxEntries : Nat) (start : FileSystem)

/-- What holds throughout an extraction: the file system is a tree with the destination in it,
nothing of what stood there before the extraction has changed, all else lies inside; and the bounds
are kept. -/
structure Contained (s : Progress) : Prop where
  tree : Tree s.fs
  destination : s.fs (place dstDir) = some .dir
  keeps : Extends start s.fs
  inside : ∀ p, start p = none → s.fs p ≠ none → Inside dstDir p
  written : (s.written : Int) ≤ s.totalBytes.toInt
  total : s.totalBytes.toInt ≤ max 0 maxBytes.toInt
  entries : s.entries ≤ maxEntries

variable {dstDir maxBytes maxEntries start} {s : Progress}

/-- A file system in which only new things inside the destination have appeared. -/
theorem Contained.extend (h : Contained dstDir maxBytes maxEntries start s) {fs : FileSystem}
    (htree : Tree fs) (hkeeps : Extends s.fs fs)
    (hnew : ∀ p, s.fs p = none → fs p ≠ none → Inside dstDir p) :
  Contained dstDir maxBytes maxEntries start { s with fs := fs }
  := by
  refine ⟨htree, hkeeps _ _ h.destination, h.keeps.trans hkeeps, ?_, h.written, h.total, h.entries⟩
  intro p hp hp'
  by_cases hs : s.fs p = none
  · exact hnew p hs hp'
  · exact h.inside p hp hs

/-- A directory of the archive lies inside, with all that is made on the way to it. -/
theorem Contained.extractDir (h : Contained dstDir maxBytes maxEntries start s) (disk : Disk)
    {target : Str} (htarget : Inside dstDir (place target)) :
  Contained dstDir maxBytes maxEntries start (extractDir disk s target).1 ∧
    Extends s.fs (extractDir disk s target).1.fs
  := by
  obtain ⟨hrooted, rest, hrest, hdots⟩ := htarget
  obtain ⟨hmade, -⟩ := made_mkdirAll disk h.tree target
  refine ⟨h.extend hmade.tree hmade.keeps ?_, hmade.keeps⟩
  intro p hp hp'
  apply hmade.inside h.tree h.destination hrooted _ hdots hp hp'
  rw [← hrest]
  exact List.prefix_rfl

/-- The running total grows by the size, and stays within the bound. -/
theorem total_add {total size : Int64} (hnonneg : 0 ≤ total.toInt)
    (hbound : total.toInt ≤ max 0 maxBytes.toInt) (hsize : ¬ size < 0)
    (hroom : ¬ maxBytes - total < size) :
  0 ≤ size.toInt ∧ (total + size).toInt = total.toInt + size.toInt ∧
    total.toInt + size.toInt ≤ max 0 maxBytes.toInt
  := by
  have hlow := maxBytes.le_toInt
  have hhigh := maxBytes.toInt_lt
  have hsub : (maxBytes - total).toInt = maxBytes.toInt - total.toInt := by
    rw [Int64.toInt_sub]
    apply Int.bmod_eq_of_le <;> omega
  rw [Int64.lt_iff_toInt_lt, Int64.toInt_zero] at hsize
  rw [Int64.lt_iff_toInt_lt, hsub] at hroom
  have hadd : (total + size).toInt = total.toInt + size.toInt := by
    rw [Int64.toInt_add]
    apply Int.bmod_eq_of_le <;> omega
  exact ⟨by omega, hadd, by omega⟩

theorem Contained.total_nonneg (h : Contained dstDir maxBytes maxEntries start s) :
  0 ≤ s.totalBytes.toInt
  := (Int.natCast_nonneg s.written).trans h.written

/-- Writing a new file inside, of no more bytes than were added to the total. -/
theorem Contained.copyN {total : Int64} (h : Contained dstDir maxBytes maxEntries start s)
    (disk : Disk) {target : Str} (htarget : Inside dstDir (place target)) (hne : kept target ≠ [])
    (hcreatable : creatable disk s.fs target) (entry : Entry)
    (hsize : 0 ≤ entry.size.toInt) (htotal : total.toInt = s.totalBytes.toInt + entry.size.toInt)
    (hbound : total.toInt ≤ max 0 maxBytes.toInt) :
  Contained dstDir maxBytes maxEntries start
      (copyN disk { s with totalBytes := total } target entry).1 ∧
    Extends s.fs (copyN disk { s with totalBytes := total } target entry).1.fs
  := by
  simp only [creatable, Bool.and_eq_true, Option.isNone_iff_eq_none, Bool.or_eq_true,
    decide_eq_true_iff] at hcreatable
  obtain ⟨⟨hnone, -⟩, hparent⟩ := hcreatable
  have hplace : place target = ⟨isAbs target, (kept target).dropLast ++ [(kept target).getLast hne]⟩ := by
    rw [place, List.dropLast_append_getLast]
  have htree : Tree (s.fs.set (place target)
      (.file (entry.data.take (min entry.size.toInt.toNat (disk.room (place target)))))) := by
    rw [hplace] at hnone hparent ⊢
    dsimp only at hparent
    rw [List.dropLast_concat] at hparent
    exact h.tree.set hnone hparent _
  have hkeeps := extends_set hnone
    (.file (entry.data.take (min entry.size.toInt.toNat (disk.room (place target)))))
  have hext := h.extend htree hkeeps (by
    intro p hp hp'
    rw [FileSystem.set] at hp'
    split_ifs at hp' with hhere
    · exact hhere ▸ htarget
    · exact absurd hp hp')
  refine ⟨⟨hext.tree, hext.destination, hext.keeps, hext.inside, ?_, hbound, h.entries⟩, hkeeps⟩
  have hlength : (entry.data.take (min entry.size.toInt.toNat (disk.room (place target)))).length ≤
      entry.size.toInt.toNat := by
    rw [List.length_take]
    omega
  have hwritten := h.written
  dsimp only [Artifact.copyN]
  omega

/-- A file of the archive lies inside, is new, and fits. -/
theorem Contained.extractFile (h : Contained dstDir maxBytes maxEntries start s) (hdst : Named dstDir)
    (disk : Disk) {target : Str} (htarget : Inside dstDir (place target))
    (hclean : clean target = target) (entry : Entry) :
  Contained dstDir maxBytes maxEntries start (extractFile disk s maxBytes target entry).1 ∧
    Extends s.fs (extractFile disk s maxBytes target entry).1.fs
  := by
  rw [Artifact.extractFile]
  split_ifs with hsize
  · exact ⟨h, fun _ _ hp => hp⟩
  · rw [not_or] at hsize
    obtain ⟨hnonneg, hadd, hbound⟩ := total_add h.total_nonneg h.total hsize.1 hsize.2
    obtain ⟨hrooted, rest, hrest, hdots⟩ := id htarget
    have hdir := kept_dir (cleaned_kept target)
    rw [← clean_eq_render, hclean] at hdir
    obtain ⟨hmade, -⟩ := made_mkdirAll disk h.tree (dir target)
    rw [hdir.1, hdir.2] at hmade
    have hext : Contained dstDir maxBytes maxEntries start
        { s with fs := (mkdirAll disk s.fs (dir target)).1 } := by
      apply h.extend hmade.tree hmade.keeps
      intro p hp hp'
      apply hmade.inside h.tree h.destination hrooted _ hdots hp hp'
      rw [← hrest]
      exact List.dropLast_prefix _
    have hne : kept target ≠ [] := by
      obtain ⟨front, name, hkept, -⟩ := hdst
      have hkept' : kept target = kept dstDir ++ rest := hrest
      rw [hkept', hkept]
      simp
    dsimp only
    split_ifs with hok
    · rw [Bool.and_eq_true] at hok
      obtain ⟨hcontained, hkeeps⟩ := hext.copyN disk htarget hne hok.2 entry hnonneg hadd
        (hadd ▸ hbound)
      exact ⟨hcontained, hmade.keeps.trans hkeeps⟩
    · refine ⟨⟨hext.tree, hext.destination, hext.keeps, hext.inside, ?_, hadd ▸ hbound, h.entries⟩,
        hmade.keeps⟩
      have hwritten := h.written
      dsimp only
      omega

/-- One entry keeps what holds, and changes nothing that is there. -/
theorem Contained.extractEntry (h : Contained dstDir maxBytes maxEntries start s)
    (hdst : Named dstDir) (disk : Disk) (entry : Entry) :
  Contained dstDir maxBytes maxEntries start (extractEntry disk dstDir maxBytes maxEntries s entry).1 ∧
    Extends s.fs (extractEntry disk dstDir maxBytes maxEntries s entry).1.fs
  := by
  rw [Artifact.extractEntry]
  by_cases hentries : maxEntries < s.entries + 1
  · rw [if_pos hentries]
    exact ⟨h, fun _ _ hp => hp⟩
  · rw [if_neg hentries]
    have hcounted : Contained dstDir maxBytes maxEntries start { s with entries := s.entries + 1 } :=
      ⟨h.tree, h.destination, h.keeps, h.inside, h.written, h.total, Nat.not_lt.mp hentries⟩
    dsimp only
    split
    · exact ⟨hcounted, fun _ _ hp => hp⟩
    · next target hjoin =>
        obtain ⟨htarget, hclean⟩ := inside_of_safeJoin hdst hjoin
        split_ifs
        · exact hcounted.extractDir disk htarget
        · exact hcounted.extractFile hdst disk htarget hclean entry
        · exact ⟨hcounted, fun _ _ hp => hp⟩

/-- The whole run keeps what holds, and from any point on changes nothing that is there. -/
theorem Contained.extractEntries (h : Contained dstDir maxBytes maxEntries start s)
    (hdst : Named dstDir) (disk : Disk) (streamError : Option Str) (stream : List Entry) :
  Contained dstDir maxBytes maxEntries start
      (extractEntries disk dstDir maxBytes maxEntries streamError s stream).1 ∧
    Extends s.fs (extractEntries disk dstDir maxBytes maxEntries streamError s stream).1.fs
  := by
  induction stream generalizing s with
  | nil => exact ⟨h, fun _ _ hp => hp⟩
  | cons entry stream ih =>
      obtain ⟨hentry, hkeeps⟩ := h.extractEntry hdst disk entry
      rw [Artifact.extractEntries]
      split
      · next heq =>
          rw [heq] at hentry hkeeps
          exact ⟨hentry, hkeeps⟩
      · next heq =>
          rw [heq] at hentry hkeeps
          obtain ⟨hrest, hkeeps'⟩ := ih hentry
          exact ⟨hrest, hkeeps.trans hkeeps'⟩

end

/-- A stream in two parts: the second is read when the first ended without an error. -/
theorem extractEntries_append (disk : Disk) (dstDir : Str) (maxBytes : Int64) (maxEntries : Nat)
    (streamError : Option Str) (s : Progress) (front rest : List Entry) :
  extractEntries disk dstDir maxBytes maxEntries streamError s (front ++ rest) =
    match extractEntries disk dstDir maxBytes maxEntries none s front with
    | (s, some err) => (s, some err)
    | (s, none) => extractEntries disk dstDir maxBytes maxEntries streamError s rest
  := by
  induction front generalizing s with
  | nil => rfl
  | cons entry front ih =>
      rw [List.cons_append, extractEntries, extractEntries]
      cases extractEntry disk dstDir maxBytes maxEntries s entry with
      | mk s' outcome =>
          cases outcome with
          | some err => rfl
          | none => exact ih s'

/-- The state after the first entries of a stream. -/
def after (disk : Disk) (fs : FileSystem) (dstDir : Str) (maxBytes : Int64) (maxEntries k : Nat)
    (stream : List Entry) : Progress :=
  (extractTarWithLimits disk fs dstDir maxBytes maxEntries (stream.take k) none).1

/-- Whatever the archive holds, and whether or not the extraction ends in an error: what it creates
lies inside the destination; nothing that was there is changed, before the extraction or after any
of its entries; and the bounds on bytes and on entries are kept. -/
theorem extraction_contained (disk : Disk) (fs : FileSystem) (dstDir : Str) (maxBytes : Int64)
    (maxEntries : Nat) (stream : List Entry) (streamError : Option Str) (hdst : Named dstDir)
    (htree : Tree fs) (hdir : fs (place dstDir) = some .dir) :
  let s := (extractTarWithLimits disk fs dstDir maxBytes maxEntries stream streamError).1
  (∀ p, fs p = none → s.fs p ≠ none → Inside dstDir p) ∧
    Extends fs s.fs ∧
    (∀ k, Extends (after disk fs dstDir maxBytes maxEntries k stream).fs s.fs) ∧
    (s.written : Int) ≤ max 0 maxBytes.toInt ∧
    s.entries ≤ maxEntries
  := by
  have hstart : Contained dstDir maxBytes maxEntries fs { fs := fs } := by
    refine ⟨htree, hdir, fun _ _ hp => hp, fun _ hp hp' => absurd hp hp', ?_, ?_, Nat.zero_le _⟩
    · exact le_of_eq rfl
    · exact le_max_left 0 _
  obtain ⟨h, hkeeps⟩ := hstart.extractEntries hdst disk streamError stream
  refine ⟨h.inside, hkeeps, ?_, h.written.trans h.total, h.entries⟩
  intro k
  obtain ⟨hk, -⟩ := hstart.extractEntries hdst disk none (stream.take k)
  have hsplit := extractEntries_append disk dstDir maxBytes maxEntries streamError { fs := fs }
    (stream.take k) (stream.drop k)
  rw [List.take_append_drop] at hsplit
  rw [after, extractTarWithLimits, extractTarWithLimits, hsplit]
  split
  · next heq =>
      rw [heq]
      exact fun _ _ hp => hp
  · next heq =>
      rw [heq] at hk ⊢
      exact (hk.extractEntries hdst disk streamError (stream.drop k)).2

/-! ### The directory an archive is unpacked into -/

/-- The fresh directory of an archive: a name with digits, in the directory for such things. -/
def mkdirTemp (tempDir digits : Str) : Str :=
  let name := str "bpfcompat-oci-archive-" ++ digits
  if tempDir.getLast? = some 47 then tempDir ++ name else tempDir ++ 47 :: name

theorem named_append_slash (front : Str) {name : Str} (h : Component name) (hdots : name ≠ str "..") :
  Named (front ++ 47 :: name)
  := by
  use ((front.splitOn 47).foldl (pushComponent (isAbs (front ++ 47 :: name))) []).reverse, name
  refine ⟨?_, hdots⟩
  rw [kept, List.splitOn_append_cons_self, List.splitOn_eq_singleton h.slash, List.foldl_append,
    List.foldl_cons, List.foldl_nil, pushComponent_name _ h.nonempty h.dot hdots, List.reverse_cons]

/-- Its last component is a name. -/
theorem named_mkdirTemp (tempDir : Str) {digits : Str} (hdigits : digits.all isDecimal) :
  Named (mkdirTemp tempDir digits)
  := by
  have hslash : 47 ∉ str "bpfcompat-oci-archive-" ++ digits := by
    rw [List.mem_append, not_or]
    refine ⟨by decide, ?_⟩
    intro hmem
    have hdecimal := List.all_eq_true.mp hdigits 47 hmem
    revert hdecimal
    decide
  obtain ⟨b, rest, hstr⟩ : ∃ b rest, str "bpfcompat-oci-archive-" = 98 :: b :: rest :=
    ⟨_, _, rfl⟩
  have hname : ∀ s : Str, s.head? = some 46 → str "bpfcompat-oci-archive-" ++ digits ≠ s := by
    rintro s hs rfl
    rw [hstr] at hs
    cases hs
  have hcomponent : Component (str "bpfcompat-oci-archive-" ++ digits) := by
    refine ⟨?_, hname _ (by decide), hslash⟩
    rw [hstr]
    exact List.cons_ne_nil _ _
  rw [mkdirTemp]
  split_ifs with hlast
  · obtain ⟨front, rfl⟩ := List.getLast?_eq_some_iff.mp hlast
    rw [List.append_assoc]
    exact named_append_slash front hcomponent (hname _ (by decide))
  · exact named_append_slash tempDir hcomponent (hname _ (by decide))

/-- A disk that refuses nothing. -/
def openDisk : Disk := ⟨fun _ => true, fun _ => true, fun _ => 1000, fun _ => true⟩

/-- A file system with one directory. -/
def freshFS : FileSystem := fun p => if p = ⟨true, [str "d"]⟩ then some .dir else none

/-- An archive with a file and an entry that leads out. -/
def escapingStream : List Entry :=
  [⟨str "a/x", typeReg, 3, str "abc"⟩, ⟨str "../e", typeReg, 1, str "z"⟩]

theorem escaping_stream_contained :
  Named (str "/d") ∧ Tree freshFS ∧ freshFS (place (str "/d")) = some .dir ∧
    (extractTarWithLimits openDisk freshFS (str "/d") 10 5 escapingStream none).2 =
      some (.escapes (str "../e")) ∧
    Inside (str "/d") ⟨true, [str "d", str "a", str "x"]⟩
  := by
  have hdst : Named (str "/d") := ⟨[], str "d", by decide, by decide⟩
  have htree : Tree freshFS := by
    intro rooted components name hsome hne
    rw [freshFS] at hsome
    split_ifs at hsome with heq
    · rw [Place.mk.injEq] at heq
      have hlength := congrArg List.length heq.2
      obtain ⟨c, cs, rfl⟩ := List.exists_cons_of_ne_nil hne
      simp at hlength
    · exact absurd rfl hsome
  have hdir : freshFS (place (str "/d")) = some .dir := by decide
  refine ⟨hdst, htree, hdir, by decide, ?_⟩
  apply (extraction_contained openDisk freshFS (str "/d") 10 5 escapingStream none hdst htree hdir).1
  · decide
  · decide

end Artifact
