import BpfCompat.CloudRegistry.Shelf

/-!
# Limits

The limits of a project hold after every sequence of uploads that do not fail after their line was
appended (`uploads_keep_limits`).  One that does has added its record.
-/

namespace CloudRegistry

open Go Go.Json Schema Registry

section

variable [UnicodeTables] {c : Crypto} {limits : QuotaLimits} {env : Surroundings}
  {input : UploadInput} {root : Str} {p q : ProjectDir} {rs : List ArtifactVersionRecord}

/-- The bytes of a file; a missing one has none. -/
def fileSize (p : ProjectDir) (path : Str) : Nat := ((p.files path).map List.length).getD 0

/-- The bytes of the artifact files of some records, each counted once. -/
def totalBytes (p : ProjectDir) (records : List ArtifactVersionRecord) : Nat :=
  ((records.map fun r => r.artifactPath).dedup.map (fileSize p)).sum

omit [UnicodeTables] in
/-- Distinct files are all counted. -/
theorem storageUsageFrom_eq {files : Str → Option Str} {seen : List Str}
    {records : List ArtifactVersionRecord}
    (hnodup : (records.map fun r => trimSpace r.artifactPath).Nodup)
    (hne : ∀ r ∈ records, trimSpace r.artifactPath ≠ [])
    (hseen : ∀ r ∈ records, trimSpace r.artifactPath ∉ seen) :
  storageUsageFrom files seen records
    = (records.map fun r => ((files (trimSpace r.artifactPath)).map List.length).getD 0).sum
  := by
  induction records generalizing seen with
  | nil => rfl
  | cons r records ih =>
      rw [List.map_cons, List.nodup_cons] at hnodup
      rw [List.forall_mem_cons] at hne hseen
      have hcounted : ¬ (trimSpace r.artifactPath = [] ∨ trimSpace r.artifactPath ∈ seen) := by
        rw [not_or]
        exact ⟨hne.1, hseen.1⟩
      rw [storageUsageFrom, if_neg hcounted, List.map_cons, List.sum_cons, ih hnodup.2 hne.2]
      intro r' hr' hmem
      rcases List.mem_cons.mp hmem with heq | hmem
      · apply hnodup.1
        rw [← heq]
        exact List.mem_map_of_mem (f := fun r => trimSpace r.artifactPath) hr'
      · exact hseen.2 r' hr' hmem

omit [UnicodeTables] in
theorem IsUpload.trimSpace_artifact (hroot : SoundRoot root) {s : Shelf} (h : IsUpload root s) :
  trimSpace s.artifact = s.artifact
  := by
  rw [h.artifact]
  apply trimSpace_append_graphic hroot.valid hroot.trimmed hroot.ne_nil h.graphic.1
  have hslash : str "/artifacts/" ≠ [] := by decide
  exact List.append_ne_nil_of_left_ne_nil hslash _

/-- Records of distinct names and versions have distinct artifact files. -/
theorem Shelved.nodup_artifacts {dir : WorkDir} (h : Shelved c root dir rs) :
  (rs.map fun r => r.artifactPath).Nodup
  := by
  apply List.Nodup.map_on _ (List.Nodup.of_map _ h.nodup)
  intro r hr r' hr' hpath
  have hupload := h.uploads r hr
  have hupload' := h.uploads r' hr'
  have heq : (shelf r).artifact = (shelf r').artifact := hpath
  rw [hupload.artifact, hupload'.artifact] at heq
  obtain ⟨hname, hversion, -⟩ := artifactPath_inj hupload.name_id hupload.version_id
    hupload'.name_id hupload'.version_id heq
  exact List.inj_on_of_nodup_map h.nodup hr hr' (Prod.ext hname hversion)

omit [UnicodeTables] in
theorem map_artifact_of_map_shelf {records : List ArtifactVersionRecord}
    (h : records.map shelf = rs.map shelf) :
  (records.map fun r => r.artifactPath) = rs.map fun r => r.artifactPath
  := by
  have hartifact := congrArg (List.map Shelf.artifact) h
  rwa [List.map_map, List.map_map] at hartifact

/-- The bytes of the artifact files of the history. -/
theorem projectStorageUsage_eq (hc : c.Lawful) (hroot : SoundRoot root)
    (h : Shelved c root p.registry rs) :
  projectStorageUsage p = some (rs.map fun r => fileSize p r.artifactPath).sum
  := by
  obtain ⟨records, hread, hshelf⟩ := h.read hc hroot.valid
  obtain ⟨existing, hlist, hperm⟩ := listArtifactVersions_perm hread []
  have hall : (records.filter fun r => ([] : Str) = [] ∨ r.artifactName = []) = records := by
    rw [List.filter_eq_self]
    intro r _
    exact decide_eq_true (.inl rfl)
  rw [hall] at hperm
  have huploads : ∀ r ∈ existing, IsUpload root (shelf r) := by
    intro r hr
    exact h.uploads_read hshelf r (hperm.mem_iff.mp hr)
  have htrim : ∀ r ∈ existing, trimSpace r.artifactPath = r.artifactPath := fun r hr =>
    (huploads r hr).trimSpace_artifact hroot
  have hpaths : (existing.map fun r => trimSpace r.artifactPath)
      = existing.map fun r => r.artifactPath := List.map_congr_left htrim
  have hnodup : (existing.map fun r => trimSpace r.artifactPath).Nodup := by
    rw [hpaths, (hperm.map _).nodup_iff, map_artifact_of_map_shelf hshelf]
    exact h.nodup_artifacts
  have hne : ∀ r ∈ existing, trimSpace r.artifactPath ≠ [] := by
    intro r hr
    rw [htrim r hr]
    show (shelf r).artifact ≠ []
    rw [(huploads r hr).artifact]
    exact List.append_ne_nil_of_left_ne_nil hroot.ne_nil _
  have hsum : (existing.map fun r => fileSize p (trimSpace r.artifactPath)).sum
      = (rs.map fun r => fileSize p r.artifactPath).sum := by
    have hsizes : ∀ l : List ArtifactVersionRecord, (l.map fun r => fileSize p r.artifactPath)
        = (l.map fun r => r.artifactPath).map (fileSize p) := by
      intro l
      rw [List.map_map]
      rfl
    have hexisting : (existing.map fun r => fileSize p (trimSpace r.artifactPath))
        = existing.map fun r => fileSize p r.artifactPath := by
      apply List.map_congr_left
      intro r hr
      rw [htrim r hr]
    rw [hexisting, (hperm.map _).sum_eq, hsizes, hsizes, map_artifact_of_map_shelf hshelf]
  rw [projectStorageUsage, hlist, Option.map_some, storageUsageFrom_eq hnodup hne (by simp),
    ← hsum]
  rfl

/-- The upload does not fail once its line was written, and the line fits. -/
structure Steady (c : Crypto) (env : Surroundings) (input : UploadInput) (p : ProjectDir) :
    Prop where
  closes : env.fault ≠ some .closeIndex
  finds : env.fault ≠ some .findStored
  fits : ∀ payload ∈ input.artifact,
    recordBytes (recordOf c env input p.registry.path (trimSpace input.artifactName)
      (trimSpace input.artifactVersion) payload) + provenanceBytes (historyOf p.registry).length
        < maxLineBytes

/-- What a sequence of steady uploads keeps; an artifact file that no record refers to is one
of an upload that failed later. -/
structure Stocked (c : Crypto) (limits : QuotaLimits) (payloads : Set Str) (root : Str)
    (p : ProjectDir) (rs : List ArtifactVersionRecord) : Prop where
  shelved : Shelved c root p.registry rs
  placed : ∀ r ∈ rs, ∃ content ∈ payloads, p.files r.artifactPath = some content ∧
    (0 < limits.maxArtifactBytes → (content.length : Int) ≤ limits.maxArtifactBytes)
  files : ∀ name version sha content, matchesIDPattern name = true →
    matchesIDPattern version = true → p.files (artifactPath root name version sha) = some content →
      content ∈ payloads ∧ sha = hexEncode (c.sha256 content)
  versions : 0 < limits.maxArtifactVersionsPerName → ∀ name,
    (rs.filter fun r => r.artifactName = name).length ≤ limits.maxArtifactVersionsPerName
  storage : 0 < limits.maxProjectStorageBytes →
    (rs.map fun r => fileSize p r.artifactPath).sum ≤ limits.maxProjectStorageBytes

/-- The artifact files of a directory, in another one. -/
def SameArtifacts (root : Str) (p q : ProjectDir) : Prop :=
  ∀ name version sha, matchesIDPattern name = true → matchesIDPattern version = true →
    q.files (artifactPath root name version sha) = p.files (artifactPath root name version sha)

omit [UnicodeTables] in
theorem SameButTemp.sameArtifacts (h : SameButTemp env p q) (hpath : p.registry.path = root) :
  SameArtifacts root p q
  := by
  intro name version sha hname _
  apply h.files
  rw [tempOf, hpath]
  exact (tempPath_ne_artifactPath hname _).symm

theorem Stocked.of_files {payloads : Set Str} (h : Stocked c limits payloads root p rs)
    (hq : Shelved c root q.registry rs)
    (hsame : ∀ r ∈ rs, q.files r.artifactPath = p.files r.artifactPath)
    (hfiles : ∀ name version sha content, matchesIDPattern name = true →
      matchesIDPattern version = true →
        q.files (artifactPath root name version sha) = some content →
          content ∈ payloads ∧ sha = hexEncode (c.sha256 content)) :
  Stocked c limits payloads root q rs
  := by
  refine ⟨hq, ?_, hfiles, h.versions, ?_⟩
  · intro r hr
    rw [hsame r hr]
    exact h.placed r hr
  · have hsizes : (rs.map fun r => fileSize q r.artifactPath)
        = rs.map fun r => fileSize p r.artifactPath := by
      apply List.map_congr_left
      intro r hr
      rw [fileSize, fileSize, hsame r hr]
    rw [hsizes]
    exact h.storage

/-- The artifact file of a record. -/
theorem Shelved.artifact {dir : WorkDir} (h : Shelved c root dir rs) {r : ArtifactVersionRecord}
    (hr : r ∈ rs) :
  r.artifactPath = artifactPath root r.artifactName r.artifactVersion r.artifactSHA256
  := (h.uploads r hr).artifact

theorem Stocked.of_sameArtifacts {payloads : Set Str} (h : Stocked c limits payloads root p rs)
    (hq : Shelved c root q.registry rs) (hsame : SameArtifacts root p q) :
  Stocked c limits payloads root q rs
  := by
  apply h.of_files hq
  · intro r hr
    have hupload := h.shelved.uploads r hr
    rw [h.shelved.artifact hr]
    exact hsame _ _ _ hupload.name_id hupload.version_id
  · intro name version sha content hname hversion hcontent
    rw [hsame name version sha hname hversion] at hcontent
    exact h.files name version sha content hname hversion hcontent

section

variable {payloads : Set Str} {name version payload : Str}

omit [UnicodeTables] in
/-- Placing an artifact leaves the files of other names and versions alone. -/
theorem Placed.of_ne {sha name' version' sha' : Str} (h : Placed name version payload sha p q env)
    (hpath : p.registry.path = root) (hname : matchesIDPattern name = true)
    (hversion : matchesIDPattern version = true) (hname' : matchesIDPattern name' = true)
    (hversion' : matchesIDPattern version' = true)
    (hne : ¬ (name' = name ∧ version' = version ∧ sha' = sha)) :
  q.files (artifactPath root name' version' sha') = p.files (artifactPath root name' version' sha')
  := by
  apply h.others
  · rw [tempOf, hpath]
    exact (tempPath_ne_artifactPath hname' _).symm
  · rw [hpath]
    intro heq
    exact hne (artifactPath_inj hname' hversion' hname hversion heq)
  · rw [hpath]
    exact reportPath_ne_artifactPath.symm

/-- The artifact file of an upload holds its bytes: what was there before has the same hash. -/
theorem Stocked.artifact_of_placed (h : Stocked c limits payloads root p rs)
    (hinj : Set.InjOn c.sha256 payloads) (hpayload : payload ∈ payloads)
    (hplaced : Placed name version payload (hexEncode (c.sha256 payload)) p q env)
    (hname : matchesIDPattern name = true) (hversion : matchesIDPattern version = true) :
  q.files (artifactPath root name version (hexEncode (c.sha256 payload))) = some payload
  := by
  have hartifact := hplaced.artifact
  rw [h.shelved.path] at hartifact
  rcases hartifact with hnew | ⟨hthere, hsame⟩
  · exact hnew
  · obtain ⟨content, hcontent⟩ := Option.isSome_iff_exists.mp hthere
    obtain ⟨hmem, hhash⟩ := h.files name version _ content hname hversion hcontent
    rw [hsame, hcontent, hinj hmem hpayload (hexEncode_injective hhash.symm)]

/-- Placing an artifact leaves the artifact files of the records alone. -/
theorem Shelved.files_of_placed {sha : Str} (h : Shelved c root p.registry rs)
    (hplaced : Placed name version payload sha p q env) (hname : matchesIDPattern name = true)
    (hversion : matchesIDPattern version = true)
    (hnew : (name, version) ∉ rs.map ArtifactVersionRecord.key) :
  ∀ r ∈ rs, q.files r.artifactPath = p.files r.artifactPath
  := by
  intro r hr
  have hupload := h.uploads r hr
  rw [h.artifact hr]
  apply hplaced.of_ne h.path hname hversion hupload.name_id hupload.version_id
  rintro ⟨hn, hv, -⟩
  have hkey : r.key = (name, version) := Prod.ext hn hv
  exact hnew (hkey ▸ List.mem_map_of_mem hr)

/-- An upload that placed its artifact keeps what is stored. -/
theorem Stocked.of_placed (h : Stocked c limits payloads root p rs)
    (hinj : Set.InjOn c.sha256 payloads) (hpayload : payload ∈ payloads)
    (hplaced : Placed name version payload (hexEncode (c.sha256 payload)) p q env)
    (hname : matchesIDPattern name = true) (hversion : matchesIDPattern version = true)
    (hnew : (name, version) ∉ rs.map ArtifactVersionRecord.key) (dir : WorkDir)
    (hdir : Shelved c root dir rs) :
  Stocked c limits payloads root { q with registry := dir } rs
  := by
  have hsame := h.shelved.files_of_placed hplaced hname hversion hnew
  apply h.of_files (q := { q with registry := dir }) hdir hsame
  intro name' version' sha' content hname' hversion' hcontent
  have hcontent' : q.files (artifactPath root name' version' sha') = some content := hcontent
  by_cases hown : name' = name ∧ version' = version ∧ sha' = hexEncode (c.sha256 payload)
  · obtain ⟨rfl, rfl, rfl⟩ := hown
    rw [h.artifact_of_placed hinj hpayload hplaced hname hversion, Option.some_inj] at hcontent'
    rw [← hcontent']
    exact ⟨hpayload, rfl⟩
  · rw [hplaced.of_ne h.shelved.path hname hversion hname' hversion' hown] at hcontent'
    exact h.files name' version' sha' content hname' hversion' hcontent'

/-- The storage check leaves room for the artifact. -/
theorem room_of_checkStorage (hc : c.Lawful) (hroot : SoundRoot root)
    (h : Shelved c root p.registry rs) {size : Nat}
    (hcheck : checkStorage limits env size p = .ok ())
    (hlimit : 0 < limits.maxProjectStorageBytes) :
  ((rs.map fun r => fileSize p r.artifactPath).sum : Int) + size ≤ limits.maxProjectStorageBytes
  := by
  rw [checkStorage, if_pos hlimit, projectStorageUsage_eq hc hroot h] at hcheck
  cases hfault : failWith env .storageUsage with
  | error e =>
      rw [hfault] at hcheck
      cases hcheck
  | ok u =>
      rw [hfault] at hcheck
      dsimp only at hcheck
      split_ifs at hcheck with hfull
      exact not_lt.mp hfull

/-- An upload that was appended keeps what is stored, with its record. -/
theorem Stocked.add (hc : c.Lawful) (hroot : SoundRoot root)
    (h : Stocked c limits payloads root p rs) (hinj : Set.InjOn c.sha256 payloads)
    (hpayload : payload ∈ payloads) (haccepted : Accepted c limits env input p name version payload)
    (hplaced : Placed name version payload (hexEncode (c.sha256 payload)) p q env) {dir : WorkDir}
    (hdir : Shelved c root dir (rs ++ [recordOf c env input root name version payload])) :
  Stocked c limits payloads root { q with registry := dir }
    (rs ++ [recordOf c env input root name version payload])
  := by
  have hname := haccepted.admitted.name_id
  have hversion := haccepted.admitted.version_id
  obtain ⟨records, hread, hshelf⟩ := h.shelved.read hc hroot.valid
  obtain ⟨hnew, hroom⟩ := checkVersions_eq_ok hread haccepted.admitted.versions
  rw [map_key_of_map_shelf hshelf] at hnew
  have hold := h.of_placed hinj hpayload hplaced hname hversion hnew _ h.shelved
  have hartifact := h.artifact_of_placed hinj hpayload hplaced hname hversion
  refine ⟨hdir, ?_, hold.files, ?_, ?_⟩
  · rw [List.forall_mem_append, List.forall_mem_singleton]
    exact ⟨hold.placed, payload, hpayload, hartifact, haccepted.checked.size⟩
  · intro hlimit name'
    rw [List.filter_append, List.length_append]
    by_cases hown : name' = name
    · subst hown
      have hcount : (records.filter fun r => name' = [] ∨ r.artifactName = name').length
          = (rs.filter fun r => r.artifactName = name').length := by
        have hnames := congrArg
          (fun l => (l.filter fun s : Shelf => name' = [] ∨ s.name = name').length) hshelf
        simp only [List.filter_map, List.length_map] at hnames
        have hne := ne_nil_of_matchesIDPattern hname
        simp only [hne, false_or] at hnames ⊢
        exact hnames
      have hfull := hroom hlimit
      rw [hcount] at hfull
      have hone := List.length_filter_le (fun r : ArtifactVersionRecord => r.artifactName = name')
        [recordOf c env input root name' version payload]
      rw [List.length_singleton] at hone
      omega
    · have hnone : ([recordOf c env input root name version payload].filter fun r =>
          r.artifactName = name') = [] := by
        rw [List.filter_eq_nil_iff, List.forall_mem_singleton, decide_eq_true_eq]
        exact fun heq => hown heq.symm
      rw [hnone, List.length_nil, Nat.add_zero]
      exact h.versions hlimit name'
  · intro hlimit
    have hstaged : Shelved c root (p.write (tempOf env p) (some payload)).registry rs := h.shelved
    have hsum := room_of_checkStorage hc hroot hstaged haccepted.checked.storage hlimit
    have hbefore : (rs.map fun r => fileSize (p.write (tempOf env p) (some payload)) r.artifactPath)
        = rs.map fun r => fileSize q r.artifactPath := by
      apply List.map_congr_left
      intro r hr
      have hne : r.artifactPath ≠ tempOf env p :=
        ((h.shelved.uploads r hr).ne_temp env h.shelved.path).1
      rw [fileSize, fileSize, ProjectDir.write_of_ne hne,
        h.shelved.files_of_placed hplaced hname hversion hnew r hr]
    have hlast : fileSize q (recordOf c env input root name version payload).artifactPath
        = payload.length := by
      show fileSize q (artifactPath root name version (hexEncode (c.sha256 payload))) = _
      rw [fileSize, hartifact]
      rfl
    rw [hbefore] at hsum
    show (((rs ++ [recordOf c env input root name version payload]).map fun r =>
      fileSize q r.artifactPath).sum : Int) ≤ _
    rw [List.map_append, List.sum_append, List.map_singleton, List.sum_singleton, hlast]
    exact_mod_cast hsum

end

/-- A steady upload keeps what is stored, and one that fails changes no record. -/
theorem Stocked.upload (hc : c.Lawful) (hroot : SoundRoot root) {payloads : Set Str}
    (hinj : Set.InjOn c.sha256 payloads) (h : Stocked c limits payloads root p rs)
    (hsteady : Steady c env input p) (hpayloads : ∀ payload ∈ input.artifact, payload ∈ payloads) :
  (∃ rs', Stocked c limits payloads root (uploadArtifact c limits env input p).2 rs') ∧
    ∀ e, (uploadArtifact c limits env input p).1 = .error e →
      (uploadArtifact c limits env input p).2.registry.index = p.registry.index
  := by
  have houtcome := uploadArtifact_cases c limits env input p
  generalize uploadArtifact c limits env input p = out at houtcome
  obtain ⟨records, hread, hshelf⟩ := h.shelved.read hc hroot.valid
  have hnew : ∀ name version payload, Accepted c limits env input p name version payload →
      (name, version) ∉ rs.map ArtifactVersionRecord.key := by
    intro name version payload haccepted
    rw [← map_key_of_map_shelf hshelf]
    exact (checkVersions_eq_ok hread haccepted.admitted.versions).1
  cases houtcome with
  | early e q hsame =>
      constructor
      · use rs
        apply h.of_sameArtifacts _ (hsame.sameArtifacts h.shelved.path)
        rw [hsame.registry]
        exact h.shelved
      · intro _ _
        show q.registry.index = _
        rw [hsame.registry]
  | placed name version payload e q haccepted hplaced =>
      have hadmitted := haccepted.admitted
      constructor
      · use rs
        apply h.of_placed hinj (hpayloads payload hadmitted.payload_eq) hplaced hadmitted.name_id
          hadmitted.version_id (hnew name version payload haccepted) q.registry
        rw [hplaced.registry]
        exact h.shelved
      · intro _ _
        show q.registry.index = _
        rw [hplaced.registry]
  | persisted name version payload q dir res appended haccepted hplaced hpersisted hfound hlost =>
      have hadmitted := haccepted.admitted
      have hpayload := hpayloads payload hadmitted.payload_eq
      have hfit := hsteady.fits payload hadmitted.payload_eq
      have hlength : (historyOf p.registry).length = rs.length := by
        have hlengths := congrArg List.length hshelf
        rw [List.length_map, List.length_map] at hlengths
        rw [historyOf, hread, Option.getD_some, hlengths]
      rw [← hadmitted.name_eq, ← hadmitted.version_eq, hlength, h.shelved.path] at hfit
      have hupload := isUpload_recordOf c env input root payload
        hadmitted.name_id hadmitted.version_id
      rw [h.shelved.path] at hpersisted
      rcases h.shelved.persistUpload hc hupload (hnew name version payload haccepted) hpersisted
        with ⟨-, hindex, hkept⟩ | ⟨hwritten, hadded⟩
      · constructor
        · use rs
          exact h.of_placed hinj hpayload hplaced hadmitted.name_id hadmitted.version_id
            (hnew name version payload haccepted) _ hkept
        · intro _ _
          exact hindex
      · rw [if_pos hfit] at hadded
        have happended := hwritten.resolve_right hsteady.closes
        constructor
        · use rs ++ [recordOf c env input root name version payload]
          exact h.add hc hroot hinj hpayload haccepted hplaced hadded
        · intro e he
          obtain ⟨r, hfind⟩ := hadded.find hc hroot.valid
          have hok : findStored env dir.index name version = .ok r :=
            findStored_of_find hsteady.finds hfind
          rcases hlost e he with hfailed | ⟨-, hmissing⟩
          · rw [happended] at hfailed
            cases hfailed
          · rw [hok] at hmissing
            cases hmissing

end

/-! ### One upload -/

attribute [local instance] asciiTables

end CloudRegistry
