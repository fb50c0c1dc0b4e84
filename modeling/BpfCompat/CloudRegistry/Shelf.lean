import BpfCompat.CloudRegistry.Upload

/-!
# What uploads add

The records of a project after a sequence of uploads (`Shelved`): each is the record of one upload,
no name and version has two, and what is read again says the same of where things are stored.  An
upload that passes its checks and is not hindered adds its record (`Shelved.upload_ok`).
-/

namespace CloudRegistry

open Go Go.Json Schema Registry

section

variable [UnicodeTables] {c : Crypto} {limits : QuotaLimits} {env : Surroundings}
  {input : UploadInput} {root : Str} {p q : ProjectDir} {rs : List ArtifactVersionRecord}

/-! ### Records and what is read of them -/

/-- The fields of a record that say what is stored where. -/
structure Shelf where
  name : Str
  version : Str
  sha : Str
  artifact : Str
  report : Str

def shelf (r : ArtifactVersionRecord) : Shelf where
  name := r.artifactName
  version := r.artifactVersion
  sha := r.artifactSHA256
  artifact := r.artifactPath
  report := r.jsonReportPath

/-- What the record of an upload to the project says. -/
structure IsUpload (root : Str) (s : Shelf) : Prop where
  name_id : matchesIDPattern s.name = true
  version_id : matchesIDPattern s.version = true
  sha : ∃ digest, s.sha = hexEncode digest
  artifact : s.artifact = artifactPath root s.name s.version s.sha
  report : s.report = reportPath root s.name s.version s.sha

omit [UnicodeTables] in
theorem graphic_of_matchesIDPattern {s : Str} (h : matchesIDPattern s = true) :
  ∀ b ∈ s, 32 < b ∧ b < 127
  := (of_matchesIDPattern h).2.2

omit [UnicodeTables] in
theorem toValidUTF8_of_graphic {s : Str} (h : ∀ b ∈ s, 32 < b ∧ b < 127) :
  toValidUTF8 s = s
  := by
  apply toValidUTF8_of_ascii
  intro b hb
  exact lt_trans (h b hb).2 (by decide)

/-- The part of an artifact path after the root. -/
def artifactTail (name version sha : Str) : Str :=
  str "/artifacts/" ++ (name ++ (str "/" ++ (version ++ (str "/" ++ (sha ++ str ".bpf.o")))))

/-- The part of a report path after the root. -/
def reportTail (name version sha : Str) : Str :=
  str "/reports/" ++ (reportName name version sha ++ str ".json")

omit [UnicodeTables] in
theorem IsUpload.graphic {s : Shelf} (h : IsUpload root s) :
  (∀ b ∈ artifactTail s.name s.version s.sha, 32 < b ∧ b < 127) ∧
    ∀ b ∈ reportTail s.name s.version s.sha, 32 < b ∧ b < 127
  := by
  have hname := graphic_of_matchesIDPattern h.name_id
  have hversion := graphic_of_matchesIDPattern h.version_id
  have hsha : ∀ b ∈ s.sha, 32 < b ∧ b < 127 := by
    obtain ⟨digest, hdigest⟩ := h.sha
    rw [hdigest]
    exact hexEncode_graphic digest
  have hprefix : ∀ b ∈ s.sha.take 12, 32 < b ∧ b < 127 := fun b hb =>
    hsha b (List.mem_of_mem_take hb)
  constructor
  · simp only [artifactTail, List.forall_mem_append]
    exact ⟨by decide, hname, by decide, hversion, by decide, hsha, by decide⟩
  · simp only [reportTail, reportName, List.forall_mem_append]
    exact ⟨by decide, ⟨hname, by decide, hversion, by decide, hprefix⟩, by decide⟩

/-- What is read of the record of an upload says the same about what is stored where. -/
theorem shelf_canon (hroot : toValidUTF8 root = root) {r : ArtifactVersionRecord}
    (h : IsUpload root (shelf r)) :
  shelf (artifactVersionRecordJSON.canon r) = shelf r
  := by
  have hname := toValidUTF8_of_graphic (graphic_of_matchesIDPattern h.name_id)
  have hversion := toValidUTF8_of_graphic (graphic_of_matchesIDPattern h.version_id)
  have hsha : toValidUTF8 (shelf r).sha = (shelf r).sha := by
    obtain ⟨digest, hdigest⟩ := h.sha
    rw [hdigest]
    exact toValidUTF8_of_graphic (hexEncode_graphic digest)
  have hartifact : toValidUTF8 (shelf r).artifact = (shelf r).artifact := by
    rw [h.artifact]
    exact (toValidUTF8_append_of_valid hroot _).trans
      (congrArg _ (toValidUTF8_of_graphic h.graphic.1))
  have hreport : toValidUTF8 (shelf r).report = (shelf r).report := by
    rw [h.report]
    exact (toValidUTF8_append_of_valid hroot _).trans
      (congrArg _ (toValidUTF8_of_graphic h.graphic.2))
  show Shelf.mk (toValidUTF8 (shelf r).name) (toValidUTF8 (shelf r).version)
    (toValidUTF8 (shelf r).sha) (toValidUTF8 (shelf r).artifact)
    (toValidUTF8 (shelf r).report) = _
  rw [hname, hversion, hsha, hartifact, hreport]

theorem map_shelf_appended (seed prevHash : Str) (rs : List ArtifactVersionRecord) :
  (appended c seed prevHash rs).map shelf = rs.map shelf
  := by
  induction rs generalizing prevHash with
  | nil => rfl
  | cons r rs ih =>
      rw [appended, List.map_cons, List.map_cons, ih]
      rfl

/-- The history holds the records of uploads to the project, each under a name and version of
its own. -/
structure Shelved (c : Crypto) (root : Str) (dir : WorkDir) (rs : List ArtifactVersionRecord) :
    Prop where
  path : dir.path = root
  stored : Stored c dir rs
  short : Short rs
  uploads : ∀ r ∈ rs, IsUpload root (shelf r)
  nodup : (rs.map ArtifactVersionRecord.key).Nodup

theorem shelved_of_fresh {dir : WorkDir} (h : Fresh dir) :
  Shelved c dir.path dir []
  := by
  refine ⟨rfl, .fresh h rfl, ?_, List.forall_mem_nil _, List.nodup_nil⟩
  intro i r hi
  cases hi

/-- What is read of the history says the same about what is stored where. -/
theorem Shelved.read (hc : c.Lawful) (hroot : toValidUTF8 root = root) {dir : WorkDir}
    (h : Shelved c root dir rs) :
  ∃ records, readArtifactVersionRecords dir.index = some records ∧
    records.map shelf = rs.map shelf
  := by
  obtain ⟨seed, hread⟩ := h.stored.read_canon hc h.short
  refine ⟨_, hread, ?_⟩
  have huploads : ∀ r ∈ appended c seed [] rs, IsUpload root (shelf r) := by
    intro r hr
    have hmem := List.mem_map_of_mem (f := shelf) hr
    rw [map_shelf_appended] at hmem
    obtain ⟨r', hr', hshelf⟩ := List.mem_map.mp hmem
    rw [← hshelf]
    exact h.uploads r' hr'
  rw [List.map_map, ← map_shelf_appended (c := c) seed [] rs]
  apply List.map_congr_left
  intro r hr
  exact shelf_canon hroot (huploads r hr)

omit [UnicodeTables] in
/-- What follows from the shelves of two lists of records being the same. -/
theorem exists_mem_of_map_shelf {records : List ArtifactVersionRecord}
    (h : records.map shelf = rs.map shelf) {r : ArtifactVersionRecord} (hr : r ∈ records) :
  ∃ r' ∈ rs, shelf r' = shelf r
  := by
  have hmem := List.mem_map_of_mem (f := shelf) hr
  rw [h] at hmem
  obtain ⟨r', hr', hshelf⟩ := List.mem_map.mp hmem
  exact ⟨r', hr', hshelf⟩

omit [UnicodeTables] in
theorem map_key_of_map_shelf {records : List ArtifactVersionRecord}
    (h : records.map shelf = rs.map shelf) :
  records.map ArtifactVersionRecord.key = rs.map ArtifactVersionRecord.key
  := by
  have hkey := congrArg (List.map fun s : Shelf => (s.name, s.version)) h
  rwa [List.map_map, List.map_map] at hkey

/-- The records of one name are listed, in another order. -/
theorem listArtifactVersions_perm {file : Option Str} {records : List ArtifactVersionRecord}
    (hread : readArtifactVersionRecords file = some records) (name : Str) :
  ∃ existing, listArtifactVersions file name 0 = some existing ∧
    existing.Perm (records.filter fun r => name = [] ∨ r.artifactName = name)
  := by
  refine ⟨_, ?_, List.perm_insertionSort newerFirst _⟩
  rw [listArtifactVersions, hread]
  rfl

/-- A version that passes its check is a new one, and there is room for it. -/
theorem checkVersions_eq_ok {file : Option Str} {records : List ArtifactVersionRecord}
    {name version : Str} (hread : readArtifactVersionRecords file = some records)
    (h : checkVersions limits file name version = .ok ()) :
  (name, version) ∉ records.map ArtifactVersionRecord.key ∧
    (0 < limits.maxArtifactVersionsPerName →
      (records.filter fun r => name = [] ∨ r.artifactName = name).length
        < limits.maxArtifactVersionsPerName)
  := by
  obtain ⟨existing, hlist, hperm⟩ := listArtifactVersions_perm hread name
  rw [checkVersions, hlist] at h
  dsimp only at h
  split_ifs at h with hquota hconflict
  constructor
  · intro hmem
    obtain ⟨r, hr, hkey⟩ := List.mem_map.mp hmem
    obtain ⟨hname, hversion⟩ := Prod.mk.inj hkey
    apply hconflict
    refine ⟨r, hperm.mem_iff.mpr ?_, hversion⟩
    rw [List.mem_filter]
    exact ⟨hr, decide_eq_true (.inr hname)⟩
  · intro hlimit
    rw [← hperm.length_eq]
    by_contra hfull
    exact hquota ⟨hlimit, not_lt.mp hfull⟩

/-- Without a history that can be read, no version passes its check. -/
theorem checkVersions_of_unreadable {file : Option Str} {name version : Str}
    (hread : readArtifactVersionRecords file = none) :
  checkVersions limits file name version ≠ .ok ()
  := by
  have hlist : listArtifactVersions file name 0 = none := by
    rw [listArtifactVersions, hread]
    rfl
  intro h
  rw [checkVersions, hlist] at h
  cases h

/-! ### Appending -/

theorem lastHash_spec (hc : c.Lawful) (records : List ArtifactVersionRecord) :
  IsReference (lastHash c [] records) ∧ (lastHash c [] records = [] ↔ records.length = 0)
  := by
  rw [lastHash]
  cases hlast : records.getLast? with
  | none =>
      rw [List.getLast?_eq_none_iff] at hlast
      rw [hlast]
      exact ⟨.inl rfl, by simp⟩
  | some last =>
      use isReference_recordHash hc last
      have hne : records.length ≠ 0 := by
        intro hzero
        rw [List.length_eq_zero_iff.mp hzero] at hlast
        cases hlast
      simp [recordHash_ne_nil hc last, hne]

theorem length_appended (seed prevHash : Str) (rs : List ArtifactVersionRecord) :
  (appended c seed prevHash rs).length = rs.length
  := by
  have h := congrArg List.length (map_shelf_appended (c := c) seed prevHash rs)
  rwa [List.length_map, List.length_map] at h

theorem length_last (hc : c.Lawful) {seed : Str} (hseed : seed.length = 32)
    (rs : List ArtifactVersionRecord) (r : ArtifactVersionRecord) :
  (marshalRecord (provenanced c seed (lastHash c [] (appended c seed [] rs)) r)).length
    = recordBytes r + provenanceBytes rs.length
  := by
  obtain ⟨hreference, hnil⟩ := lastHash_spec hc (appended c seed [] rs)
  rw [length_appended] at hnil
  exact length_provenanced hc hseed hreference hnil r

/-- A history with a line that does not fit can not be read. -/
theorem unreadable_of_stored (hc : c.Lawful) {dir : WorkDir} {r : ArtifactVersionRecord}
    (h : Stored c dir (rs ++ [r]))
    (hlong : ¬ recordBytes r + provenanceBytes rs.length < maxLineBytes) :
  readArtifactVersionRecords dir.index = none
  := by
  cases h with
  | fresh _ hnil => simp at hnil
  | @keyed seed hkeyed =>
      have hseed := hkeyed.1.length_seed
      rcases hkeyed.index with hindex | ⟨-, hnil⟩
      · rw [hindex]
        apply readArtifactVersionRecords_long
        intro hall
        rw [appended_concat, List.forall_mem_append, List.forall_mem_singleton] at hall
        rw [length_last hc hseed] at hall
        exact hlong hall.2
      · have hlength := congrArg List.length hnil
        rw [length_appended, List.length_append] at hlength
        simp at hlength

omit [UnicodeTables] in
theorem short_concat {r : ArtifactVersionRecord} [UnicodeTables] (h : Short rs)
    (hfit : recordBytes r + provenanceBytes rs.length < maxLineBytes) :
  Short (rs ++ [r])
  := by
  intro i r' hi
  rcases lt_or_ge i rs.length with hlt | hge
  · rw [List.getElem?_append_left hlt] at hi
    exact h i r' hi
  · rw [List.getElem?_append_right hge, List.getElem?_singleton] at hi
    split_ifs at hi with hzero
    obtain rfl := Option.some_inj.mp hi
    obtain rfl : i = rs.length := by omega
    exact hfit

/-- Appending the record of an upload either leaves the index alone and fails, or writes the
line. -/
theorem persistUpload_cases {r : ArtifactVersionRecord} {dir dir' : WorkDir}
    {res : Except UploadError Unit} (h : persistUpload c env r dir = (res, dir')) :
  (res ≠ .ok () ∧ dir'.index = dir.index ∧
      (dir' = dir ∨ ∃ dir₁, persistArtifactVersion c env.seed dir r = .ok dir₁ ∧
        dir' = { dir₁ with index := dir.index })) ∨
    (persistArtifactVersion c env.seed dir r = .ok dir' ∧
      (res = .ok () ∨ env.fault = some .closeIndex))
  := by
  have herror : ∀ e : UploadError, (.error e : Except UploadError Unit) ≠ .ok () := by
    intro e he
    cases he
  rw [persistUpload] at h
  by_cases hkeys : env.fault = some .readKeys
  · rw [if_pos hkeys] at h
    cases h
    exact .inl ⟨herror _, rfl, .inl rfl⟩
  · rw [if_neg hkeys] at h
    cases hpersist : persistArtifactVersion c env.seed dir r with
    | error e =>
        rw [hpersist] at h
        cases h
        exact .inl ⟨herror _, rfl, .inl rfl⟩
    | ok dir₁ =>
        rw [hpersist] at h
        dsimp only at h
        split_ifs at h with happend hclose
        · cases h
          exact .inl ⟨herror _, rfl, .inr ⟨dir₁, rfl, rfl⟩⟩
        · cases h
          exact .inr ⟨rfl, .inr hclose⟩
        · cases h
          exact .inr ⟨rfl, .inl rfl⟩

/-- The history with the record of another upload. -/
theorem Shelved.concat {dir dir' : WorkDir} (h : Shelved c root dir rs) {r : ArtifactVersionRecord}
    (hpath : dir'.path = dir.path) (hstored : Stored c dir' (rs ++ [r]))
    (hr : IsUpload root (shelf r)) (hnew : r.key ∉ rs.map ArtifactVersionRecord.key)
    (hfit : recordBytes r + provenanceBytes rs.length < maxLineBytes) :
  Shelved c root dir' (rs ++ [r])
  := by
  refine ⟨hpath.trans h.path, hstored, short_concat h.short hfit, ?_, ?_⟩
  · rw [List.forall_mem_append, List.forall_mem_singleton]
    exact ⟨h.uploads, hr⟩
  · rw [List.map_append, List.map_singleton, ← List.concat_eq_append, List.nodup_concat]
    exact ⟨hnew, h.nodup⟩

/-- The history after an upload that came to it. -/
theorem Shelved.persistUpload (hc : c.Lawful) {dir dir' : WorkDir} (h : Shelved c root dir rs)
    {r : ArtifactVersionRecord} (hr : IsUpload root (shelf r))
    (hnew : r.key ∉ rs.map ArtifactVersionRecord.key) {res : Except UploadError Unit}
    (hp : persistUpload c env r dir = (res, dir')) :
  (res ≠ .ok () ∧ dir'.index = dir.index ∧ Shelved c root dir' rs) ∨
    ((res = .ok () ∨ env.fault = some .closeIndex) ∧
      (if recordBytes r + provenanceBytes rs.length < maxLineBytes then
        Shelved c root dir' (rs ++ [r])
      else readArtifactVersionRecords dir'.index = none))
  := by
  rcases persistUpload_cases hp with ⟨hres, hindex, rfl | ⟨dir₁, hcall, rfl⟩⟩ | ⟨hcall, hres⟩
  · exact .inl ⟨hres, rfl, h⟩
  · obtain ⟨-, hstored, hpath⟩ := h.stored.call hc h.short env.length_seed hcall
    exact .inl ⟨hres, rfl, hpath.trans h.path, hstored, h.short, h.uploads, h.nodup⟩
  · obtain ⟨hstored, -, hpath⟩ := h.stored.call hc h.short env.length_seed hcall
    refine .inr ⟨hres, ?_⟩
    split_ifs with hfit
    · exact h.concat hpath hstored hr hnew hfit
    · exact unreadable_of_stored hc hstored hfit

omit [UnicodeTables] in
theorem isUpload_recordOf [UnicodeTables] (c : Crypto) (env : Surroundings) (input : UploadInput)
    (root payload : Str) {name version : Str}
    (hname : matchesIDPattern name = true) (hversion : matchesIDPattern version = true) :
  IsUpload root (shelf (recordOf c env input root name version payload))
  := ⟨hname, hversion, ⟨c.sha256 payload, rfl⟩, rfl, rfl⟩

/-! ### What is found again -/

omit [UnicodeTables] in
theorem key_eq_of_shelf {r r' : ArtifactVersionRecord} (h : shelf r = shelf r') :
  r.key = r'.key
  := congrArg (fun s : Shelf => (s.name, s.version)) h

omit [UnicodeTables] in
/-- The temporary file is none of the files of a record. -/
theorem IsUpload.ne_temp (env : Surroundings) {s : Shelf} (h : IsUpload root s)
    (hpath : p.registry.path = root) :
  s.artifact ≠ tempOf env p ∧ s.report ≠ tempOf env p
  := by
  rw [tempOf, hpath, h.artifact, h.report]
  exact ⟨(tempPath_ne_artifactPath h.name_id _).symm, reportPath_ne_tempPath⟩

/-- The records of a readable history are those of uploads. -/
theorem Shelved.uploads_read {records : List ArtifactVersionRecord} {dir : WorkDir}
    (h : Shelved c root dir rs) (hshelf : records.map shelf = rs.map shelf) :
  ∀ r ∈ records, IsUpload root (shelf r)
  := by
  intro r hr
  obtain ⟨r', hr', heq⟩ := exists_mem_of_map_shelf hshelf hr
  rw [← heq]
  exact h.uploads r' hr'

omit [UnicodeTables] in
theorem ne_nil_of_matchesIDPattern {s : Str} (h : matchesIDPattern s = true) :
  s ≠ []
  := by
  rintro rfl
  cases h

/-- A record in the history is found by its name and version. -/
theorem findArtifactVersion_of_mem {file : Option Str} {records : List ArtifactVersionRecord}
    {name version : Str} (hread : readArtifactVersionRecords file = some records)
    (hname : name ≠ []) (hversion : version ≠ [])
    (hmem : (name, version) ∈ records.map ArtifactVersionRecord.key) :
  ∃ r, findArtifactVersion file name version = some r
  := by
  obtain ⟨existing, hlist, hperm⟩ := listArtifactVersions_perm hread name
  obtain ⟨r, hr, hkey⟩ := List.mem_map.mp hmem
  obtain ⟨hrname, hrversion⟩ := Prod.mk.inj hkey
  have hexisting : r ∈ existing := by
    rw [hperm.mem_iff, List.mem_filter]
    exact ⟨hr, decide_eq_true (.inr hrname)⟩
  rw [findArtifactVersion, if_neg (by simp [hname, hversion]), hlist, Option.bind_some,
    ← Option.isSome_iff_exists, List.find?_isSome]
  exact ⟨r, hexisting, decide_eq_true hrversion⟩

theorem Shelved.find (hc : c.Lawful) (hroot : toValidUTF8 root = root) {dir : WorkDir}
    {r : ArtifactVersionRecord} (h : Shelved c root dir (rs ++ [r])) :
  ∃ r', findArtifactVersion dir.index r.artifactName r.artifactVersion = some r'
  := by
  obtain ⟨records, hread, hshelf⟩ := h.read hc hroot
  have hupload := h.uploads r (by simp)
  apply findArtifactVersion_of_mem hread (ne_nil_of_matchesIDPattern hupload.name_id)
    (ne_nil_of_matchesIDPattern hupload.version_id)
  rw [map_key_of_map_shelf hshelf]
  exact List.mem_map_of_mem (f := ArtifactVersionRecord.key) (by simp)

theorem findStored_of_find {index : Option Str} {name version : Str} {r : ArtifactVersionRecord}
    (hfault : env.fault ≠ some .findStored) (h : findArtifactVersion index name version = some r) :
  findStored env index name version = .ok r
  := by
  rw [findStored, failWith, if_neg hfault, h]

/-- The path of a project directory that records keep as it is. -/
structure SoundRoot (root : Str) : Prop where
  valid : toValidUTF8 root = root
  trimmed : trimSpace root = root
  ne_nil : root ≠ []

/-! ### Uploads that come to the history -/

section

variable {name version payload : Str}

theorem checkVersions_of_new {file : Option Str} {records : List ArtifactVersionRecord}
    (hread : readArtifactVersionRecords file = some records) (hname : name ≠ [])
    (hnew : (name, version) ∉ records.map ArtifactVersionRecord.key)
    (hlimit : limits.maxArtifactVersionsPerName ≤ 0) :
  checkVersions limits file name version = .ok ()
  := by
  obtain ⟨existing, hlist, hperm⟩ := listArtifactVersions_perm hread name
  have hconflict : ¬ ∃ r ∈ existing, r.artifactVersion = version := by
    rintro ⟨r, hr, hversion⟩
    rw [hperm.mem_iff, List.mem_filter, decide_eq_true_eq] at hr
    have hkey : r.key = (name, version) := Prod.ext (hr.2.resolve_left hname) hversion
    exact hnew (hkey ▸ List.mem_map_of_mem hr.1)
  rw [checkVersions, hlist]
  dsimp only
  rw [if_neg (fun h => not_lt.mpr hlimit h.1), if_neg hconflict]

theorem admitUpload_of_versions {index : Option Str} {tenant project : Str}
    (htenant : uploadID (str "tenant") input.tenant = .ok tenant)
    (hproject : uploadID (str "project") input.project = .ok project)
    (hname : uploadID (str "artifact_name") input.artifactName = .ok name)
    (hversion : uploadID (str "artifact_version") input.artifactVersion = .ok version)
    (hartifact : input.artifact = some payload)
    (hfault : env.fault ≠ some .getProject ∧ env.fault ≠ some .listVersions)
    (hversions : checkVersions limits index name version = .ok ()) :
  admitUpload limits env input index = .ok (name, version, payload)
  := by
  rw [admitUpload, htenant, hproject, hname, hversion, hartifact]
  simp only [failWith, if_neg hfault.1, if_neg hfault.2, bind, Except.bind, hversions]

/-- Nothing fails before the line was written. -/
def Unhindered (env : Surroundings) : Prop :=
  env.fault = none ∨ env.fault = some .closeIndex

theorem Unhindered.stage (h : Unhindered env) {expectedSHA256 : Str}
    (hchecked : Checked c limits env expectedSHA256 payload
      (p.write (tempOf env p) (some payload))) :
  stageArtifact c limits env expectedSHA256 payload p
    = (.ok (hexEncode (c.sha256 payload)), p.write (tempOf env p) (some payload))
  := by
  have hcheck := checkStaged_eq_ok_iff.mpr ⟨hchecked, rfl⟩
  rw [tempOf] at hcheck ⊢
  rw [stageArtifact]
  rcases h with hfault | hfault
  · simp only [hfault, hcheck]
  · simp only [hfault, hcheck]

omit [UnicodeTables] in
theorem Unhindered.place (h : Unhindered env) (name version sha : Str) :
  ∃ q, placeArtifact env name version sha p
    = (.ok (artifactPath p.registry.path name version sha), q)
  := by
  have hdir : env.fault ≠ some .makeFinalDir := by
    rcases h with hfault | hfault <;> simp [hfault]
  have hrename : env.fault ≠ some .rename := by
    rcases h with hfault | hfault <;> simp [hfault]
  rw [placeArtifact, if_neg hdir, if_neg hrename]
  split_ifs <;> exact ⟨_, rfl⟩

theorem Unhindered.summary (h : Unhindered env) (sha : Str) (size : Nat)
    (compat : CompatibilityMetadata) (report : Option ReportV01) :
  writeUploadSummary env name version sha size compat report p
    = (.ok (reportPath p.registry.path name version sha),
      p.write (reportPath p.registry.path name version sha)
        (some (summaryText name version sha size compat report)))
  := by
  rw [writeUploadSummary]
  rcases h with hfault | hfault
  · rw [hfault]
  · rw [hfault]

/-- An upload that passes its checks comes to the history; closing it may fail. -/
theorem uploadArtifact_of_checked (hfault : Unhindered env)
    (hadmission : admitUpload limits env input p.registry.index = .ok (name, version, payload))
    (hchecked : Checked c limits env input.expectedSHA256 payload
      (p.write (tempOf env p) (some payload))) {dir : WorkDir}
    (hpersist : persistArtifactVersion c env.seed p.registry
      (recordOf c env input p.registry.path name version payload) = .ok dir) :
  (uploadArtifact c limits env input p).2.registry = dir ∧
    (env.fault = some .closeIndex →
      (uploadArtifact c limits env input p).1 = .error (.io .closeIndex)) ∧
    (env.fault = none → ∀ r, findArtifactVersion dir.index name version = some r →
      ∃ result, (uploadArtifact c limits env input p).1 = .ok result)
  := by
  have hname := (admitted_of_admitUpload hadmission).name_id
  obtain ⟨q, hplace⟩ := hfault.place (p := p.write (tempOf env p) (some payload)) name
    version (hexEncode (c.sha256 payload))
  have hplaced : q.registry = p.registry := by
    obtain ⟨e, q', herror, -⟩ | ⟨q', hok, hplaced⟩ :=
      placeArtifact_cases version (hexEncode (c.sha256 payload))
        hname (q := p.write (tempOf env p) (some payload)) rfl
    · rw [hplace] at herror
      cases herror
    · rw [hplace] at hok
      cases hok
      exact hplaced.registry
  have hkeys : env.fault ≠ some .readKeys := by
    rcases hfault with hnone | hclose <;> simp [*]
  have happend : env.fault ≠ some .appendIndex := by
    rcases hfault with hnone | hclose <;> simp [*]
  have hpersisted : persistUpload c env
      (recordOf c env input p.registry.path name version payload) p.registry
        = if env.fault = some .closeIndex then (.error (.io .closeIndex), dir) else (.ok (), dir) := by
    rw [persistUpload, if_neg hkeys, hpersist]
    dsimp only
    rw [if_neg happend]
  rw [uploadArtifact, hadmission]
  dsimp only
  rw [hfault.stage hchecked]
  dsimp only
  rw [hplace]
  dsimp only
  rw [hfault.summary]
  dsimp only
  have hregistry : (q.write (reportPath q.registry.path name version (hexEncode (c.sha256 payload)))
      (some (summaryText name version (hexEncode (c.sha256 payload)) payload.length
        (uploadCompatibility input.compatibility input.report) input.report))).registry
          = p.registry := hplaced
  have hrecord : uploadRecord env input name version (hexEncode (c.sha256 payload))
      (artifactPath (p.write (tempOf env p) (some payload)).registry.path name version
        (hexEncode (c.sha256 payload)))
      (reportPath q.registry.path name version (hexEncode (c.sha256 payload)))
        = recordOf c env input p.registry.path name version payload := by
    rw [hplaced]
    rfl
  rw [hregistry, hrecord, hpersisted]
  split_ifs with hclose
  · refine ⟨rfl, fun _ => rfl, ?_⟩
    intro hnone
    rw [hclose] at hnone
    cases hnone
  · dsimp only
    refine ⟨?_, fun h => absurd h hclose, ?_⟩
    · split <;> rfl
    · intro hnone r hfind
      rw [findStored_of_find (by simp [hnone]) hfind]
      exact ⟨_, rfl⟩

/-- An upload to a project that passes its checks adds its record. -/
theorem Shelved.upload_ok (hc : c.Lawful) (hroot : SoundRoot root)
    (h : Shelved c root p.registry rs) (hfault : Unhindered env)
    (hadmission : admitUpload limits env input p.registry.index = .ok (name, version, payload))
    (hchecked : Checked c limits env input.expectedSHA256 payload
      (p.write (tempOf env p) (some payload)))
    (hfit : recordBytes (recordOf c env input root name version payload) +
      provenanceBytes rs.length < maxLineBytes)
    (hnew : (name, version) ∉ rs.map ArtifactVersionRecord.key) :
  Shelved c root (uploadArtifact c limits env input p).2.registry
      (rs ++ [recordOf c env input root name version payload]) ∧
    (env.fault = some .closeIndex →
      (uploadArtifact c limits env input p).1 = .error (.io .closeIndex)) ∧
    (env.fault = none → ∃ result, (uploadArtifact c limits env input p).1 = .ok result)
  := by
  have hadmitted := admitted_of_admitUpload hadmission
  have hupload := isUpload_recordOf c env input root payload
    hadmitted.name_id hadmitted.version_id
  have htrim : ∀ s : Str, matchesIDPattern s = true → trimSpace s ≠ [] := by
    intro s hs
    rw [trimSpace_of_graphic (graphic_of_matchesIDPattern hs)]
    exact ne_nil_of_matchesIDPattern hs
  have hsha : trimSpace (hexEncode (c.sha256 payload)) ≠ [] := by
    rw [trimSpace_of_graphic (hexEncode_graphic _)]
    intro hnil
    have hlength := congrArg List.length hnil
    rw [length_hexEncode, hc.length_sha256] at hlength
    cases hlength
  have hreport : trimSpace (reportPath root name version (hexEncode (c.sha256 payload))) ≠ [] := by
    have hslash : str "/reports/" ≠ [] := by decide
    have htrimmed := trimSpace_append_graphic hroot.valid hroot.trimmed hroot.ne_nil
      hupload.graphic.2 (List.append_ne_nil_of_left_ne_nil hslash _)
    intro hnil
    have hpath := htrimmed.symm.trans hnil
    exact hroot.ne_nil (List.append_eq_nil_iff.mp hpath).1
  have hpath : p.registry.path ≠ [] := by
    rw [h.path]
    exact hroot.ne_nil
  obtain ⟨dir, hpersist⟩ := h.stored.call_ok hc h.short env.seed
    (r := recordOf c env input root name version payload) hpath
    (htrim name hadmitted.name_id) (htrim version hadmitted.version_id) hsha hreport
  have hshelved : Shelved c root dir (rs ++ [recordOf c env input root name version payload]) := by
    obtain ⟨hstored, -, hdir⟩ := h.stored.call hc h.short env.length_seed hpersist
    exact h.concat hdir hstored hupload hnew hfit
  obtain ⟨hregistry, hclose, hok⟩ := uploadArtifact_of_checked hfault hadmission hchecked
    (h.path.symm ▸ hpersist)
  rw [hregistry]
  refine ⟨hshelved, hclose, ?_⟩
  intro hnone
  obtain ⟨r, hfind⟩ := hshelved.find hc hroot.valid
  exact hok hnone r hfind

end

end

/-! ### Uploads to an empty project -/

/-- The directory of a project. -/
def projectRoot : Str := str ".bpfcompat/cloud-registry/tenants/t/projects/p"

/-- A project without uploads. -/
def emptyProject : ProjectDir where
  registry := { path := projectRoot }
  files _ := none

/-- An upload at a fixed hour. -/
def newYear (fault : Option Fault) : Surroundings where
  fault := fault
  unixNano := 1767225600000000000
  now := str "2026-01-01T00:00:00Z"
  stamp := str "20260101T000000Z"
  seed := zeroSeed
  length_seed := length_zeroSeed

/-- The payload of the record of such a form; `previous` is the member with the hash of the record
before, and `summary` the members for the metadata. -/
def uploadText (name version previous summary : String) : Str :=
  str "\x7b\"schema_version\":\"artifact_history.v0.1\",\"run_id\":\"upload-20260101T000000Z\"," ++
    str "\"run_started_at\":\"2026-01-01T00:00:00Z\",\"created_at\":\"2026-01-01T00:00:00Z\"," ++
    str "\"artifact_name\":\"" ++ str name ++ str "\",\"artifact_version\":\"" ++ str version ++
    str "\",\"artifact_path\":\"" ++ projectRoot ++ str "/artifacts/" ++ str name ++ str "/" ++
    str version ++ str "/706abe3c90152075e656b661079730facf323f3ebccda7547ee1935c90845a09.bpf.o\"," ++
    str "\"artifact_sha256\":" ++
    str "\"706abe3c90152075e656b661079730facf323f3ebccda7547ee1935c90845a09\"," ++ str previous ++
    str "\"matrix_path\":\"\"," ++ str summary ++ str "\"json_report_path\":\"" ++ projectRoot ++
    str "/reports/" ++ str name ++ str "-" ++ str version ++ str "-706abe3c9015.json\"\x7d"

/-- The members for the metadata of a form without any. -/
def unknownSummary : String :=
  "\"summary_status\":\"unknown\",\"required_passed\":0,\"required_failed\":0," ++
    "\"total_profiles\":0,"

/-- The payload of a first record, and that of one after it. -/
def firstUpload : Str := uploadText "a-b" "c" "" unknownSummary

def secondUpload : Str :=
  uploadText "a" "b-c" ("\"prev_record_sha256\":" ++
    "\"8755c87f58806bbc9bf72f35ad395d7dc5639a7656edab5b10ad34342e447277\",") unknownSummary

/-- The payload of a first record with a report of one target. -/
def reportUpload : Str :=
  uploadText "a" "1" "" ("\"summary_status\":\"pass\",\"required_passed\":1," ++
    "\"required_failed\":0,\"total_profiles\":1,\"supported_profiles\":[\"ubuntu-22.04\"],")

/-- The standard functions on the inputs below. -/
def uploadCrypto : Crypto :=
  tableCrypto
    [(zeroPublicKey, ofHex "139e3940e64b5491722088d9a0d741628fc826e09475d341a780acde3c4b8070"),
      (str "ELF", ofHex "706abe3c90152075e656b661079730facf323f3ebccda7547ee1935c90845a09"),
      (firstUpload, ofHex "8755c87f58806bbc9bf72f35ad395d7dc5639a7656edab5b10ad34342e447277"),
      (secondUpload, ofHex "731ca2548cf5cd23957e7951479793a65f900b6e497e986a1660ddda5cf105b1"),
      (reportUpload, ofHex "e35ea1c3a12f1ff0ead4517d47bfa6f6acb4ef5302093d498968d5be9d0dfd88")]
    [(firstUpload,
        ofHex "e39735e9085ce59e03dd1b8cd3a02cc1b373432f57023b3d3b0a02a6acc1c080c074e7d1921173254f3d5547cca3871b6b424fd0be7d93c62acaf8fad853ec04"),
      (secondUpload,
        ofHex "31dfc2728fc58e64a6ec801afc262656049c1fbd692999a7ae95267117ca92994c59e3f07ab14c11835288b41daa2c488bde8fd861a8382b92b51d612ac02a06"),
      (reportUpload,
        ofHex "f91717206c8d1fb023103f743f73909248e8d119dbadf2cf0ec2723635c02f9dfe7928d1ae7b9095a49bf3f57b6a28fb85eabf57d017f3bda448f45e4fedb00e")]

theorem uploadCrypto_lawful :
  uploadCrypto.Lawful
  := tableCrypto_lawful (by decide +kernel) (by decide +kernel)

attribute [local instance] asciiTables

theorem sound_projectRoot :
  SoundRoot projectRoot
  := ⟨by decide +kernel, by decide +kernel, by decide +kernel⟩

theorem fresh_emptyProject :
  Fresh emptyProject.registry
  := ⟨rfl, rfl⟩

/-- A short record fits on its line wherever it stands. -/
theorem fits_of_small {n : Nat} (h : n < 100000) (i : Nat) :
  n + provenanceBytes i < maxLineBytes
  := by
  have hprovenance : provenanceBytes i ≤ 404 := by
    rw [provenanceBytes]
    split_ifs <;> decide
  have hline : 100000 + 404 < maxLineBytes := by decide
  exact (Nat.add_lt_add_of_lt_of_le h hprovenance).trans hline

/-- Without limits and an expected hash, an upload under a new name and version adds its record. -/
theorem Shelved.upload_open {c : Crypto} (hc : c.Lawful) {p : ProjectDir}
    {rs : List ArtifactVersionRecord} (h : Shelved c projectRoot p.registry rs)
    {fault : Option Fault} (hfault : fault = none ∨ fault = some .closeIndex) {input : UploadInput}
    {name version payload : Str} (htenant : input.tenant = str "t")
    (hproject : input.project = str "p") (hexpected : expectedHash input.expectedSHA256 = [])
    (hname : uploadID (str "artifact_name") input.artifactName = .ok name)
    (hversion : uploadID (str "artifact_version") input.artifactVersion = .ok version)
    (hartifact : input.artifact = some payload)
    (hsmall : recordBytes (recordOf c (newYear fault) input projectRoot name version payload)
      < 100000)
    (hnew : (name, version) ∉ rs.map ArtifactVersionRecord.key) :
  Shelved c projectRoot (uploadArtifact c {} (newYear fault) input p).2.registry
      (rs ++ [recordOf c (newYear fault) input projectRoot name version payload]) ∧
    (fault = some .closeIndex →
      (uploadArtifact c {} (newYear fault) input p).1 = .error (.io .closeIndex)) ∧
    (fault = none → ∃ result, (uploadArtifact c {} (newYear fault) input p).1 = .ok result)
  := by
  have htenant' : uploadID (str "tenant") input.tenant = .ok (str "t") := by
    rw [htenant]
    decide
  have hproject' : uploadID (str "project") input.project = .ok (str "p") := by
    rw [hproject]
    decide
  obtain ⟨records, hread, hshelf⟩ := h.read hc sound_projectRoot.valid
  have hkeys : (name, version) ∉ records.map ArtifactVersionRecord.key := by
    rwa [map_key_of_map_shelf hshelf]
  have hnonempty := ne_nil_of_matchesIDPattern (uploadID_eq_ok hname).2
  have hfaults : fault ≠ some .getProject ∧ fault ≠ some .listVersions := by
    rcases hfault with rfl | rfl <;> decide
  have hadmission : admitUpload {} (newYear fault) input p.registry.index
      = .ok (name, version, payload) :=
    admitUpload_of_versions htenant' hproject' hname hversion hartifact hfaults
      (checkVersions_of_new hread hnonempty hkeys le_rfl)
  have hchecked : Checked c {} (newYear fault) input.expectedSHA256 payload
      (p.write (tempOf (newYear fault) p) (some payload)) :=
    ⟨fun hlimit => absurd hlimit (lt_irrefl 0), rfl, .inl hexpected⟩
  have hunhindered : Unhindered (newYear fault) := hfault
  exact h.upload_ok hc sound_projectRoot hunhindered hadmission hchecked (fits_of_small hsmall _)
    hnew

end CloudRegistry
