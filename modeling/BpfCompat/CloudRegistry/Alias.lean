import BpfCompat.CloudRegistry.Shelf

/-!
# Files of different records

The name of a report file is made of the name, the version and the beginning of the hash with
hyphens between them, and hyphens may stand in the parts: two records can refer to one report
file.  Where no upload has the report name of another record, no two records share a file and no
upload touches a file of another record (`uploads_never_alias`).
-/

namespace CloudRegistry

open Go Go.Json Schema Registry

section

variable [UnicodeTables] {c : Crypto} {limits : QuotaLimits} {env : Surroundings}
  {input : UploadInput} {root : Str} {p q : ProjectDir} {rs : List ArtifactVersionRecord}

/-- The upload does not have the report name of a record with another name or version. -/
def Unaliased (c : Crypto) (input : UploadInput) (p : ProjectDir) : Prop :=
  ∀ payload ∈ input.artifact, ∀ r ∈ historyOf p.registry,
    r.key ≠ (trimSpace input.artifactName, trimSpace input.artifactVersion) →
      reportName r.artifactName r.artifactVersion r.artifactSHA256
        ≠ reportName (trimSpace input.artifactName) (trimSpace input.artifactVersion)
          (hexEncode (c.sha256 payload))

/-- The records refer to files of their own. -/
def Distinct (records : List ArtifactVersionRecord) : Prop :=
  ∀ r ∈ records, ∀ r' ∈ records, r.key ≠ r'.key →
    r.artifactPath ≠ r'.artifactPath ∧ r.jsonReportPath ≠ r'.jsonReportPath

/-- The files of the records are the same in two directories. -/
def Untouched (records : List ArtifactVersionRecord) (p q : ProjectDir) : Prop :=
  ∀ r ∈ records, q.files r.artifactPath = p.files r.artifactPath ∧
    q.files r.jsonReportPath = p.files r.jsonReportPath

/-- The records have report names of their own. -/
def Separate (rs : List ArtifactVersionRecord) : Prop :=
  ∀ r ∈ rs, ∀ r' ∈ rs, r.key ≠ r'.key →
    reportName r.artifactName r.artifactVersion r.artifactSHA256
      ≠ reportName r'.artifactName r'.artifactVersion r'.artifactSHA256

omit [UnicodeTables] in
theorem Separate.concat {r : ArtifactVersionRecord} (h : Separate rs)
    (hr : ∀ r' ∈ rs, reportName r'.artifactName r'.artifactVersion r'.artifactSHA256
      ≠ reportName r.artifactName r.artifactVersion r.artifactSHA256) :
  Separate (rs ++ [r])
  := by
  intro s hs s' hs' hkey
  rw [List.mem_append, List.mem_singleton] at hs hs'
  rcases hs with hs | rfl
  · rcases hs' with hs' | rfl
    · exact h s hs s' hs' hkey
    · exact hr s hs
  · rcases hs' with hs' | rfl
    · exact (hr s' hs').symm
    · exact absurd rfl hkey

/-- What a sequence of uploads keeps: the history is shelved with distinct report names, or it
can not be read any more. -/
def Unmixed (c : Crypto) (root : Str) (p : ProjectDir) : Prop :=
  readArtifactVersionRecords p.registry.index = none ∨
    ∃ rs, Shelved c root p.registry rs ∧ Separate rs

theorem Unmixed.distinct (hc : c.Lawful) (hroot : toValidUTF8 root = root) (h : Unmixed c root p)
    {records : List ArtifactVersionRecord}
    (hread : readArtifactVersionRecords p.registry.index = some records) :
  Distinct records
  := by
  rcases h with hnone | ⟨rs, hshelved, hnames⟩
  · rw [hnone] at hread
    cases hread
  · obtain ⟨records', hread', hshelf⟩ := hshelved.read hc hroot
    rw [hread, Option.some_inj] at hread'
    subst hread'
    intro r hr r' hr' hkey
    obtain ⟨s, hs, hshelf₁⟩ := exists_mem_of_map_shelf hshelf hr
    obtain ⟨s', hs', hshelf₂⟩ := exists_mem_of_map_shelf hshelf hr'
    rw [← key_eq_of_shelf hshelf₁, ← key_eq_of_shelf hshelf₂] at hkey
    have hupload := hshelved.uploads s hs
    have hupload' := hshelved.uploads s' hs'
    constructor
    · show (shelf r).artifact ≠ (shelf r').artifact
      rw [← hshelf₁, ← hshelf₂, hupload.artifact, hupload'.artifact]
      intro hpath
      obtain ⟨hname, hversion, -⟩ := artifactPath_inj hupload.name_id hupload.version_id
        hupload'.name_id hupload'.version_id hpath
      exact hkey (Prod.ext hname hversion)
    · show (shelf r).report ≠ (shelf r').report
      rw [← hshelf₁, ← hshelf₂, hupload.report, hupload'.report, Ne, reportPath_inj]
      exact hnames s hs s' hs' hkey

omit [UnicodeTables] in
theorem SameButTemp.untouched {records : List ArtifactVersionRecord} (h : SameButTemp env p q)
    (hpath : p.registry.path = root) (hrecords : ∀ r ∈ records, IsUpload root (shelf r)) :
  Untouched records p q
  := by
  intro r hr
  obtain ⟨hartifact, hreport⟩ := (hrecords r hr).ne_temp env hpath
  exact ⟨h.files _ hartifact, h.files _ hreport⟩

omit [UnicodeTables] in
/-- Placing an artifact touches no file of a record with another name or version and another
report name. -/
theorem Placed.untouched {records : List ArtifactVersionRecord} {name version payload sha : Str}
    (h : Placed name version payload sha p q env) (hpath : p.registry.path = root)
    (hname : matchesIDPattern name = true) (hversion : matchesIDPattern version = true)
    (hrecords : ∀ r ∈ records, IsUpload root (shelf r))
    (hkeys : ∀ r ∈ records, r.key ≠ (name, version))
    (hnames : ∀ r ∈ records, reportName r.artifactName r.artifactVersion r.artifactSHA256
      ≠ reportName name version sha) :
  Untouched records p q
  := by
  intro r hr
  have hupload := hrecords r hr
  obtain ⟨hartifact, hreport⟩ := hupload.ne_temp env hpath
  constructor
  · apply h.others _ hartifact
    · show (shelf r).artifact ≠ _
      rw [hupload.artifact, hpath]
      intro heq
      obtain ⟨hn, hv, -⟩ :=
        artifactPath_inj hupload.name_id hupload.version_id hname hversion heq
      exact hkeys r hr (Prod.ext hn hv)
    · show (shelf r).artifact ≠ _
      rw [hupload.artifact, hpath]
      exact reportPath_ne_artifactPath.symm
  · apply h.others _ hreport
    · show (shelf r).report ≠ _
      rw [hupload.report, hpath]
      exact reportPath_ne_artifactPath
    · show (shelf r).report ≠ _
      rw [hupload.report, hpath, Ne, reportPath_inj]
      exact hnames r hr

/-- An upload with a report name of its own keeps the records apart, and touches no file of
another record. -/
theorem Unmixed.upload (hc : c.Lawful) (hroot : toValidUTF8 root = root) (h : Unmixed c root p)
    (hnames : Unaliased c input p) :
  Unmixed c root (uploadArtifact c limits env input p).2 ∧
    ∀ records, readArtifactVersionRecords p.registry.index = some records →
      Untouched records p (uploadArtifact c limits env input p).2
  := by
  have houtcome := uploadArtifact_cases c limits env input p
  generalize uploadArtifact c limits env input p = out at houtcome
  rcases h with hnone | ⟨rs, hshelved, hdistinct⟩
  · -- nothing is uploaded any more
    have hrefused : ∀ name version payload, ¬ Accepted c limits env input p name version payload := by
      intro name version payload haccepted
      exact checkVersions_of_unreadable hnone haccepted.admitted.versions
    cases houtcome with
    | early e q hsame =>
        constructor
        · left
          rw [hsame.registry]
          exact hnone
        · intro records hread
          rw [hnone] at hread
          cases hread
    | placed name version payload e q haccepted _ =>
        exact absurd haccepted (hrefused name version payload)
    | persisted name version payload q dir res appended haccepted =>
        exact absurd haccepted (hrefused name version payload)
  · obtain ⟨records, hread, hshelf⟩ := hshelved.read hc hroot
    have hrecords := hshelved.uploads_read hshelf
    have hhistory : historyOf p.registry = records := by
      rw [historyOf, hread, Option.getD_some]
    have hall : ∀ q, Untouched records p q →
        ∀ records', readArtifactVersionRecords p.registry.index = some records' →
          Untouched records' p q := by
      intro q huntouched records' hread'
      rw [hread, Option.some_inj] at hread'
      rwa [← hread']
    -- what is known of an upload that is accepted
    have hfacts : ∀ name version payload, Accepted c limits env input p name version payload →
        (name, version) ∉ rs.map ArtifactVersionRecord.key ∧
          ∀ r ∈ records, r.key ≠ (name, version) ∧
            reportName r.artifactName r.artifactVersion r.artifactSHA256
              ≠ reportName name version (hexEncode (c.sha256 payload)) := by
      intro name version payload haccepted
      have hadmitted := haccepted.admitted
      obtain ⟨hnew, -⟩ := checkVersions_eq_ok hread hadmitted.versions
      have hkeys : ∀ r ∈ records, r.key ≠ (name, version) := by
        rintro r hr heq
        exact hnew (heq ▸ List.mem_map_of_mem hr)
      rw [map_key_of_map_shelf hshelf] at hnew
      use hnew
      intro r hr
      use hkeys r hr
      have hne := hkeys r hr
      rw [hadmitted.name_eq, hadmitted.version_eq] at hne ⊢
      exact hnames payload hadmitted.payload_eq r (hhistory ▸ hr) hne
    cases houtcome with
    | early e q hsame =>
        constructor
        · right
          use rs
          rw [hsame.registry]
          exact ⟨hshelved, hdistinct⟩
        · exact hall q (hsame.untouched hshelved.path hrecords)
    | placed name version payload e q haccepted hplaced =>
        obtain ⟨-, hrecord⟩ := hfacts name version payload haccepted
        constructor
        · right
          use rs
          rw [hplaced.registry]
          exact ⟨hshelved, hdistinct⟩
        · exact hall q (hplaced.untouched hshelved.path haccepted.admitted.name_id
            haccepted.admitted.version_id hrecords (fun r hr => (hrecord r hr).1)
            (fun r hr => (hrecord r hr).2))
    | persisted name version payload q dir res appended haccepted hplaced hpersisted =>
        obtain ⟨hnew, hrecord⟩ := hfacts name version payload haccepted
        have hupload := isUpload_recordOf c env input root payload
          haccepted.admitted.name_id haccepted.admitted.version_id
        rw [hshelved.path] at hpersisted
        have hhistory' := hshelved.persistUpload hc hupload hnew hpersisted
        constructor
        · show Unmixed c root { q with registry := dir }
          rcases hhistory' with ⟨-, -, hkept⟩ | ⟨-, hadded⟩
          · exact .inr ⟨rs, hkept, hdistinct⟩
          · split_ifs at hadded with hfit
            · refine .inr ⟨_, hadded, hdistinct.concat ?_⟩
              intro r hr
              obtain ⟨r', hr', heq⟩ := exists_mem_of_map_shelf hshelf.symm hr
              have hne := (hrecord r' hr').2
              show reportName (shelf r).name (shelf r).version (shelf r).sha ≠ _
              rw [← heq]
              exact hne
            · exact .inl hadded
        · exact hall _ (hplaced.untouched hshelved.path haccepted.admitted.name_id
            haccepted.admitted.version_id hrecords (fun r hr => (hrecord r hr).1)
            (fun r hr => (hrecord r hr).2))

end

/-! ### Two uploads -/

attribute [local instance] asciiTables

end CloudRegistry
