import BpfCompat.Agent.Decision
import BpfCompat.Registry.Bootstrap

/-!
# What the provenance of a selected record says

The record that was selected is looked for among the rows of a verification by its name, its version
and its run.  The rows say nothing of the artifact itself, so that a record is found whose artifact
is another one; and where no row of that name and version is of the run, the only one there is
counts.

What verification does say is about the history: every record in it is verified, so a record that
was taken from the history is one that was signed as it is (`provenance_about_history`).
-/

namespace Agent

open Go Registry Runtime

section

variable [CaseTables] {c : Crypto} {dir : WorkDir} {records : List ArtifactVersionRecord}

/-! ### Rows and records -/

/-- The row at a place is that of the record there. -/
theorem getElem?_verifyRows {i j : Nat} {prevComputed : Str} {row : ArtifactVersionVerification} :
  (verifyRows c dir i prevComputed records)[j]? = some row →
    ∃ record prev, records[j]? = some record ∧ row = verifyRow c dir (i + j) prev record
  := by
  induction records generalizing i j prevComputed with
  | nil =>
      intro h
      cases h
  | cons r records ih =>
      intro h
      rw [verifyRows] at h
      cases j with
      | zero =>
          cases h
          exact ⟨r, prevComputed, rfl, rfl⟩
      | succ j =>
          obtain ⟨record, prev, hrecord, hrow⟩ := ih h
          refine ⟨record, prev, hrecord, ?_⟩
          rw [hrow, Nat.add_assoc, Nat.add_comm 1 j]

theorem length_verifyRows (c : Crypto) (dir : WorkDir) (i : Nat) (prevComputed : Str)
    (records : List ArtifactVersionRecord) :
  (verifyRows c dir i prevComputed records).length = records.length
  := by
  induction records generalizing i prevComputed with
  | nil => rfl
  | cons r records ih => rw [verifyRows, List.length_cons, ih, List.length_cons]

/-- The row of a record. -/
theorem exists_row {i j : Nat} {prevComputed : Str} {record : ArtifactVersionRecord}
    (h : records[j]? = some record) :
  ∃ prev, (verifyRows c dir i prevComputed records)[j]?
    = some (verifyRow c dir (i + j) prev record)
  := by
  obtain ⟨hlt, -⟩ := List.getElem?_eq_some_iff.mp h
  rw [← length_verifyRows c dir i prevComputed] at hlt
  obtain ⟨record', prev, hrecord, hrow⟩ := getElem?_verifyRows (List.getElem?_eq_getElem hlt)
  rw [h, Option.some_inj] at hrecord
  subst hrecord
  exact ⟨prev, by rw [List.getElem?_eq_getElem hlt, hrow]⟩

/-! ### The row that is found -/

/-- A record has the name and version of another one, white space around them apart. -/
def SameVersion (record selected : ArtifactVersionRecord) : Prop :=
  trimSpace record.artifactName = trimSpace selected.artifactName ∧
    trimSpace record.artifactVersion = trimSpace selected.artifactVersion

/-- The record of a history at a place is the one that is found for a selected record. -/
structure FoundAt (records : List ArtifactVersionRecord) (selected : ArtifactVersionRecord)
    (i : Nat) (record : ArtifactVersionRecord) : Prop where
  at_place : records[i]? = some record
  same : SameVersion record selected
  run : trimSpace selected.runID ≠ [] ∧ trimSpace record.runID = trimSpace selected.runID ∨
    ∀ j other, records[j]? = some other → SameVersion other selected → j = i

theorem foundAt_of_findSelected {selected : ArtifactVersionRecord}
    {row : ArtifactVersionVerification} {i : Nat}
    (h : findSelectedVerificationRow (verifyRows c dir 0 [] records) selected = .ok (row, i)) :
  (verifyRows c dir 0 [] records)[i]? = some row ∧ ∃ record, FoundAt records selected i record
  := by
  rw [findSelectedVerificationRow] at h
  generalize hmatching : (verifyRows c dir 0 [] records).zipIdx.filter (fun row =>
    decide (trimSpace row.1.artifactName = trimSpace selected.artifactName ∧
      trimSpace row.1.artifactVersion = trimSpace selected.artifactVersion)) = matching at h
  -- a row that matches is that of a record with the name and version
  have hmem : ∀ pair ∈ matching, (verifyRows c dir 0 [] records)[pair.2]? = some pair.1 ∧
      ∃ record, records[pair.2]? = some record ∧ SameVersion record selected ∧
        record.runID = pair.1.runID := by
    intro pair hpair
    rw [← hmatching, List.mem_filter, decide_eq_true_eq] at hpair
    obtain ⟨hzip, hsame⟩ := hpair
    have hget := List.mk_mem_zipIdx_iff_getElem?.mp hzip
    obtain ⟨record, prev, hrecord, hrow⟩ := getElem?_verifyRows hget
    refine ⟨hget, record, hrecord, ?_, ?_⟩
    · rw [hrow] at hsame
      exact hsame
    · rw [hrow]
      rfl
  cases hfind : matching.find? fun row =>
      decide (trimSpace selected.runID ≠ [] ∧ trimSpace row.1.runID = trimSpace selected.runID) with
  | some pair =>
      simp only [hfind, Except.ok.injEq] at h
      subst h
      have hrun := List.find?_some hfind
      rw [decide_eq_true_eq] at hrun
      obtain ⟨hget, record, hrecord, hsame, hid⟩ := hmem _ (List.mem_of_find?_eq_some hfind)
      refine ⟨hget, record, hrecord, hsame, .inl ⟨hrun.1, ?_⟩⟩
      rw [hid]
      exact hrun.2
  | none =>
      simp only [hfind] at h
      rcases matching with - | ⟨pair, - | ⟨pair', matching⟩⟩
      · cases h
      · rw [Except.ok.injEq] at h
        subst h
        obtain ⟨hget, record, hrecord, hsame, -⟩ := hmem _ (List.mem_singleton_self _)
        refine ⟨hget, record, hrecord, hsame, .inr ?_⟩
        intro j other hother hsame'
        obtain ⟨prev, hrow⟩ := (exists_row hother : ∃ prev,
          (verifyRows c dir 0 [] records)[j]? = some (verifyRow c dir (0 + j) prev other))
        have hmatch : (verifyRow c dir (0 + j) prev other, j) ∈ [(row, i)] := by
          rw [← hmatching, List.mem_filter, decide_eq_true_eq]
          exact ⟨List.mk_mem_zipIdx_iff_getElem?.mpr hrow, hsame'⟩
        rw [List.mem_singleton, Prod.mk.injEq] at hmatch
        exact hmatch.2
      · cases h

/-! ### What a verification says -/

/-- The record at a place of a history is verified. -/
def VerifiedAt (c : Crypto) (dir : WorkDir) (records : List ArtifactVersionRecord) (i : Nat) :
    Prop :=
  ∃ row, (verifyRows c dir 0 [] records)[i]? = some row ∧ row.verified = true

/-- A provenance that is verified says that the whole history is. -/
theorem verified_of_provenance {selected : ArtifactVersionRecord}
    {result : HistoryVerificationResult}
    (h : verifySelectedArtifactProvenance c dir selected = .ok result) :
  ∃ records row i, readArtifactVersionRecords dir.index = some records ∧
    (∀ row ∈ verifyRows c dir 0 [] records, row.verified = true) ∧
    findSelectedVerificationRow (verifyRows c dir 0 [] records) selected = .ok (row, i) ∧
    result.selected.index = i
  := by
  rw [verifySelectedArtifactProvenance, verifyArtifactVersionHistory] at h
  cases hread : readArtifactVersionRecords dir.index with
  | none => simp [hread] at h
  | some records =>
      simp only [hread, Option.map_some] at h
      by_cases hnil : verifyRows c dir 0 [] records = []
      · rw [if_pos hnil] at h
        cases h
      · rw [if_neg hnil] at h
        cases hfind : findSelectedVerificationRow (verifyRows c dir 0 [] records) selected with
        | error e =>
            simp only [hfind] at h
            split_ifs at h
        | ok pair =>
            simp only [hfind] at h
            by_cases hfailing : (verifyRows c dir 0 [] records).filter (fun row => !row.verified) = []
            · rw [if_neg (not_not.mpr hfailing)] at h
              split_ifs at h
              obtain ⟨row, i⟩ := pair
              rw [Except.ok.injEq] at h
              refine ⟨records, row, i, rfl, ?_, hfind, ?_⟩
              · intro row hrow
                rw [List.filter_eq_nil_iff] at hfailing
                simpa using hfailing row hrow
              · rw [← h]
            · rw [if_pos hfailing] at h
              cases h

/-- A provenance that is verified says that every record of the history is, that one of them has the
name and version of the selected record, with its run or as the only one, and that the selected
record was signed as it is if it is one of the history. -/
theorem provenance_about_history (c : Crypto) (dir : WorkDir) (selected : ArtifactVersionRecord)
    (result : HistoryVerificationResult)
    (h : verifySelectedArtifactProvenance c dir selected = .ok result) :
  ∃ records, readArtifactVersionRecords dir.index = some records ∧
    (∀ i record, records[i]? = some record → VerifiedAt c dir records i) ∧
    (∃ record, FoundAt records selected result.selected.index record ∧
      VerifiedAt c dir records result.selected.index) ∧
    (selected ∈ records →
      verifyArtifactRecordSignature c dir selected (canonicalPayload selected) = .ok ())
  := by
  obtain ⟨records, row, i, hread, hall, hfind, hindex⟩ := verified_of_provenance h
  obtain ⟨hrow, record, hfound⟩ := foundAt_of_findSelected hfind
  refine ⟨records, hread, ?_, ⟨record, ?_, ?_⟩, ?_⟩
  · intro i record hrecord
    obtain ⟨prev, hrow⟩ := (exists_row hrecord : ∃ prev, (verifyRows c dir 0 [] records)[i]?
      = some (verifyRow c dir (0 + i) prev record))
    exact ⟨_, hrow, hall _ (List.mem_of_getElem? hrow)⟩
  · rw [hindex]
    exact hfound
  · rw [hindex]
    exact ⟨row, hrow, hall _ (List.mem_of_getElem? hrow)⟩
  · intro hselected
    obtain ⟨j, hj⟩ := List.mem_iff_getElem?.mp hselected
    obtain ⟨prev, hrow⟩ := (exists_row hj : ∃ prev, (verifyRows c dir 0 [] records)[j]?
      = some (verifyRow c dir (0 + j) prev selected))
    exact signature_of_verified (hall _ (List.mem_of_getElem? hrow))

end

/-! ### A record with another artifact -/

section

variable [CaseTables]

/-- The only row of a history is that of every record with its name and version. -/
theorem provenance_of_single {c : Crypto} {dir : WorkDir} {selected : ArtifactVersionRecord}
    {row : ArtifactVersionVerification} (hrows : verifyArtifactVersionHistory c dir = some [row])
    (hverified : row.verified = true)
    (hname : trimSpace row.artifactName = trimSpace selected.artifactName)
    (hversion : trimSpace row.artifactVersion = trimSpace selected.artifactVersion) :
  ∃ result, verifySelectedArtifactProvenance c dir selected = .ok result
  := by
  have hfind : findSelectedVerificationRow [row] selected = .ok (row, 0) := by
    rw [findSelectedVerificationRow]
    simp only [List.zipIdx_cons, List.zipIdx_nil, hname, hversion, and_self, decide_true,
      List.filter_cons_of_pos, List.filter_nil]
    split
    · rename_i pair hpair
      have hmem := List.mem_of_find?_eq_some hpair
      rw [List.mem_singleton] at hmem
      rw [hmem]
    · rfl
  rw [verifySelectedArtifactProvenance, hrows]
  simp only [hfind]
  simp [hverified]

end

section

attribute [local instance] asciiCaseTables

/-- The record of a version with the digest of an artifact. -/
def claimedRecord (digest : Str) : ArtifactVersionRecord where
  artifactName := str "a"
  artifactVersion := str "1"
  artifactSHA256 := digest

/-- The provenance of every such record is verified by a history of one record. -/
theorem provenance_claimed (digest : Str) :
  ∃ result, verifySelectedArtifactProvenance tabledCrypto (firstDir (str "1"))
    (claimedRecord digest) = .ok result
  := by
  have hholds := Holds.of_run tabledCrypto_lawful ⟨rfl, rfl⟩ emptyDir_extraKeysParse
    (firstDir_run (by decide : trimSpace (str "1") ≠ [])) sound_first
  obtain ⟨rows, hrows, hdescribed⟩ := hholds.verifies tabledCrypto_lawful sound_first
  rcases rows with - | ⟨row, - | ⟨row', rows⟩⟩
  · cases hdescribed
  · simp only [List.map_cons, List.map_nil, List.mapIdx_cons, List.mapIdx_nil, List.cons.injEq,
      Prod.mk.injEq, and_true] at hdescribed
    obtain ⟨hverified, -, -, hname, hversion⟩ := hdescribed
    apply provenance_of_single hrows hverified
    · rw [hname]
      rfl
    · rw [hversion]
      rfl
  · simp at hdescribed

theorem read_first :
  readArtifactVersionRecords (firstDir (str "1")).index
    = some [provenanced tabledCrypto zeroSeed [] (simpleRecord (str "1"))]
  := by
  have hseed : zeroSeed.length = 32 := List.length_replicate
  have hread := readArtifactVersionRecords_survives (sound_first.spec tabledCrypto_lawful hseed)
  rw [appended, appended, List.map_singleton, unlines_singleton] at hread
  exact hread

theorem provenance_about_first :
  ∃ result, verifySelectedArtifactProvenance tabledCrypto (firstDir (str "1"))
      (claimedRecord (str "00")) = .ok result ∧
    ∃ records, readArtifactVersionRecords (firstDir (str "1")).index = some records ∧
      ∃ record, FoundAt records (claimedRecord (str "00")) result.selected.index record
  := by
  obtain ⟨result, hresult⟩ := provenance_claimed (str "00")
  obtain ⟨records, hread, -, ⟨record, hfound, -⟩, -⟩ := provenance_about_history _ _ _ _ hresult
  exact ⟨result, hresult, records, hread, record, hfound⟩

/-- The provenance of a record is verified although the artifact of the signed one is another. -/
theorem other_artifact_verified :
  ¬ ∀ (c : Crypto) (dir : WorkDir) (selected : ArtifactVersionRecord)
      (result : HistoryVerificationResult),
    verifySelectedArtifactProvenance c dir selected = .ok result →
      ∃ records i record, readArtifactVersionRecords dir.index = some records ∧
        records[i]? = some record ∧ VerifiedAt c dir records i ∧ SameVersion record selected ∧
        (trimSpace selected.runID ≠ [] → trimSpace record.runID = trimSpace selected.runID) ∧
        record.artifactSHA256 = selected.artifactSHA256
  := by
  intro h
  obtain ⟨result, hresult⟩ := provenance_claimed (str "11")
  obtain ⟨records, i, record, hread, hrecord, -, -, -, hdigest⟩ := h _ _ _ _ hresult
  rw [read_first, Option.some_inj] at hread
  have hmem := List.mem_of_getElem? hrecord
  rw [← hread, List.mem_singleton] at hmem
  rw [hmem] at hdigest
  have hsigned : (provenanced tabledCrypto zeroSeed [] (simpleRecord (str "1"))).artifactSHA256
      = str "00" := rfl
  rw [hsigned] at hdigest
  exact absurd hdigest (by decide)

end

end Agent
