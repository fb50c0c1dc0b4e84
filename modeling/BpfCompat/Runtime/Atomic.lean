import BpfCompat.Runtime.Placement

/-!
# When a fetch is atomic

A fetch is to leave the output path as it was if it fails, and to leave the bytes the record states
there if it succeeds.  The hash is compared only behind the move, so this holds exactly if whatever
is moved to the output path passes that check, or was there before (`fetch_atomic_iff`).  A fetch
that succeeds is one as `Runtime.fetchArtifact` describes it (`fetchArtifact_sim`).
-/

namespace Runtime

open Go Registry

namespace FetchDisk

section

variable [CaseTables] {d : FetchDisk} {files : Files}

/-! ### The promise and the check -/

/-- What a fetch promises for the output path: a failure leaves it as it was, and a success with a
stated hash leaves a file of that hash. -/
def Atomic (d : FetchDisk) (sha256 : Str → Str) (files : Files) (record : ArtifactVersionRecord)
    (outDir : Str) : Prop :=
  match d.fetchArtifact sha256 files record outDir with
  | (.error _, files') =>
    match d.planFetch files record outDir with
    | .error _ => files' = files
    | .ok (_, _, target) => files' (absPath d.cwd target) = files (absPath d.cwd target)
  | (.ok result, files') =>
    trimSpace record.artifactSHA256 ≠ [] →
      ∃ content, files' (absPath d.cwd result.outputPath) = some content ∧
        hexEncode (sha256 content) = trimSpace record.artifactSHA256

/-- The bytes pass the check behind the move: the file can be hashed where it lies, and the record
states no hash or that of the bytes. -/
def Passes (d : FetchDisk) (sha256 : Str → Str) (record : ArtifactVersionRecord)
    (target bytes : Str) : Prop :=
  d.fault .inspect (absPath d.cwd target) = none ∧
    (trimSpace record.artifactSHA256 = [] ∨
      hexEncode (sha256 bytes) = trimSpace record.artifactSHA256)

/-- What is moved to the target passes the check or is what was there, and nothing is left there by a
copy that fails. -/
def Feed.Settles (d : FetchDisk) (sha256 : Str → Str) (files : Files)
    (record : ArtifactVersionRecord) (target : Str) (feed : Feed) : Prop :=
  (∀ bytes, feed.Moves d files target bytes →
    d.Passes sha256 record target bytes ∨ files (absPath d.cwd target) = some bytes) ∧
  ¬feed.Strands d files target

/-- There is nothing to fetch, or it settles at the output path. -/
def Settles (d : FetchDisk) (sha256 : Str → Str) (files : Files) (record : ArtifactVersionRecord)
    (outDir : Str) : Prop :=
  match d.planFetch files record outDir with
  | .error _ => True
  | .ok (source, remote, target) =>
    match d.feed files source remote with
    | .error _ => True
    | .ok feed => feed.Settles d sha256 files record target

omit [CaseTables] in
/-- The check of the file at its place. -/
theorem checkArtifact_cases {sha256 : Str → Str} {record : ArtifactVersionRecord}
    {placed target bytes : Str} (hplaced : absPath d.cwd placed = absPath d.cwd target)
    (hbytes : files (absPath d.cwd target) = some bytes) :
  (d.Passes sha256 record target bytes ∧ ∃ result, result.outputPath = placed ∧
      d.checkArtifact sha256 files record placed = .ok result) ∨
    (¬d.Passes sha256 record target bytes ∧ ∃ e,
      d.checkArtifact sha256 files record placed = .error e)
  := by
  rw [checkArtifact.eq_def, inspectArtifact.eq_def]
  have hopen : d.host.ioError .open placed = d.fault .inspect (absPath d.cwd target) := by
    rw [← hplaced]
    rfl
  have hcontent : files (absPath d.host.cwd placed) = some bytes := hplaced ▸ hbytes
  rw [hopen, hcontent]
  cases hinspect : d.fault .inspect (absPath d.cwd target) with
  | some e =>
      refine .inr ⟨fun h => ?_, _, rfl⟩
      rw [h.1] at hinspect
      cases hinspect
  | none =>
      dsimp only
      split_ifs with hhash
      · refine .inr ⟨?_, _, rfl⟩
        rintro ⟨-, hblank | hequal⟩
        · exact hhash.1 hblank
        · exact hhash.2 hequal
      · rw [not_and_or, not_not, not_not] at hhash
        exact .inl ⟨⟨hinspect, hhash⟩, _, rfl, rfl⟩

theorem planFetch_eq_ok {record : ArtifactVersionRecord} {outDir source target : Str} {remote : Bool}
    (h : d.planFetch files record outDir = .ok (source, remote, target)) :
  trimSpace outDir ≠ [] ∧ resolveFetchSource d.host files record = .ok (source, remote) ∧
    d.fault .mkdirAll outDir = none ∧ fetchTargetPath record source remote outDir = .ok target
  := by
  rw [planFetch, refuse_if_eq_ok_iff] at h
  obtain ⟨hout, h⟩ := h
  obtain ⟨⟨source', remote'⟩, hsource, h⟩ := bind_eq_ok_iff.mp h
  obtain ⟨_, hmkdir, h⟩ := bind_eq_ok_iff.mp h
  rw [step_eq_ok_iff] at hmkdir
  split at h
  · cases h
  · rename_i htarget
    cases h
    exact ⟨hout, hsource, hmkdir, htarget⟩

/-! ### Fetches that succeed -/

section

variable {files' : Files}

omit [CaseTables] in
theorem copyLocalArtifactToPath_sim {path target placed : Str}
    (h : d.copyLocalArtifactToPath files path target = (.ok placed, files')) :
  Runtime.copyLocalArtifactToPath d.host files path target = .ok (placed, files')
  := by
  rw [copyLocalArtifactToPath, stage] at h
  cases hopen : d.openStaged files path (dir target) with
  | error e =>
      rw [hopen] at h
      cases h
  | ok content =>
      have hopens := openStaged_eq_ok_iff.mp hopen
      cases hfault : d.stageFault (d.stagedPath path (dir target)) content with
      | some failure =>
          rw [hopen] at h
          dsimp only at h
          rw [hfault] at h
          cases h
      | none =>
          have hfills := stageFault_eq_none_iff.mp hfault
          have hcopy : d.host.ioError .copy (d.stagedPath path (dir target)) = none := by
            simp only [host, hopens.create, hfills .copy (by decide), Option.or_none]
          have hfree := hopens.free
          have hcontent : files (absPath d.host.cwd path) = some content := hopens.content
          have hstaged : joinPath [absPath d.host.cwd (dir target), base (absPath d.host.cwd path)] =
            d.stagedPath path (dir target) := rfl
          rw [hopen] at h
          dsimp only at h
          rw [hfault] at h
          dsimp only at h
          rw [Runtime.copyLocalArtifactToPath.eq_def]
          dsimp only
          rw [hcontent, hstaged]
          dsimp only
          rw [hfree, hcopy]
          dsimp only
          rw [if_neg (by simp)]
          split_ifs at h ⊢ with hsame
          · cases h
            rfl
          · have hrename : d.host.ioError .rename
              (joinPath [dir (d.stagedPath path (dir target)), base target]) =
                d.fault .rename (joinPath [dir (d.stagedPath path (dir target)), base target]) := rfl
            rw [hrename]
            cases hfault' : d.fault .rename
                (joinPath [dir (d.stagedPath path (dir target)), base target]) with
            | some e =>
                rw [hfault'] at h
                cases h
            | none =>
                rw [hfault', Files.set_set, Files.set_same] at h
                cases h
                rfl

omit [CaseTables] in
theorem fetchHTTPArtifact_sim {uri target : Str}
    (h : d.fetchHTTPArtifact files uri target = (.ok (), files')) :
  ∃ content, d.host.download uri = .ok content ∧ files' (absPath d.cwd target) = some content
  := by
  rw [fetchHTTPArtifact.eq_def] at h
  cases hget : d.get uri with
  | error e =>
      rw [hget] at h
      cases h
  | ok body =>
      rw [hget] at h
      dsimp only at h
      split at h
      · cases h
      · cases h
      · cases h
      · split_ifs at h
        · cases h
        · split at h
          · cases h
          · obtain ⟨-, rfl⟩ := Prod.mk.inj h
            refine ⟨d.limited body, ?_, Files.set_same _ _ _⟩
            have hdownload : d.host.download uri = (d.get uri).map d.limited := rfl
            rw [hdownload, hget]
            rfl

omit [CaseTables] in
theorem inspectArtifact_congr {sha256 : Str → Str} {path : Str}
    (h : files (absPath d.cwd path) = files' (absPath d.cwd path)) :
  inspectArtifact sha256 d.host files path = inspectArtifact sha256 d.host files' path
  := by
  have h' : files (absPath d.host.cwd path) = files' (absPath d.host.cwd path) := h
  rw [inspectArtifact.eq_def, inspectArtifact.eq_def, h']

theorem fetchRemoteArtifact_sim {uri target : Str}
    (h : d.fetchRemoteArtifact files uri target = (.ok (), files')) :
  ∃ files'', Runtime.fetchRemoteArtifact d.host files uri target = .ok files'' ∧
    files'' (absPath d.cwd target) = files' (absPath d.cwd target)
  := by
  rw [fetchRemoteArtifact.eq_def, remoteFeed.eq_def] at h
  rw [Runtime.fetchRemoteArtifact.eq_def]
  cases hurl : parseUrl uri with
  | none =>
      rw [hurl] at h
      cases h
  | some u =>
      rw [hurl] at h
      dsimp only at h ⊢
      split_ifs at h ⊢ with hhttp hfile henabled hhost hpath hstat
      · obtain ⟨content, hdownload, hcontent⟩ := fetchHTTPArtifact_sim h
        rw [hdownload]
        refine ⟨_, rfl, ?_⟩
        rw [hcontent]
        exact Files.set_same _ _ _
      · cases h
      · cases h
      · cases h
      · cases h
      · dsimp only at h
        cases hcopy : d.copyLocalArtifactToPath files (clean u.path) target with
        | mk r files'' =>
            cases r with
            | error e =>
                rw [hcopy] at h
                cases h
            | ok placed =>
                rw [hcopy] at h
                obtain ⟨-, rfl⟩ := Prod.mk.inj h
                rw [copyLocalArtifactToPath_sim hcopy]
                exact ⟨_, rfl, rfl⟩
      · cases h

theorem stageArtifact_sim {source target placed : Str} {remote : Bool}
    (h : d.stageArtifact files source target remote = (.ok placed, files')) :
  ∃ files'', Runtime.stageArtifact d.host files source target remote = .ok (placed, files'') ∧
    files'' (absPath d.cwd placed) = files' (absPath d.cwd placed)
  := by
  cases remote with
  | false => exact ⟨files', copyLocalArtifactToPath_sim h, rfl⟩
  | true =>
      rw [stageArtifact, if_pos rfl] at h
      cases hfetch : d.fetchRemoteArtifact files source target with
      | mk r files₁ =>
          cases r with
          | error e =>
              rw [hfetch] at h
              cases h
          | ok u =>
              rw [hfetch] at h
              obtain ⟨hplaced, rfl⟩ := Prod.mk.inj h
              cases hplaced
              obtain ⟨files'', hcoarse, hfiles⟩ := fetchRemoteArtifact_sim hfetch
              refine ⟨files'', ?_, hfiles⟩
              rw [Runtime.stageArtifact, if_pos rfl, hcoarse]
              rfl

/-- A fetch that succeeds here succeeds with the same result where only successes are followed, and
the file at the output path is the same. -/
theorem fetchArtifact_sim {sha256 : Str → Str} {record : ArtifactVersionRecord} {outDir : Str}
    {result : FetchResult}
    (h : d.fetchArtifact sha256 files record outDir = (.ok result, files')) :
  ∃ files'', Runtime.fetchArtifact sha256 d.host files record outDir = .ok (result, files'') ∧
    files'' (absPath d.cwd result.outputPath) = files' (absPath d.cwd result.outputPath)
  := by
  rw [fetchArtifact.eq_def] at h
  cases hplan : d.planFetch files record outDir with
  | error e =>
      rw [hplan] at h
      cases h
  | ok plan =>
      obtain ⟨source, remote, target⟩ := plan
      rw [hplan] at h
      dsimp only at h
      cases hstage : d.stageArtifact files source target remote with
      | mk r files₁ =>
          rw [hstage] at h
          cases r with
          | error e => cases h
          | ok placed =>
              dsimp only at h
              obtain ⟨hcheck, rfl⟩ := Prod.mk.inj h
              obtain ⟨files'', hcoarse, hfiles⟩ := stageArtifact_sim hstage
              obtain ⟨hout, hsource, hmkdir, htarget⟩ := planFetch_eq_ok hplan
              have hmkdir' : d.host.ioError .mkdirAll outDir = none := hmkdir
              have hinspect : inspectArtifact sha256 d.host files'' placed =
                  inspectArtifact sha256 d.host files₁ placed :=
                inspectArtifact_congr hfiles
              rw [Runtime.fetchArtifact, if_neg hout, hsource]
              dsimp only [Bind.bind, Except.bind]
              rw [hmkdir', htarget]
              dsimp only [Bind.bind, Except.bind]
              rw [hcoarse]
              dsimp only [Bind.bind, Except.bind]
              rw [hinspect]
              rw [checkArtifact.eq_def] at hcheck
              cases hactual : inspectArtifact sha256 d.host files₁ placed with
              | error e =>
                  rw [hactual] at hcheck
                  cases hcheck
              | ok actual =>
                  rw [hactual] at hcheck
                  dsimp only at hcheck ⊢
                  split_ifs at hcheck ⊢
                  cases hcheck
                  exact ⟨files'', rfl, hfiles⟩

end

/-! ### Fetches that fail -/

omit [CaseTables] in
/-- Whether the transfer settles, read off the files it leaves. -/
theorem Effect.settles_iff {sha256 : Str → Str} {record : ArtifactVersionRecord} {target placed : Str}
    {feed : Feed} {files' : Files} {r : Except Str Str}
    (h : Effect (feed.Moves d files target) (feed.Strands d files target) (absPath d.cwd target) files
      files' placed r)
    (hplaced : absPath d.cwd placed = absPath d.cwd target) :
  feed.Settles d sha256 files record target ↔
    match r.bind (d.checkArtifact sha256 files' record) with
    | .error _ => files' (absPath d.cwd target) = files (absPath d.cwd target)
    | .ok result => trimSpace record.artifactSHA256 ≠ [] →
      ∃ content, files' (absPath d.cwd result.outputPath) = some content ∧
        hexEncode (sha256 content) = trimSpace record.artifactSHA256
  := by
  cases h with
  | unchanged e hmoves hstrands hpath =>
      have hsettles : feed.Settles d sha256 files record target :=
        ⟨fun bytes hbytes => absurd hbytes (hmoves bytes), hstrands⟩
      exact iff_of_true hsettles hpath
  | stranded e hstrands hnone hpath =>
      apply iff_of_false
      · exact fun hsettles => hsettles.2 hstrands
      · intro hequal
        exact hpath (Eq.trans hequal hnone)
  | moved bytes hmoves hpath =>
      have hsettles : feed.Settles d sha256 files record target ↔
          d.Passes sha256 record target bytes ∨ files (absPath d.cwd target) = some bytes := by
        constructor
        · exact fun h => h.1 bytes hmoves
        · intro h
          refine ⟨fun bytes' hmoves' => ?_, not_strands_of_moves hmoves⟩
          rw [moves_unique hmoves' hmoves]
          exact h
      rw [hsettles]
      dsimp only [Except.bind]
      obtain ⟨hpasses, result, hresult, hcheck⟩ | ⟨hpasses, e, hcheck⟩ :=
        checkArtifact_cases hplaced hpath
      · rw [hcheck]
        apply iff_of_true (.inl hpasses)
        intro hstated
        refine ⟨bytes, ?_, hpasses.2.resolve_left hstated⟩
        rw [hresult, hplaced, hpath]
      · rw [hcheck, hpath, or_iff_right hpasses, eq_comm]

/-- The output path of a fetch is as it was after a failure, and holds what the record states after a
success, exactly if what is moved there passes the check behind the move. -/
theorem fetch_atomic_iff (d : FetchDisk) (sha256 : Str → Str) (files : Files)
    (record : ArtifactVersionRecord) (outDir : Str) :
  d.Atomic sha256 files record outDir ↔ d.Settles sha256 files record outDir
  := by
  rw [Atomic, Settles, fetchArtifact]
  cases hplan : d.planFetch files record outDir with
  | error e => simp
  | ok plan =>
      obtain ⟨source, remote, target⟩ := plan
      obtain ⟨hblank, -, -, htarget⟩ := planFetch_eq_ok hplan
      obtain ⟨name, hname, hpart, htarget⟩ := fetchTargetPath_eq_ok htarget
      have hout : outDir ≠ [] := by
        rintro rfl
        exact hblank (by decide)
      dsimp only
      cases hfeed : d.feed files source remote with
      | error e =>
          rw [stageArtifact_error hfeed]
          simp
      | ok feed =>
          have heffect := stageArtifact_effect hout hname htarget hpart hfeed
          have hplaced : absPath d.cwd (if remote then target else absPath d.cwd target) =
              absPath d.cwd target := by
            split_ifs
            · rfl
            · exact absPath_absPath d.rooted target
          dsimp only
          rw [heffect.settles_iff hplaced]
          obtain ⟨r, files'⟩ := d.stageArtifact files source target remote
          cases r with
          | error e => rfl
          | ok staged =>
              dsimp only [Except.bind]
              cases d.checkArtifact sha256 files' record staged with
              | error e => rfl
              | ok result => rfl

end

attribute [local instance] asciiCaseTables

/-- A disk on which nothing fails. -/
def faultless : FetchDisk where
  cwd := str "/srv"
  rooted := by decide
  getenv _ := []
  fault _ _ := none
  written _ := 0
  get _ := .error (str "download artifact: no route to host")

/-- A record of the file at `new/probe.o`, with a hash of zeroes. -/
def zeroHashRecord : ArtifactVersionRecord :=
  { artifactName := str "probe"
    artifactVersion := str "1"
    artifactPath := str "/srv/new/probe.o"
    artifactSHA256 := List.replicate 64 48 }

def probeFiles : Files :=
  (Files.set (fun _ => none) (str "/srv/new/probe.o") (some (str "new"))).set
    (str "/srv/out/probe-1.o") (some (str "old"))

theorem plan_zeroHash :
  faultless.planFetch probeFiles zeroHashRecord (str "out") =
    .ok (str "/srv/new/probe.o", false, str "out/probe-1.o")
  := by
  decide +kernel

theorem stage_zeroHash :
  (faultless.stageArtifact probeFiles (str "/srv/new/probe.o") (str "out/probe-1.o") false).1 =
      .ok (str "/srv/out/probe-1.o") ∧
    (faultless.stageArtifact probeFiles (str "/srv/new/probe.o") (str "out/probe-1.o") false).2
      (str "/srv/out/probe-1.o") = some (str "new")
  := by
  decide +kernel

/-- A file with another hash than the record states is refused, and stands in place of the old one. -/
theorem refused_artifact_stays :
  ¬∃ sha256 : Str → Str, sha256 (str "new") ≠ List.replicate 32 0 ∧
    faultless.Atomic sha256 probeFiles zeroHashRecord (str "out")
  := by
  rintro ⟨sha256, hsha, hatomic⟩
  obtain ⟨hplaced, hfile⟩ := stage_zeroHash
  rw [Atomic, fetchArtifact, plan_zeroHash] at hatomic
  dsimp only at hatomic
  generalize faultless.stageArtifact probeFiles (str "/srv/new/probe.o") (str "out/probe-1.o") false
    = out at hplaced hfile hatomic
  obtain ⟨r, files'⟩ := out
  dsimp only at hplaced hfile hatomic
  subst hplaced
  have habs : absPath faultless.cwd (str "/srv/out/probe-1.o") =
      absPath faultless.cwd (str "out/probe-1.o") := by decide
  have htarget : absPath faultless.cwd (str "out/probe-1.o") = str "/srv/out/probe-1.o" := by decide
  have hnew : files' (absPath faultless.cwd (str "out/probe-1.o")) = some (str "new") := by
    rw [htarget, hfile]
  have hrefused : ¬faultless.Passes sha256 zeroHashRecord (str "out/probe-1.o") (str "new") := by
    rintro ⟨-, hblank | hequal⟩
    · exact absurd hblank (by decide)
    · apply hsha
      apply hexEncode_injective
      exact hequal.trans (by decide)
  obtain ⟨hpasses, -⟩ | ⟨-, e, hcheck⟩ := checkArtifact_cases habs hnew
  · exact hrefused hpasses
  · dsimp only at hatomic
    rw [hcheck] at hatomic
    have hold : files' (absPath faultless.cwd (str "out/probe-1.o")) =
      probeFiles (absPath faultless.cwd (str "out/probe-1.o")) := hatomic
    rw [hnew] at hold
    exact absurd hold (by decide)

end FetchDisk

end Runtime
