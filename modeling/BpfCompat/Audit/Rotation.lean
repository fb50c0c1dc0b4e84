import BpfCompat.Go.Strings
import BpfCompat.Slots
import BpfCompat.Transition

/-!
# Rotation of the audit streams

The stream of audit events and the stream of runtime decisions are kept in a ring of files.  Before
an event is appended a file that is too long is rotated: the oldest of the ring is removed, every
other file moves to the next number, and the active file becomes number one.  Any call may fail on
the way, and the rotation is tried again with the next event.

The events that are listed are always the latest ones (`latest_appendStep`).  A rotation loses one
file at most as long as no attempt fails once a file stands at the last number
(`rotation_drops_oldest`); an attempt that does leaves a file there that the next one removes.
-/

namespace Audit

open Go

/-! ### The source -/

/-- The files of a stream by their number, the active one at zero, each with its lines. -/
abbrev Files := ℕ → Option (List Str)

structure RotationConfig where
  maxBytes : Int
  maxFiles : Int

/-- The call of the operating system that fails. -/
inductive RotationFault where
  | statActive
  | statOldest
  | removeOldest
  | statShard (i : ℕ)
  | renameShard (i : ℕ)
  | renameActive
deriving DecidableEq

/-- The number of files besides the active one. -/
def RotationConfig.limit (cfg : RotationConfig) : ℕ := (max 1 cfg.maxFiles).toNat

/-- The bytes of a file. -/
def fileBytes (lines : List Str) : ℕ := (lines.map fun line => line.length + 1).sum

/-- Room is made at the last number. -/
def removeOldest (fault : Option RotationFault) (last : ℕ) (files : Files) :
    Except RotationFault Files :=
  if fault = some .statOldest then .error .statOldest
  else
    match files last with
    | none => .ok files
    | some _ =>
      if fault = some .removeOldest then .error .removeOldest
      else .ok (Function.update files last none)

/-- The files from the given number down to one move to the next number each. -/
def shiftShards (fault : Option RotationFault) : ℕ → Files → Except RotationFault Unit × Files
  | 0, files => (.ok (), files)
  | i + 1, files =>
    if fault = some (.statShard (i + 1)) then (.error (.statShard (i + 1)), files)
    else
      match files (i + 1) with
      | none => shiftShards fault i files
      | some _ =>
        if fault = some (.renameShard (i + 1)) then (.error (.renameShard (i + 1)), files)
        else shiftShards fault i (Slots.shift files (i + 1))

/-- The ring is shifted; the loop only makes room where it has a round. -/
def rotate (fault : Option RotationFault) (limit : ℕ) (files : Files) :
    Except RotationFault Unit × Files :=
  match if 2 ≤ limit then removeOldest fault limit files else .ok files with
  | .error e => (.error e, files)
  | .ok files =>
    match shiftShards fault (limit - 1) files with
    | (.error e, files) => (.error e, files)
    | (.ok _, files) =>
      if fault = some .renameActive then (.error .renameActive, files)
      else (.ok (), Slots.shift files 0)

/-- A file that has reached the limit is rotated. -/
def rotateIfNeeded (cfg : RotationConfig) (fault : Option RotationFault) (files : Files) :
    Except RotationFault Unit × Files :=
  if cfg.maxBytes ≤ 0 then (.ok (), files)
  else if fault = some .statActive then (.error .statActive, files)
  else
    match files 0 with
    | none => (.ok (), files)
    | some active =>
      if (fileBytes active : Int) < cfg.maxBytes then (.ok (), files)
      else rotate fault cfg.limit files

/-! The two streams are rotated alike. -/

def rotateAuditLogIfNeeded : RotationConfig → Option RotationFault → Files →
    Except RotationFault Unit × Files := rotateIfNeeded

def rotateDecisionEventStreamIfNeeded : RotationConfig → Option RotationFault → Files →
    Except RotationFault Unit × Files := rotateIfNeeded

/-- The numbers of the files that are read, the active one first. -/
def shardPaths (cfg : RotationConfig) : List ℕ := 0 :: (List.range cfg.limit).map (· + 1)

def auditLogShardPaths : RotationConfig → List ℕ := shardPaths

def decisionShardPaths : RotationConfig → List ℕ := shardPaths

inductive AppendFault where
  | openStream
  | closeStream
deriving DecidableEq

inductive AppendError where
  | rotation (fault : RotationFault)
  | stream (fault : AppendFault)
deriving DecidableEq

/-- What an event meets: the calls that fail. -/
structure Weather where
  rotation : Option RotationFault := none
  stream : Option AppendFault := none

/-- An event is written to the end of the active file, after that was rotated. -/
def appendEvent (rotateIfNeeded : RotationConfig → Option RotationFault → Files →
      Except RotationFault Unit × Files) (cfg : RotationConfig) (weather : Weather) (line : Str)
    (files : Files) : Except AppendError Unit × Files :=
  match rotateIfNeeded cfg weather.rotation files with
  | (.error e, files) => (.error (.rotation e), files)
  | (.ok _, files) =>
    if weather.stream = some .openStream then (.error (.stream .openStream), files)
    else
      let files := Function.update files 0 (some ((files 0).getD [] ++ [line]))
      if weather.stream = some .closeStream then (.error (.stream .closeStream), files)
      else (.ok (), files)

/-! ### Runs -/

/-- One of the streams. -/
inductive Stream where
  | audit
  | decisions

def Stream.rotateIfNeeded : Stream → RotationConfig → Option RotationFault → Files →
    Except RotationFault Unit × Files
  | .audit => rotateAuditLogIfNeeded
  | .decisions => rotateDecisionEventStreamIfNeeded

def Stream.shardPaths : Stream → RotationConfig → List ℕ
  | .audit => auditLogShardPaths
  | .decisions => decisionShardPaths

/-- A stream, and every line that was ever written to it. -/
structure Log where
  files : Files
  appended : List Str

/-- The line of an event is in the stream; it is when closing fails. -/
def written : Except AppendError Unit → Bool
  | .ok _ => true
  | .error (.stream .closeStream) => true
  | .error _ => false

/-- One event arrives. -/
def AppendStep (stream : Stream) (cfg : RotationConfig) (log log' : Log) : Prop :=
  ∃ weather line,
    let result := appendEvent stream.rotateIfNeeded cfg weather line log.files
    log' =
      { files := result.2
        appended := if written result.1 then log.appended ++ [line] else log.appended }

/-- The files that are listed, oldest first. -/
def shards (stream : Stream) (cfg : RotationConfig) (files : Files) : List (List Str) :=
  ((stream.shardPaths cfg).filterMap files).reverse

/-- The calls before any file is moved. -/
def openingFaults : List RotationFault := [.statActive, .statOldest, .removeOldest]

/-- An attempt that fails leaves the last number free: nothing fails once a file was moved
there. -/
def Harmless (cfg : RotationConfig) (files : Files) (fault : RotationFault) : Prop :=
  cfg.limit ≤ 1 ∨ files (cfg.limit - 1) = none ∨ fault ∈ openingFaults ∨
    fault = .statShard (cfg.limit - 1) ∨ fault = .renameShard (cfg.limit - 1)

/-- A rotation that completes, after any number of attempts that fail. -/
inductive Rotated (stream : Stream) (cfg : RotationConfig) : Files → Files → Prop where
  | completed {fault : Option RotationFault} {files files' : Files}
      (h : stream.rotateIfNeeded cfg fault files = (.ok (), files')) :
      Rotated stream cfg files files'
  | retried {fault : RotationFault} {e : RotationFault} {files files' files'' : Files}
      (harmless : Harmless cfg files fault)
      (h : stream.rotateIfNeeded cfg (some fault) files = (.error e, files'))
      (rest : Rotated stream cfg files' files'') : Rotated stream cfg files files''

/-! ### One attempt -/

section

open Slots

variable {fault : Option RotationFault} {files : Files} {n i m : ℕ}

/-- Shifting keeps what is present, and everything above the slots it works on. -/
theorem shiftShards_spec (fault : Option RotationFault) (files : Files) (hi : i < n)
    (hfree : files (i + 1) = none) :
  present (shiftShards fault i files).2 n = present files n ∧
    (∀ j, i + 1 < j → (shiftShards fault i files).2 j = files j) ∧
    ((shiftShards fault i files).1 = .ok () → (shiftShards fault i files).2 1 = none)
  := by
  induction i generalizing files with
  | zero => exact ⟨rfl, fun _ _ => rfl, fun _ => hfree⟩
  | succ i ih =>
      have hi' : i < n := (Nat.lt_succ_self i).trans hi
      rw [shiftShards]
      by_cases hstat : fault = some (.statShard (i + 1))
      · rw [if_pos hstat]
        exact ⟨rfl, fun _ _ => rfl, fun h => nomatch h⟩
      · rw [if_neg hstat]
        cases hfile : files (i + 1) with
        | none =>
            obtain ⟨hpresent, habove, hone⟩ := ih files hi' hfile
            dsimp only
            refine ⟨hpresent, ?_, hone⟩
            intro j hj
            apply habove j (Nat.lt_of_succ_lt hj)
        | some file =>
            dsimp only
            split_ifs with hrename
            · exact ⟨rfl, fun _ _ => rfl, fun h => nomatch h⟩
            · obtain ⟨hpresent, habove, hone⟩ := ih (shift files (i + 1)) hi' shift_self
              rw [present_shift hi hfree] at hpresent
              refine ⟨hpresent, ?_, hone⟩
              intro j hj
              rw [habove j (Nat.lt_of_succ_lt hj)]
              apply shift_of_ne
              · exact (Nat.lt_of_succ_lt hj).ne'
              · exact hj.ne'

/-- Shifting fails at a call on a numbered file. -/
theorem shiftShards_error {e : RotationFault} (h : (shiftShards fault i files).1 = .error e) :
  ∃ j, fault = some (.statShard j) ∨ fault = some (.renameShard j)
  := by
  induction i generalizing files with
  | zero => cases h
  | succ i ih =>
      rw [shiftShards] at h
      by_cases hstat : fault = some (.statShard (i + 1))
      · exact ⟨i + 1, .inl hstat⟩
      · rw [if_neg hstat] at h
        cases hfile : files (i + 1) with
        | none =>
            rw [hfile] at h
            apply ih h
        | some file =>
            rw [hfile] at h
            by_cases hrename : fault = some (.renameShard (i + 1))
            · exact ⟨i + 1, .inr hrename⟩
            · dsimp only at h
              rw [if_neg hrename] at h
              apply ih h

/-- Nothing comes to the slot above an empty one, nor when the first call fails. -/
theorem shiftShards_above (h : files (i + 1) = none ∨ fault = some (.statShard (i + 1)) ∨
      fault = some (.renameShard (i + 1))) (hi : i < n) (hfree : files (i + 2) = none) :
  (∃ e, (shiftShards fault (i + 1) files) = (.error e, files)) ∨
    (shiftShards fault (i + 1) files).2 (i + 2) = none
  := by
  rw [shiftShards]
  by_cases hstat : fault = some (.statShard (i + 1))
  · rw [if_pos hstat]
    exact .inl ⟨_, rfl⟩
  · rw [if_neg hstat]
    cases hfile : files (i + 1) with
    | none =>
        right
        have habove := (shiftShards_spec fault files hi hfile).2.1 _ (Nat.lt_succ_self _)
        apply habove.trans hfree
    | some file =>
        rw [hfile] at h
        have hrename := (h.resolve_left (Option.some_ne_none _)).resolve_left hstat
        dsimp only
        rw [if_pos hrename]
        exact .inl ⟨_, rfl⟩

theorem removeOldest_spec {opened : Files} (h : removeOldest fault (m + 1) files = .ok opened) :
  opened (m + 1) = none ∧ present opened (m + 1) = present files m ∧
    ∀ j, j ≠ m + 1 → opened j = files j
  := by
  rw [removeOldest] at h
  by_cases hstat : fault = some .statOldest
  · rw [if_pos hstat] at h
    cases h
  · rw [if_neg hstat] at h
    cases hfile : files (m + 1) with
    | none =>
        rw [hfile] at h
        cases h
        exact ⟨hfile, present_succ_of_none hfile, fun _ _ => rfl⟩
    | some file =>
        rw [hfile] at h
        by_cases hremove : fault = some .removeOldest
        · rw [if_pos hremove] at h
          cases h
        · rw [if_neg hremove] at h
          cases h
          refine ⟨Function.update_self _ _ _, present_clear, ?_⟩
          intro j hj
          apply Function.update_of_ne hj

theorem rotate_one :
  rotate fault 1 files
    = if fault = some .renameActive then (.error .renameActive, files)
      else (.ok (), shift files 0)
  := by
  rw [rotate, if_neg (by decide)]
  rfl

theorem rotate_of_shift_error {opened shifted : Files} {e : RotationFault}
    (hopened : removeOldest fault (m + 2) files = .ok opened)
    (hshift : shiftShards fault (m + 1) opened = (.error e, shifted)) :
  rotate fault (m + 2) files = (.error e, shifted)
  := by
  have hlast : m + 2 - 1 = m + 1 := rfl
  rw [rotate, if_pos (Nat.le_add_left 2 m), hopened]
  dsimp only
  rw [hlast, hshift]

theorem rotate_of_shift_ok {opened shifted : Files} {u : Unit}
    (hopened : removeOldest fault (m + 2) files = .ok opened)
    (hshift : shiftShards fault (m + 1) opened = (.ok u, shifted)) :
  rotate fault (m + 2) files
    = if fault = some .renameActive then (.error .renameActive, shifted)
      else (.ok (), shift shifted 0)
  := by
  have hlast : m + 2 - 1 = m + 1 := rfl
  rw [rotate, if_pos (Nat.le_add_left 2 m), hopened]
  dsimp only
  rw [hlast, hshift]

/-- What an attempt leaves: everything, or all but the last slot, which is free if nothing was moved
there. -/
theorem rotate_cases (fault : Option RotationFault) (m : ℕ) (files : Files) :
  (∃ e, rotate fault (m + 1) files = (.error e, files)) ∨
    present (rotate fault (m + 1) files).2 (m + 1) = present files m ∧
      ((rotate fault (m + 1) files).1 = .ok () ∨
        ∃ k, m = k + 1 ∧ (∀ f ∈ openingFaults, fault ≠ some f) ∧
          ((files (k + 1) = none ∨ fault = some (.statShard (k + 1)) ∨
            fault = some (.renameShard (k + 1))) → (rotate fault (m + 1) files).2 (m + 1) = none))
  := by
  cases m with
  | zero =>
      rw [rotate_one]
      by_cases hactive : fault = some .renameActive
      · rw [if_pos hactive]
        exact .inl ⟨_, rfl⟩
      · rw [if_neg hactive]
        right
        refine ⟨?_, .inl rfl⟩
        show (shift files 0 (0 + 1)).toList ++ (shift files 0 0).toList = (files 0).toList
        rw [shift_succ, shift_self]
        apply List.append_nil
  | succ k =>
      cases hopened : removeOldest fault (k + 2) files with
      | error e =>
          left
          use e
          rw [rotate, if_pos (Nat.le_add_left 2 k), hopened]
      | ok opened =>
          obtain ⟨hfree, hpresent, hsame⟩ := removeOldest_spec hopened
          have hlast : opened (k + 1) = files (k + 1) := hsame _ (Nat.lt_succ_self _).ne
          obtain ⟨hkept, -, hone⟩ := shiftShards_spec fault opened (Nat.lt_succ_self (k + 1)) hfree
          have habove : (files (k + 1) = none ∨ fault = some (.statShard (k + 1)) ∨
              fault = some (.renameShard (k + 1))) →
                (shiftShards fault (k + 1) opened).2 (k + 2) = none := by
            intro h
            rw [← hlast] at h
            rcases shiftShards_above h (Nat.lt_succ_self k) hfree with ⟨e, he⟩ | hnone
            · rw [he]
              exact hfree
            · exact hnone
          right
          cases hshift : shiftShards fault (k + 1) opened with
          | mk res shifted =>
              rw [hshift] at hkept hone habove
              cases res with
              | error e =>
                  have hlater : ∀ f ∈ openingFaults, fault ≠ some f := by
                    obtain ⟨j, rfl | rfl⟩ := shiftShards_error (congrArg Prod.fst hshift)
                    · simp [openingFaults]
                    · simp [openingFaults]
                  rw [rotate_of_shift_error hopened hshift, ← hpresent]
                  exact ⟨hkept, .inr ⟨k, rfl, hlater, habove⟩⟩
              | ok u =>
                  rw [rotate_of_shift_ok hopened hshift, ← hpresent]
                  by_cases hactive : fault = some .renameActive
                  · rw [if_pos hactive]
                    refine ⟨hkept, .inr ⟨k, rfl, ?_, habove⟩⟩
                    rw [hactive]
                    simp [openingFaults]
                  · rw [if_neg hactive]
                    refine ⟨?_, .inl rfl⟩
                    exact (present_shift (Nat.succ_pos _) (hone rfl)).trans hkept

variable {cfg : RotationConfig}

theorem limit_pos (cfg : RotationConfig) :
  ∃ m, cfg.limit = m + 1
  := by
  apply Nat.exists_eq_succ_of_ne_zero
  rw [RotationConfig.limit]
  omega

/-- An attempt as a whole. -/
theorem rotateIfNeeded_cases (cfg : RotationConfig) (fault : Option RotationFault) (files : Files)
    (hlimit : cfg.limit = m + 1) :
  (rotateIfNeeded cfg fault files).2 = files ∨
    present (rotateIfNeeded cfg fault files).2 (m + 1) = present files m ∧
      ((rotateIfNeeded cfg fault files).1 = .ok () ∨
        ∃ k, m = k + 1 ∧ (∀ f ∈ openingFaults, fault ≠ some f) ∧
          ((files (k + 1) = none ∨ fault = some (.statShard (k + 1)) ∨
            fault = some (.renameShard (k + 1))) →
              (rotateIfNeeded cfg fault files).2 (m + 1) = none))
  := by
  rw [rotateIfNeeded]
  split_ifs with hoff hstat
  · exact .inl rfl
  · exact .inl rfl
  · cases hactive : files 0 with
    | none => exact .inl rfl
    | some active =>
        dsimp only
        split_ifs with hshort
        · exact .inl rfl
        · rw [hlimit]
          rcases rotate_cases fault m files with ⟨e, he⟩ | hrotated
          · left
            rw [he]
          · exact .inr hrotated

/-- An attempt loses nothing but what stands at the last number. -/
theorem present_rotateIfNeeded (cfg : RotationConfig) (fault : Option RotationFault)
    (files : Files) :
  present (rotateIfNeeded cfg fault files).2 cfg.limit <:+ present files cfg.limit
  := by
  obtain ⟨m, hlimit⟩ := limit_pos cfg
  rw [hlimit]
  rcases rotateIfNeeded_cases cfg fault files hlimit with hsame | ⟨hpresent, -⟩
  · rw [hsame]
  · rw [hpresent, present]
    apply List.suffix_append

/-! ### Whole rotations -/

theorem rotateIfNeeded_stream (stream : Stream) :
  stream.rotateIfNeeded = rotateIfNeeded
  := by
  cases stream <;> rfl

/-- The files that are listed are the ones present. -/
theorem shards_eq (stream : Stream) (cfg : RotationConfig) (files : Files) :
  shards stream cfg files = present files cfg.limit
  := by
  have hpaths : stream.shardPaths cfg = 0 :: (List.range cfg.limit).map (· + 1) := by
    cases stream <;> rfl
  rw [shards, hpaths]
  induction cfg.limit with
  | zero => cases h : files 0 <;> simp [present, h]
  | succ n ih =>
      rw [List.range_succ, List.map_append, ← List.cons_append, List.filterMap_append,
        List.reverse_append, ih, present]
      cases h : files (n + 1) <;> simp [h]

/-- After harmless attempts that fail, everything is there, or all but the last file, whose number
is free. -/
theorem Rotated.present_eq {stream : Stream} {files files' : Files}
    (h : Rotated stream cfg files files') (hlimit : cfg.limit = m + 1) :
  present files' (m + 1) = present files (m + 1) ∨ present files' (m + 1) = present files m
  := by
  induction h with
  | @completed fault files files' h =>
      rw [rotateIfNeeded_stream] at h
      rcases rotateIfNeeded_cases cfg fault files hlimit with hsame | ⟨hpresent, -⟩
      · left
        rw [← hsame, h]
      · right
        rw [← hpresent, h]
  | @retried fault e files files' files'' hharmless h rest ih =>
      rw [rotateIfNeeded_stream] at h
      rcases rotateIfNeeded_cases cfg (some fault) files hlimit with hsame | ⟨hpresent, hfree⟩
      · rw [h] at hsame
        rw [← hsame]
        exact ih
      · rw [h] at hpresent hfree
        obtain ⟨k, rfl, hlater, hfree⟩ := hfree.resolve_left (fun hok => nomatch hok)
        have hearly : files (k + 1) = none ∨ some fault = some (.statShard (k + 1)) ∨
            some fault = some (.renameShard (k + 1)) := by
          rw [Harmless, hlimit] at hharmless
          rcases hharmless with hsmall | hnone | hopening | hstat | hrename
          · exact absurd hsmall (by omega)
          · exact .inl hnone
          · exact absurd rfl (hlater fault hopening)
          · exact .inr (.inl (congrArg some hstat))
          · exact .inr (.inr (congrArg some hrename))
        have hnone := hfree hearly
        have hlast : present files' (k + 2) = present files' (k + 1) := present_succ_of_none hnone
        right
        rcases ih with hih | hih
        · exact hih.trans hpresent
        · rw [hih, ← hlast]
          exact hpresent

/-! ### Runs of appends and rotations -/

/-- A line at the end of the active file is the last of all. -/
theorem flatten_present_update (files : Files) (line : Str) (n : ℕ) :
  (present (Function.update files 0 (some ((files 0).getD [] ++ [line]))) n).flatten
    = (present files n).flatten ++ [line]
  := by
  induction n with
  | zero => cases h : files 0 <;> simp [present, h]
  | succ n ih =>
      rw [present, present, List.flatten_append, List.flatten_append, List.append_assoc, ih,
        Function.update_of_ne (Nat.succ_ne_zero n)]

/-- The lines that are present are the last ones that were appended. -/
def Latest (cfg : RotationConfig) (log : Log) : Prop :=
  (present log.files cfg.limit).flatten <:+ log.appended

/-- An event is written to the rotated files, or nothing is. -/
theorem appendEvent_cases (cfg : RotationConfig) (weather : Weather) (line : Str) (files : Files) :
  ((appendEvent rotateIfNeeded cfg weather line files).2
        = (rotateIfNeeded cfg weather.rotation files).2 ∧
      written (appendEvent rotateIfNeeded cfg weather line files).1 = false) ∨
    ((appendEvent rotateIfNeeded cfg weather line files).2
        = Function.update (rotateIfNeeded cfg weather.rotation files).2 0
          (some (((rotateIfNeeded cfg weather.rotation files).2 0).getD [] ++ [line])) ∧
      written (appendEvent rotateIfNeeded cfg weather line files).1 = true)
  := by
  rw [appendEvent]
  cases rotateIfNeeded cfg weather.rotation files with
  | mk res files =>
      cases res with
      | error e => exact .inl ⟨rfl, rfl⟩
      | ok u =>
          dsimp only
          by_cases hopen : weather.stream = some .openStream
          · rw [if_pos hopen]
            exact .inl ⟨rfl, rfl⟩
          · rw [if_neg hopen]
            by_cases hclose : weather.stream = some .closeStream
            · rw [if_pos hclose]
              exact .inr ⟨rfl, rfl⟩
            · rw [if_neg hclose]
              exact .inr ⟨rfl, rfl⟩

theorem latest_appendStep {stream : Stream} {log log' : Log} (h : Latest cfg log)
    (hstep : AppendStep stream cfg log log') :
  Latest cfg log'
  := by
  obtain ⟨weather, line, rfl⟩ := hstep
  have hrotated : (present (rotateIfNeeded cfg weather.rotation log.files).2 cfg.limit).flatten
      <:+ log.appended :=
    (present_rotateIfNeeded cfg weather.rotation log.files).flatten.trans h
  rw [Latest, rotateIfNeeded_stream]
  rcases appendEvent_cases cfg weather line log.files with ⟨hfiles, hwritten⟩ | ⟨hfiles, hwritten⟩
  · dsimp only
    rw [hfiles, hwritten]
    apply hrotated
  · dsimp only
    rw [hfiles, hwritten, flatten_present_update, if_pos rfl, List.suffix_append_self_iff]
    apply hrotated

end

/-- A stream to which nothing was written. -/
def emptyLog : Log where
  files _ := none
  appended := []

/-- Whatever fails, the lines listed are the last ones appended, each as often as it was.  A
rotation whose failed attempts leave the last number free loses the oldest file at most. -/
theorem rotation_drops_oldest (stream : Stream) (cfg : RotationConfig) (log : Log)
    (run : Relation.ReflTransGen (AppendStep stream cfg) emptyLog log) :
  (shards stream cfg log.files).flatten <:+ log.appended ∧
    ∀ files, Rotated stream cfg log.files files →
      shards stream cfg files = shards stream cfg log.files ∨
        shards stream cfg files = (shards stream cfg log.files).tail
  := by
  simp only [shards_eq]
  constructor
  · have hempty : Latest cfg emptyLog := by
      have hnone : ∀ n, Slots.present emptyLog.files n = [] := by
        intro n
        induction n with
        | zero => rfl
        | succ n ih =>
            rw [Slots.present, ih]
            rfl
      rw [Latest, hnone]
      exact List.nil_suffix
    exact Transition.invariant (P := Latest cfg) (fun _ _ h hstep => latest_appendStep h hstep) run
      hempty
  · intro files hrotated
    obtain ⟨m, hlimit⟩ := limit_pos cfg
    rw [hlimit]
    rcases hrotated.present_eq hlimit with hsame | hlost
    · exact .inl hsame
    · rw [hlost]
      apply Slots.present_succ_cases

/-! ### A ring of three files -/

/-- Every event is rotated, into two files besides the active one. -/
def twoFiles : RotationConfig where
  maxBytes := 1
  maxFiles := 2

/-- The stream after an event that meets no failure. -/
def Log.next (log : Log) (line : Str) : Log where
  files := (appendEvent rotateAuditLogIfNeeded twoFiles {} line log.files).2
  appended := log.appended ++ [line]

/-- The stream after three events. -/
def threeEvents : Log := ((emptyLog.next (str "a")).next (str "b")).next (str "c")

theorem next_step {log : Log} {line : Str}
    (h : written (appendEvent rotateAuditLogIfNeeded twoFiles {} line log.files).1 = true) :
  AppendStep .audit twoFiles log (log.next line)
  := by
  use {}, line
  rw [Log.next]
  congr 1
  exact (if_pos h).symm

theorem threeEvents_run :
  Relation.ReflTransGen (AppendStep .audit twoFiles) emptyLog threeEvents
  := by
  apply Relation.ReflTransGen.tail _ (next_step (by decide))
  apply Relation.ReflTransGen.tail _ (next_step (by decide))
  apply Relation.ReflTransGen.single
  apply next_step
  decide

/-- The three events are listed in order, and a rotation that completes at once drops the first. -/
theorem rotation_drops_first :
  (shards .audit twoFiles threeEvents.files).flatten <:+ [str "a", str "b", str "c"] ∧
    ∃ files, Rotated .audit twoFiles threeEvents.files files ∧
      (shards .audit twoFiles files = shards .audit twoFiles threeEvents.files ∨
        shards .audit twoFiles files = (shards .audit twoFiles threeEvents.files).tail)
  := by
  obtain ⟨hlatest, hrotation⟩ := rotation_drops_oldest .audit twoFiles threeEvents threeEvents_run
  use hlatest
  have hok : (rotateAuditLogIfNeeded twoFiles none threeEvents.files).1 = .ok () := by
    decide
  have hrotated : Rotated .audit twoFiles threeEvents.files
      (rotateAuditLogIfNeeded twoFiles none threeEvents.files).2 :=
    .completed (Prod.ext hok rfl)
  exact ⟨_, hrotated, hrotation _ hrotated⟩

/-- The active file can not be moved at the first attempt; the second one removes a second file. -/
theorem rotation_drops_two :
  Relation.ReflTransGen (AppendStep .audit twoFiles) emptyLog threeEvents ∧
    ∃ files files', rotateAuditLogIfNeeded twoFiles (some .renameActive) threeEvents.files
        = (.error .renameActive, files) ∧
      rotateAuditLogIfNeeded twoFiles none files = (.ok (), files') ∧
      shards .audit twoFiles threeEvents.files = [[str "a"], [str "b"], [str "c"]] ∧
      shards .audit twoFiles files' = [[str "c"]]
  := by
  use threeEvents_run
  use (rotateAuditLogIfNeeded twoFiles (some .renameActive) threeEvents.files).2
  use (rotateAuditLogIfNeeded twoFiles none
    (rotateAuditLogIfNeeded twoFiles (some .renameActive) threeEvents.files).2).2
  refine ⟨Prod.ext ?_ rfl, Prod.ext ?_ rfl, ?_, ?_⟩ <;> decide

end Audit
