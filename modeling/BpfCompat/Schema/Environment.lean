import BpfCompat.Go.Strings

/-!
# Kernel series and distributions

When an observed kernel belongs to a requested kernel family, and when the guest is the
distribution a profile names.  Both questions have three answers: yes, no, and that the
recorded text carries no identity to compare.  The runner records the answers and the
release gate recomputes them, so both are functions of the recorded text alone, and
neither changes when stray bytes of that text are replaced on the way through a JSON
document.
-/

namespace Schema

open Go

/-! ### Kernel series -/

/-- The major and minor number a release begins with, and the text after them. -/
def leadingSeries (s : Str) : Option (Str × Str × Str) :=
  let major := s.takeWhile isDecimal
  let rest := s.dropWhile isDecimal
  match rest with
  | [] => none
  | dot :: rest =>
    let minor := rest.takeWhile isDecimal
    if major.isEmpty || dot != '.'.toUInt8 || minor.isEmpty then none
    else some (major, minor, rest.dropWhile isDecimal)

theorem leadingSeries_toValidUTF8 (s : Str) :
  leadingSeries (toValidUTF8 s)
    = (leadingSeries s).map fun m => (m.1, m.2.1, toValidUTF8 m.2.2)
  := by
  have hdec : ∀ b, isDecimal b → b < 128 := fun b => lt_of_isDecimal
  obtain ⟨htake, hdrop⟩ := takeWhile_toValidUTF8 hdec s
  simp only [leadingSeries, htake, hdrop]
  cases s.dropWhile isDecimal with
  | nil => rfl
  | cons dot rest =>
      obtain ⟨-, hv⟩ | ⟨hge, dot', rest', hv, hge'⟩ := toValidUTF8_cons dot rest
      · obtain ⟨htake', hdrop'⟩ := takeWhile_toValidUTF8 hdec rest
        simp only [hv, htake', hdrop']
        split_ifs <;> rfl
      · have hne : ∀ b : UInt8, ¬ b < 128 → (b != '.'.toUInt8) = true := by
          intro b hb
          rw [bne_iff_ne]
          rintro rfl
          exact hb (by decide)
        simp [hv, hne dot hge, hne dot' hge']

section

variable [UnicodeTables]

/-- The text after a series does not continue it with a letter or a digit. -/
def endsSeries (rest : Str) : Bool :=
  match runes rest with
  | [] => true
  | r :: _ => !(UnicodeTables.isLetter r.value || UnicodeTables.isDigit r.value)

/-- The kernel series `MAJOR.MINOR` of a kernel family or of an observed release. -/
def kernelSeries (s : Str) : Option Str :=
  match leadingSeries (trimSpace s) with
  | none => none
  | some (major, minor, rest) =>
    if endsSeries rest then some (major ++ str "." ++ minor) else none

/-- Whether an observed kernel belongs to the requested family, absent when either side
carries no readable series. -/
def kernelFamilyMatch (requestedFamily observedKernel : Str) : Option Bool :=
  match kernelSeries requestedFamily, kernelSeries observedKernel with
  | some want, some got => some (want == got)
  | _, _ => none

theorem endsSeries_toValidUTF8 (s : Str) :
  endsSeries (toValidUTF8 s) = endsSeries s
  := by
  rw [endsSeries, endsSeries, runes_toValidUTF8]
  cases runes s with
  | nil => rfl
  | cons r l => rfl

theorem kernelSeries_toValidUTF8 (s : Str) :
  kernelSeries (toValidUTF8 s) = kernelSeries s
  := by
  rw [kernelSeries, kernelSeries, trimSpace_toValidUTF8, leadingSeries_toValidUTF8]
  cases leadingSeries (trimSpace s) with
  | none => rfl
  | some m => simp only [Option.map_some, endsSeries_toValidUTF8]

theorem kernelFamilyMatch_toValidUTF8 (s t : Str) :
  kernelFamilyMatch (toValidUTF8 s) (toValidUTF8 t) = kernelFamilyMatch s t
  := by
  rw [kernelFamilyMatch, kernelFamilyMatch, kernelSeries_toValidUTF8, kernelSeries_toValidUTF8]

theorem kernelSeries_trimSpace (s : Str) :
  kernelSeries (trimSpace s) = kernelSeries s
  := by
  rw [kernelSeries, kernelSeries, trimSpace_trimSpace]

/-- A blank string carries no series. -/
theorem kernelSeries_blank {s : Str} (h : trimSpace s = []) :
  kernelSeries s = none
  := by
  rw [kernelSeries, h]
  rfl

/-- An answer was derived from two kernel series. -/
theorem kernelFamilyMatch_eq_some {s t : Str} {m : Bool} (h : kernelFamilyMatch s t = some m) :
  ∃ want got, kernelSeries s = some want ∧ kernelSeries t = some got ∧ m = (want == got)
  := by
  rw [kernelFamilyMatch] at h
  split at h
  · rename_i want got hs ht
    use want, got, hs, ht
    simpa using h.symm
  · cases h

/-- An observed kernel belongs to a family when both carry the same kernel series. -/
def InSeries (family observed : Str) : Prop :=
  ∃ series, kernelSeries family = some series ∧ kernelSeries observed = some series

theorem kernelFamilyMatch_eq_true_iff {family observed : Str} :
  kernelFamilyMatch family observed = some true ↔ InSeries family observed
  := by
  constructor
  · intro h
    obtain ⟨want, got, hs, ht, hm⟩ := kernelFamilyMatch_eq_some h
    have hwg : want = got := by simpa using hm.symm
    subst hwg
    use want
  · rintro ⟨series, hs, ht⟩
    simp [kernelFamilyMatch, hs, ht]

end

/-! ### Distributions -/

/-- The `os-release` identifiers the guest of a profile may report. -/
def profileDistroOSIDs : List (Str × List Str) :=
  [(str "almalinux", [str "almalinux"]),
    (str "amazon-linux", [str "amzn"]),
    (str "azurelinux", [str "azurelinux", str "mariner"]),
    (str "centos-stream", [str "centos"]),
    (str "debian", [str "debian"]),
    (str "fedora-coreos", [str "fedora"]),
    (str "flatcar", [str "flatcar"]),
    (str "opensuse", [str "opensuse-leap"]),
    (str "oracle", [str "ol"]),
    (str "rhcos", [str "rhcos"]),
    (str "rhel", [str "rhel"]),
    (str "rocky", [str "rocky"]),
    (str "sles", [str "sles"]),
    (str "ubuntu", [str "ubuntu"])]

/-- The leading numeric component of a release. -/
def majorVersion (v : Str) : Option Int :=
  match atoi ((trimSpace v).takeWhile (· != '.'.toUInt8)) with
  | none => none
  | some n => if n < 0 then none else some n

theorem majorVersion_toValidUTF8 (v : Str) :
  majorVersion (toValidUTF8 v) = majorVersion v
  := by
  rw [majorVersion, majorVersion, trimSpace_toValidUTF8, atoi_takeWhile_toValidUTF8 (by decide)]

/-- Every known identifier is ASCII. -/
theorem ascii_of_mem_profileDistroOSIDs {distro : Str} {allowed : List Str} {id : Str}
    (h : profileDistroOSIDs.lookup distro = some allowed) (hid : id ∈ allowed) :
  ∀ b ∈ id, b < 128
  := by
  have key : ∀ p ∈ profileDistroOSIDs, ∀ id ∈ p.2, ∀ b ∈ id, b < 128 := by decide
  obtain ⟨l, m, hlm, -⟩ := List.lookup_eq_some_iff.mp h
  have hmem : (distro, allowed) ∈ profileDistroOSIDs := by simp [hlm]
  apply key _ hmem id hid

section

variable [UnicodeTables]

/-- Whether the identity a guest reports is the distribution, and where both sides carry
a numeric major version the major release, that a profile names; absent when either side
carries no identity. -/
def distroMatch (profileDistro profileVersion osID osVersionID : Str) : Option Bool :=
  match profileDistroOSIDs.lookup (toLower (trimSpace profileDistro)) with
  | none => none
  | some allowed =>
    let osID := trimSpace osID
    if osID = [] then none
    else if osID ∉ allowed then some false
    else
      match majorVersion profileVersion, majorVersion osVersionID with
      | some want, some got => some (want == got)
      | _, _ => some true

theorem distroMatch_toValidUTF8 (d v i w : Str) :
  distroMatch (toValidUTF8 d) (toValidUTF8 v) (toValidUTF8 i) (toValidUTF8 w) = distroMatch d v i w
  := by
  rw [distroMatch, distroMatch, trimSpace_toValidUTF8, toLower_toValidUTF8, trimSpace_toValidUTF8,
    majorVersion_toValidUTF8, majorVersion_toValidUTF8]
  cases hl : profileDistroOSIDs.lookup (toLower (trimSpace d)) with
  | none => rfl
  | some allowed =>
      have hmem : toValidUTF8 (trimSpace i) ∈ allowed ↔ trimSpace i ∈ allowed := by
        constructor
        · intro h
          have hi := (toValidUTF8_eq_iff (ascii_of_mem_profileDistroOSIDs hl h)).mp rfl
          rwa [← hi] at h
        · intro h
          rwa [toValidUTF8_of_ascii (ascii_of_mem_profileDistroOSIDs hl h)]
      simp only [toValidUTF8_eq_nil, hmem]

/-- Trimming the recorded text does not change the answer. -/
theorem distroMatch_trimSpace (d v i w : Str) :
  distroMatch (trimSpace d) (trimSpace v) (trimSpace i) (trimSpace w) = distroMatch d v i w
  := by
  simp only [distroMatch, majorVersion, trimSpace_trimSpace]

/-- No answer is derived without an observed identity. -/
theorem distroMatch_blank_osID {i : Str} (hi : trimSpace i = []) (d v w : Str) :
  distroMatch d v i w = none
  := by
  rw [distroMatch]
  split
  · rfl
  · simp [hi]

/-- No answer is derived without a requested distribution. -/
theorem distroMatch_blank_distro {d : Str} (hd : trimSpace d = []) (v i w : Str) :
  distroMatch d v i w = none
  := by
  have h : profileDistroOSIDs.lookup (toLower []) = none := by
    have h' : toLower [] = [] := rfl
    rw [h']
    decide
  rw [distroMatch, hd, h]

/-- Whether an answer can be derived does not depend on the versions. -/
theorem distroMatch_eq_none_iff {d v i w v' w' : Str} :
  distroMatch d v i w = none ↔ distroMatch d v' i w' = none
  := by
  rw [distroMatch, distroMatch]
  cases profileDistroOSIDs.lookup (toLower (trimSpace d)) with
  | none => rfl
  | some allowed =>
      simp only
      split_ifs
      · rfl
      · cases majorVersion v <;> cases majorVersion w <;> cases majorVersion v' <;>
          cases majorVersion w' <;> simp
      · rfl

end

end Schema
