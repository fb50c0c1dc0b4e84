import BpfCompat.Go.Collections
import BpfCompat.Go.Strings

/-!
# Validation matrices

The profiles a run validates against, and the checks a matrix has to pass.  A matrix that
passes names at least one profile, and its profiles have identifiers that stay apart after
trimming.
-/

namespace Matrices

open Go

/-- One profile of a matrix. -/
structure MatrixProfile where
  id : Str := []
  required : Option Bool := none
  timeout : Str := []
deriving DecidableEq

/-- A validation matrix. -/
structure ProfileMatrix where
  name : Str := []
  profiles : List MatrixProfile := []
deriving DecidableEq

/-- A profile is required unless the matrix says otherwise. -/
def MatrixProfile.requiredBool (p : MatrixProfile) : Bool := p.required.getD true

/-- The identifiers of the profiles. -/
def ProfileMatrix.profileIDs (m : ProfileMatrix) : List Str := m.profiles.map (·.id)

/-- The profiles of a quick check. -/
def quickProfileIDs : List Str :=
  [str "ubuntu-20.04-5.4", str "debian-12-6.1", str "ubuntu-24.04-6.8"]

/-- The matrix of a quick check. -/
def quick : ProfileMatrix where
  name := str "quick"
  profiles := quickProfileIDs.map fun id => { id }

/-- An ASCII letter or digit. -/
def isAlphanumeric (b : UInt8) : Bool :=
  (65 ≤ b && b ≤ 90) || (97 ≤ b && b ≤ 122) || (48 ≤ b && b ≤ 57)

/-- The identifiers `matrixProfileIDPattern` matches. -/
def matchesProfileIDPattern : Str → Bool
  | [] => false
  | b :: rest =>
    isAlphanumeric b && rest.length ≤ 63 &&
      rest.all fun b => isAlphanumeric b || b == 46 || b == 95 || b == 45

/-- The text of the pattern. -/
def matrixProfileIDPattern : Str := str "^[A-Za-z0-9][A-Za-z0-9._-]\x7b0,63\x7d$"

section

variable [UnicodeTables]

/-- The loop over the profiles from index `i` on; `seen` holds the identifiers before it. -/
def validateFrom (i : Nat) (seen : Map Str Unit) : List MatrixProfile → Except Str Unit
  | [] => .ok ()
  | p :: profiles =>
    let profileID := trimSpace p.id
    if profileID = [] then .error (str "profiles[" ++ itoa i ++ str "].id is required")
    else if !matchesProfileIDPattern profileID then
      .error (str "profiles[" ++ itoa i ++ str "].id " ++ quote profileID ++ str " must match " ++
        matrixProfileIDPattern)
    else if (seen.lookup profileID).isSome then
      .error (str "duplicate profile id " ++ quote profileID ++ str " in matrix")
    else validateFrom (i + 1) (seen.insert profileID ()) profiles

/-- A matrix that cannot be run is refused. -/
def validate (m : ProfileMatrix) : Except Str Unit :=
  if m.profiles = [] then .error (str "matrix must contain at least one profile")
  else validateFrom 0 ∅ m.profiles

omit [UnicodeTables] in
/-- A matrix that can be run. -/
structure MatrixValid (m : ProfileMatrix) : Prop where
  nonempty : m.profiles ≠ []
  identified : ∀ p ∈ m.profiles, matchesProfileIDPattern (trimSpace p.id) = true
  distinct : (m.profiles.map fun p => trimSpace p.id).Nodup

theorem validateFrom_eq_ok_iff {i : Nat} {seen : Map Str Unit} {profiles : List MatrixProfile} :
  validateFrom i seen profiles = .ok () ↔
    (∀ p ∈ profiles, matchesProfileIDPattern (trimSpace p.id) = true) ∧
      (profiles.map fun p => trimSpace p.id).Nodup ∧ ∀ p ∈ profiles, trimSpace p.id ∉ seen
  := by
  induction profiles generalizing i seen with
  | nil => simp [validateFrom]
  | cons p profiles ih =>
      have hblank : matchesProfileIDPattern (trimSpace p.id) = true → trimSpace p.id ≠ [] := by
        intro h hnil
        rw [hnil] at h
        cases h
      simp only [validateFrom, refuse_if_eq_ok_iff, ih, AList.lookup_isSome, Bool.not_eq_true',
        Bool.not_eq_false, AList.mem_insert, List.forall_mem_cons, List.map_cons,
        List.nodup_cons, List.mem_map, not_or, not_exists, not_and]
      constructor
      · rintro ⟨-, hp, hnew, hprofiles, hnodup, hseen⟩
        refine ⟨⟨hp, hprofiles⟩, ⟨fun q hq => (hseen q hq).1, hnodup⟩, hnew, ?_⟩
        intro q hq
        exact (hseen q hq).2
      · rintro ⟨⟨hp, hprofiles⟩, ⟨hother, hnodup⟩, hnew, hseen⟩
        exact ⟨hblank hp, hp, hnew, hprofiles, hnodup, fun q hq => ⟨hother q hq, hseen q hq⟩⟩

/-- The matrices that pass are the valid ones. -/
theorem validate_eq_ok_iff {m : ProfileMatrix} :
  validate m = .ok () ↔ MatrixValid m
  := by
  rw [validate, refuse_if_eq_ok_iff, validateFrom_eq_ok_iff]
  constructor
  · rintro ⟨hne, hid, hnodup, -⟩
    exact ⟨hne, hid, hnodup⟩
  · rintro ⟨hne, hid, hnodup⟩
    exact ⟨hne, hid, hnodup, fun p _ => AList.notMem_empty _⟩

omit [UnicodeTables] in
/-- The identifier of a profile of a valid matrix is not blank. -/
theorem MatrixValid.trimSpace_ne_nil {m : ProfileMatrix} (hm : MatrixValid m) {p : MatrixProfile}
    (hp : p ∈ m.profiles) :
  trimSpace p.id ≠ []
  := by
  intro hnil
  have h := hm.identified p hp
  rw [hnil] at h
  cases h

end

/-- The matrix of a quick check, which is not read from a file, is valid. -/
theorem matrixValid_quick :
  MatrixValid quick
  := by
  refine ⟨by decide, ?_, by decide⟩
  have h : quick.profiles.all (fun p => matchesProfileIDPattern (trimSpace p.id)) = true := by
    decide
  exact List.all_eq_true.mp h

end Matrices
