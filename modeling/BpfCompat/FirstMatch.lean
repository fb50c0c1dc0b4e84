import Mathlib.Data.List.Basic

/-!
# Lists of rules of which the first decides

A list of rules is searched for the first one that matches.  When fewer rules match than before,
the rule that decided still does as long as it matches itself, and a list in which no rule matched
stays one (`find?_of_imp`, `find?_none_of_imp`).
-/

namespace FirstMatch

variable {α : Type*} {p q : α → Bool} {rules : List α}

/-- With fewer rules matching, the rule that decided decides as long as it matches. -/
theorem find?_of_imp {rule : α} (himp : ∀ r ∈ rules, q r = true → p r = true)
    (h : rules.find? p = some rule) (hq : q rule = true) :
  rules.find? q = some rule
  := by
  rw [List.find?_eq_some_iff_append] at h ⊢
  obtain ⟨_, before, after, rfl, hbefore⟩ := h
  refine ⟨hq, before, after, rfl, ?_⟩
  intro r hr
  have hp := hbefore r hr
  cases hqr : q r with
  | false => rfl
  | true => rw [himp r (by simp [hr]) hqr] at hp; exact hp

/-- With fewer rules matching, a list in which none matched stays one. -/
theorem find?_none_of_imp (himp : ∀ r ∈ rules, q r = true → p r = true)
    (h : rules.find? p = none) :
  rules.find? q = none
  := by
  rw [List.find?_eq_none] at h ⊢
  intro r hr hq
  apply h r hr
  apply himp r hr hq

/-- Where the same rules match, the same rule decides. -/
theorem find?_congr (h : ∀ r ∈ rules, p r = q r) :
  rules.find? p = rules.find? q
  := by
  induction rules with
  | nil => rfl
  | cons r rules ih =>
      rw [List.find?_cons, List.find?_cons, h r (by simp), ih fun r' hr' => h r' (by simp [hr'])]

end FirstMatch
