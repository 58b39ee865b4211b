import EdgeBootstrap.Library.StepMachine
import Mathlib.Logic.Function.Basic

/-! Machines that run side by side. An action belongs to one member of a family
and moves that member alone, so a run of the family is exactly an interleaving of
one run of each member: no member can tell what the others do. -/
namespace StepMachine

variable {κ σ τ α : Type*}

/-- A step-by-step image of a machine takes its runs. -/
theorem exec_of_simulation {M : StepMachine σ α} {N : StepMachine τ α} (view : σ → τ)
    (start : view M.init = N.init)
    (steps : ∀ s a s', M.step s a = some s' → N.step (view s) a = some (view s'))
    {as : List α} {s : σ} (run : M.exec as = some s) : N.exec as = some (view s) := by
  refine run_induction (P := fun as s => N.exec as = some (view s)) ?_ ?_ run
  · rw [exec_nil, start]
  · intro as s a s' _ ran step
    exact exec_snoc.mpr ⟨view s, ran, steps s a s' step⟩

variable [DecidableEq κ]

/-- The members of a family, each taking its own steps. -/
def family (M : κ → StepMachine σ α) : StepMachine (κ → σ) (κ × α) where
  init k := (M k).init
  step s a := ((M a.1).step (s a.1) a.2).map (Function.update s a.1)

/-- What is of one member, in order. -/
def only {β : Type*} (k : κ) (as : List (κ × β)) : List β :=
  as.filterMap fun a => if a.1 = k then some a.2 else none

section Only
variable {β : Type*} {k j : κ} {b : β} {as : List (κ × β)}

theorem only_snoc_self : only k (as ++ [(k, b)]) = only k as ++ [b] := by
  simp [only]

theorem only_snoc_of_ne (other : j ≠ k) : only k (as ++ [(j, b)]) = only k as := by
  simp [only, other]

end Only

variable {M : κ → StepMachine σ α} {as : List (κ × α)} {s : κ → σ}

/-- A run of a family is a run of each member on what is its own. -/
theorem exec_family_iff :
    (family M).exec as = some s ↔ ∀ k, (M k).exec (only k as) = some (s k) := by
  induction as using List.reverseRecOn generalizing s with
  | nil =>
    constructor
    · intro run k
      cases run
      rfl
    · intro runs
      have starts : (family M).init = s := funext fun k => Option.some.inj (runs k)
      rw [exec_nil, starts]
  | append_singleton as a ih =>
    obtain ⟨k, a⟩ := a
    rw [exec_snoc]
    constructor
    · rintro ⟨before, run, step⟩ j
      have runs := ih.mp run
      obtain ⟨next, moved, rfl⟩ := Option.map_eq_some_iff.mp step
      by_cases same : k = j
      · subst same
        rw [only_snoc_self, exec_snoc, Function.update_self]
        exact ⟨before k, runs k, moved⟩
      · rw [only_snoc_of_ne same, Function.update_of_ne (Ne.symm same)]
        exact runs j
    · intro runs
      have own := runs k
      rw [only_snoc_self, exec_snoc] at own
      obtain ⟨before, run, moved⟩ := own
      refine ⟨Function.update s k before, ih.mpr fun j => ?_, ?_⟩
      · by_cases same : k = j
        · subst same
          rwa [Function.update_self]
        · rw [Function.update_of_ne (Ne.symm same), ← only_snoc_of_ne same]
          exact runs j
      · simp [family, moved]

end StepMachine
