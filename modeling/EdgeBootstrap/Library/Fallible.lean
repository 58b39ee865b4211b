import Mathlib.Logic.Basic

/-! Exactly when a sequence of fallible steps fails, and with errors of which
kind. Each step gets one such statement; `FailsExactly.bind` composes them. -/

variable {ε ε' β γ : Type*}

/-- A sequence succeeds when both its parts do. -/
theorem Except.bind_eq_ok {β γ : Type _} {r : Except ε β} {f : β → Except ε γ} {c : γ} :
    (r >>= f) = .ok c ↔ ∃ b, r = .ok b ∧ f b = .ok c := by
  cases r with
  | error e => simp [bind, Except.bind]
  | ok b => simp [bind, Except.bind]

theorem Except.map_eq_ok {β γ : Type _} {r : Except ε β} {f : β → γ} {c : γ} :
    r.map f = .ok c ↔ ∃ b, r = .ok b ∧ f b = c := by
  cases r with
  | error e => simp [Except.map]
  | ok b => simp [Except.map]

theorem Except.toOption_eq_some_iff {β : Type _} {r : Except ε β} {b : β} :
    r.toOption = some b ↔ r = .ok b := by
  cases r <;> simp [Except.toOption]

/-- The value of a sequence, with the errors left out. -/
theorem Except.toOption_bind {β γ : Type _} (r : Except ε β) (f : β → Except ε γ) :
    (r >>= f).toOption = r.toOption.bind fun b => (f b).toOption := by
  cases r <;> rfl

/-- A fold that succeeds computes what its steps do. -/
theorem Except.foldlM_eq_ok {β ι : Type _} {next : β → ι → β} {step : β → ι → Except ε β}
    (computes : ∀ b i c, step b i = .ok c → c = next b i) {items : List ι} {start last : β}
    (folded : items.foldlM step start = .ok last) : last = items.foldl next start := by
  induction items generalizing start with
  | nil =>
    cases folded
    rfl
  | cons item items ih =>
    obtain ⟨b, stepped, rest⟩ := Except.bind_eq_ok.mp (List.foldlM_cons.symm.trans folded)
    rw [List.foldl_cons, ← computes start item b stepped]
    exact ih rest

/-- The result is a failure exactly when `Q` holds, and then of kind `K`. -/
def FailsExactly (K : ε → Prop) (Q : Prop) : Except ε β → Prop
  | .ok _ => ¬ Q
  | .error e => Q ∧ K e

namespace FailsExactly

variable {K : ε → Prop} {Q Q' : Prop} {r : Except ε β} {b : β} {e : ε}

@[simp] theorem ok_iff : FailsExactly K Q (.ok b : Except ε β) ↔ ¬ Q := .rfl

@[simp] theorem error_iff : FailsExactly K Q (.error e : Except ε β) ↔ Q ∧ K e := .rfl

theorem congr (exact : FailsExactly K Q r) (same : Q ↔ Q') : FailsExactly K Q' r := by
  rwa [propext same] at exact

/-- A sequence fails when its first part does, or when the rest does. -/
theorem bind {β γ : Type _} {r : Except ε β} {f : β → Except ε γ} (first : FailsExactly K Q r)
    (rest : ∀ b, r = .ok b → FailsExactly K Q' (f b)) : FailsExactly K (Q ∨ Q') (r >>= f) := by
  cases r with
  | error e => exact ⟨.inl first.1, first.2⟩
  | ok b =>
    have after : FailsExactly K Q' (f b) := rest b rfl
    exact after.congr (by simp [show ¬ Q from first])

/-- A rest that cannot fail does not change when the sequence fails. -/
theorem bind_pure {β γ : Type _} {r : Except ε β} (exact : FailsExactly K Q r) (f : β → γ) :
    FailsExactly K Q (r >>= fun b => pure (f b)) := by
  cases r with
  | error e => exact exact
  | ok b => exact exact

theorem map {β γ : Type _} {r : Except ε β} (f : β → γ) (exact : FailsExactly K Q r) :
    FailsExactly K Q (r.map f) := by
  cases r with
  | error e => exact exact
  | ok b => exact exact

/-- A failure that is given another error fails at the same time. -/
theorem of_mapError {r : Except ε' β} {f : ε' → ε} (kind : ∀ e, K (f e)) :
    FailsExactly K (∃ e, r = .error e) (r.mapError f) := by
  cases r with
  | error e => exact ⟨⟨e, rfl⟩, kind e⟩
  | ok b => rintro ⟨e, failed⟩; cases failed

/-- A fold whose steps compute `next` unless they fail fails exactly when one of
them does, on what the steps before it compute. -/
theorem foldlM {β ι : Type _} {next : β → ι → β} {Fails : β → ι → Prop} {step : β → ι → Except ε β}
    (each : ∀ b i, FailsExactly K (Fails b i) (step b i))
    (computes : ∀ b i c, step b i = .ok c → c = next b i) (items : List ι) (start : β) :
    FailsExactly K
      (∃ before item after, items = before ++ item :: after ∧ Fails (before.foldl next start) item)
      (items.foldlM step start) := by
  induction items generalizing start with
  | nil => exact ok_iff.mpr (by simp)
  | cons item items ih =>
    rw [List.foldlM_cons]
    have rest : ∀ b, step start item = .ok b → FailsExactly K
        (∃ before later after, items = before ++ later :: after ∧
          Fails (before.foldl next (next start item)) later) (items.foldlM step b) := by
      intro b stepped
      rw [← computes start item b stepped]
      exact ih b
    refine ((each start item).bind rest).congr ⟨?_, ?_⟩
    · rintro (now | ⟨before, later, after, rfl, fails⟩)
      · exact ⟨[], item, _, rfl, now⟩
      · exact ⟨item :: before, later, after, rfl, fails⟩
    · rintro ⟨before, later, after, split, fails⟩
      cases before with
      | nil =>
        cases split
        exact .inl fails
      | cons head before =>
        cases split
        exact .inr ⟨before, later, after, rfl, fails⟩

/-- What makes the result a failure of its kind. -/
theorem iff_failed (exact : FailsExactly K Q r) : (∃ e, r = .error e ∧ K e) ↔ Q := by
  cases r with
  | error e => exact ⟨fun _ => exact.1, fun _ => ⟨e, rfl, exact.2⟩⟩
  | ok b =>
    constructor
    · rintro ⟨e, failed, _⟩
      cases failed
    · intro holds
      exact absurd holds exact

/-- What every success has, when a success has it exactly when `E` holds: it is
had for certain when `E` holds or there is no success. -/
theorem forall_ok_iff {S : β → Prop} {E : Prop} (exact : FailsExactly K Q r)
    (each : ∀ b, r = .ok b → (S b ↔ E)) : (∀ b, r = .ok b → S b) ↔ E ∨ Q := by
  cases r with
  | error e => exact ⟨fun _ => .inr exact.1, fun _ _ => nofun⟩
  | ok b =>
    have succeeds : ¬ Q := exact
    simp [← each b rfl, succeeds]

theorem iff_succeeded (exact : FailsExactly K Q r) : (∃ b, r = .ok b) ↔ ¬ Q := by
  cases r with
  | error e => simp [exact.1]
  | ok b => exact iff_of_true ⟨b, rfl⟩ exact

end FailsExactly
