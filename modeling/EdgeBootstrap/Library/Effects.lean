import Mathlib.Data.List.Basic

/-! Computations that emit events and may fail. A failure ends a computation but
does not take back what was emitted before it, so that something fails before it
does anything is said of its events and its result together. -/

/-- A computation that emits events `E` and fails with an `ε` or returns a `β`. -/
def Effects (E ε β : Type*) := List E × Except ε β

namespace Effects

universe u
variable {E ε : Type*} {β γ : Type u}

/-- The events emitted, up to the failure if there is one. -/
def events (m : Effects E ε β) : List E := m.1

/-- What the computation returns, or how it fails. -/
def result (m : Effects E ε β) : Except ε β := m.2

instance : Monad (Effects E ε) where
  pure b := ([], .ok b)
  bind m f :=
    match m.2 with
    | .ok b => (m.1 ++ (f b).1, (f b).2)
    | .error e => (m.1, .error e)

/-- Emit one event. -/
def tell (e : E) : Effects E ε Unit := ([e], .ok ())

/-- Emit some events. -/
def tellAll (evs : List E) : Effects E ε Unit := (evs, .ok ())

/-- Fail. -/
def fail (e : ε) : Effects E ε β := ([], .error e)

/-- Return or fail without emitting anything. -/
def ofExcept (r : Except ε β) : Effects E ε β := ([], r)

/-- Go on with the result of a computation, even if it failed. -/
def attempt (m : Effects E ε β) : Effects E ε (Except ε β) := (m.1, .ok m.2)

variable {m : Effects E ε β} {f : β → Effects E ε γ} {b : β} {e : ε} {ev : E}

@[simp] theorem events_pure : (pure b : Effects E ε β).events = [] := rfl
@[simp] theorem result_pure : (pure b : Effects E ε β).result = .ok b := rfl
@[simp] theorem events_tell : (tell ev : Effects E ε Unit).events = [ev] := rfl
@[simp] theorem result_tell : (tell ev : Effects E ε Unit).result = .ok () := rfl
@[simp] theorem events_tellAll (evs : List E) : (tellAll evs : Effects E ε Unit).events = evs := rfl
@[simp] theorem result_tellAll (evs : List E) : (tellAll evs : Effects E ε Unit).result = .ok () := rfl
@[simp] theorem events_fail : (fail e : Effects E ε β).events = [] := rfl
@[simp] theorem result_fail : (fail e : Effects E ε β).result = .error e := rfl
@[simp] theorem events_ofExcept (r : Except ε β) : (ofExcept r : Effects E ε β).events = [] := rfl
@[simp] theorem result_ofExcept (r : Except ε β) : (ofExcept r : Effects E ε β).result = r := rfl
@[simp] theorem events_attempt : m.attempt.events = m.events := rfl
@[simp] theorem result_attempt : m.attempt.result = .ok m.result := rfl

/-- A failure skips the rest. -/
theorem bind_of_error (failed : m.result = .error e) :
    (m >>= f).events = m.events ∧ (m >>= f).result = .error e := by
  obtain ⟨emitted, r⟩ := m
  cases failed
  exact ⟨rfl, rfl⟩

/-- After a success the rest runs, and its events follow. -/
theorem bind_of_ok (succeeded : m.result = .ok b) :
    (m >>= f).events = m.events ++ (f b).events ∧ (m >>= f).result = (f b).result := by
  obtain ⟨emitted, r⟩ := m
  cases succeeded
  exact ⟨rfl, rfl⟩

section Sequences
variable {E ε β γ : Type} {m : Effects E ε β} {b : β} {e : ε} {ev : E}

/-- What a sequence emits is what its parts emit, as far as it comes. -/
@[simp] theorem events_tell_bind {f : Unit → Effects E ε γ} :
    (tell ev >>= f).events = ev :: (f ()).events := rfl

@[simp] theorem events_tellAll_bind (evs : List E) {f : Unit → Effects E ε γ} :
    (tellAll evs >>= f).events = evs ++ (f ()).events := rfl

@[simp] theorem events_attempt_bind {f : Except ε β → Effects E ε γ} :
    (attempt m >>= f).events = m.events ++ (f m.result).events := rfl

@[simp] theorem events_ok_bind {f : β → Effects E ε γ} :
    (ofExcept (.ok b) >>= f).events = (f b).events := rfl

@[simp] theorem events_error_bind {f : β → Effects E ε γ} :
    (ofExcept (.error e) >>= f).events = [] := rfl

end Sequences

/-- The results of a sequence compose as the results of its parts. -/
@[simp] theorem result_bind : (m >>= f).result = m.result >>= fun b => (f b).result := by
  cases succeeded : m.result with
  | error e => exact (bind_of_error succeeded).2
  | ok b => exact (bind_of_ok succeeded).2

/-- A sequence that returns went through both parts. -/
theorem bind_ok {c : γ} (returned : (m >>= f).result = .ok c) :
    ∃ b, m.result = .ok b ∧ (f b).result = .ok c ∧ (m >>= f).events = m.events ++ (f b).events := by
  cases succeeded : m.result with
  | error e =>
    rw [(bind_of_error succeeded).2] at returned
    cases returned
  | ok b =>
    obtain ⟨events, result⟩ := bind_of_ok (f := f) succeeded
    exact ⟨b, rfl, result ▸ returned, events⟩

/-- What a sequence emits is emitted by one of its parts. -/
theorem mem_events_bind : ev ∈ (m >>= f).events ↔
    ev ∈ m.events ∨ ∃ b, m.result = .ok b ∧ ev ∈ (f b).events := by
  cases succeeded : m.result with
  | error e => simp [(bind_of_error (f := f) succeeded).1]
  | ok b => simp [(bind_of_ok (f := f) succeeded).1]

/-- Nothing the computation emits is of this kind. -/
def Avoids (m : Effects E ε β) (P : E → Prop) : Prop := ∀ ev ∈ m.events, ¬ P ev

section Avoiding
variable {P : E → Prop}

@[simp] theorem avoids_pure : (pure b : Effects E ε β).Avoids P := by simp [Avoids]

@[simp] theorem avoids_fail : (fail e : Effects E ε β).Avoids P := by simp [Avoids]

@[simp] theorem avoids_ofExcept (r : Except ε β) : (ofExcept r : Effects E ε β).Avoids P := by
  simp [Avoids]

@[simp] theorem avoids_tell : (tell ev : Effects E ε Unit).Avoids P ↔ ¬ P ev := by simp [Avoids]

@[simp] theorem avoids_tellAll {evs : List E} :
    (tellAll evs : Effects E ε Unit).Avoids P ↔ ∀ ev ∈ evs, ¬ P ev := .rfl

@[simp] theorem avoids_attempt : m.attempt.Avoids P ↔ m.Avoids P := .rfl

/-- What avoids a kind of event avoids a smaller kind. -/
theorem Avoids.mono {Q : E → Prop} (avoids : m.Avoids P) (smaller : ∀ ev, Q ev → P ev) :
    m.Avoids Q :=
  fun ev emitted kind => avoids ev emitted (smaller ev kind)

/-- A sequence avoids a kind of event when both parts do. -/
theorem Avoids.bind (first : m.Avoids P) (rest : ∀ b, m.result = .ok b → (f b).Avoids P) :
    (m >>= f).Avoids P := by
  intro ev emitted
  rcases mem_events_bind.mp emitted with early | ⟨b, succeeded, late⟩
  · exact first ev early
  · exact rest b succeeded ev late

/-- After a success, a sequence avoids a kind of event exactly when both parts do. -/
theorem avoids_bind_of_ok (succeeded : m.result = .ok b) :
    (m >>= f).Avoids P ↔ m.Avoids P ∧ (f b).Avoids P := by
  unfold Avoids
  rw [(bind_of_ok succeeded).1]
  exact List.forall_mem_append

/-- After a failure, a sequence avoids what its first part avoids. -/
theorem avoids_bind_of_error (failed : m.result = .error e) :
    (m >>= f).Avoids P ↔ m.Avoids P := by
  unfold Avoids
  rw [(bind_of_error failed).1]

end Avoiding

end Effects
