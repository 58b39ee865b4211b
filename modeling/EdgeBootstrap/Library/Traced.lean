import Mathlib.Data.List.Infix

/-! Stateful computations that also emit events. A computation cannot read or
erase what was emitted before it, so the events of a sequence of computations
are the concatenation of theirs. `Mediated` is the reference-monitor property of
such a list of events: nothing of one kind happens unless something of another
kind happened first. -/

/-- A computation over a state `S` that emits events `E`. -/
def Traced (S E β : Type) : Type := S → β × S × List E

namespace Traced

variable {S E β γ : Type}

instance : Monad (Traced S E) where
  pure b := fun s => (b, s, [])
  bind m f := fun s =>
    let first := m s
    let second := f first.1 first.2.1
    (second.1, second.2.1, first.2.2 ++ second.2.2)

/-- What a computation returns when started in `s`. -/
def value (m : Traced S E β) (s : S) : β := (m s).1

/-- The state a computation started in `s` leaves. -/
def state (m : Traced S E β) (s : S) : S := (m s).2.1

/-- The events a computation started in `s` emits, in order. -/
def events (m : Traced S E β) (s : S) : List E := (m s).2.2

/-- Read the state. -/
def get : Traced S E S := fun s => (s, s, [])

/-- Change the state. -/
def modify (f : S → S) : Traced S E Unit := fun s => ((), f s, [])

/-- Emit one event. -/
def tell (e : E) : Traced S E Unit := fun s => ((), s, [e])

/-- Run a computation on a part of the state. -/
def zoom {T : Type} (view : S → T) (put : T → S → S) (m : T → β × T) : Traced S E β := fun s =>
  let result := m (view s)
  (result.1, put result.2 s, [])

variable (m : Traced S E β) (f : β → Traced S E γ) (s : S) (b : β) (e : E)

@[simp] theorem value_pure : (pure b : Traced S E β).value s = b := rfl
@[simp] theorem state_pure : (pure b : Traced S E β).state s = s := rfl
@[simp] theorem events_pure : (pure b : Traced S E β).events s = [] := rfl

@[simp] theorem value_bind : (m >>= f).value s = (f (m.value s)).value (m.state s) := rfl
@[simp] theorem state_bind : (m >>= f).state s = (f (m.value s)).state (m.state s) := rfl
@[simp] theorem events_bind :
    (m >>= f).events s = m.events s ++ (f (m.value s)).events (m.state s) := rfl

@[simp] theorem value_map (g : β → γ) : (g <$> m).value s = g (m.value s) := rfl
@[simp] theorem state_map (g : β → γ) : (g <$> m).state s = m.state s := rfl
@[simp] theorem events_map (g : β → γ) : (g <$> m).events s = m.events s := List.append_nil _

@[simp] theorem value_get : (get : Traced S E S).value s = s := rfl
@[simp] theorem state_get : (get : Traced S E S).state s = s := rfl
@[simp] theorem events_get : (get : Traced S E S).events s = [] := rfl

@[simp] theorem state_modify (g : S → S) : (modify g : Traced S E Unit).state s = g s := rfl
@[simp] theorem events_modify (g : S → S) : (modify g : Traced S E Unit).events s = [] := rfl

@[simp] theorem state_tell : (tell e : Traced S E Unit).state s = s := rfl
@[simp] theorem events_tell : (tell e : Traced S E Unit).events s = [e] := rfl

@[simp] theorem value_zoom {T : Type} (view : S → T) (put : T → S → S) (g : T → β × T) :
    (zoom view put g : Traced S E β).value s = (g (view s)).1 := rfl
@[simp] theorem state_zoom {T : Type} (view : S → T) (put : T → S → S) (g : T → β × T) :
    (zoom view put g : Traced S E β).state s = put (g (view s)).2 s := rfl
@[simp] theorem events_zoom {T : Type} (view : S → T) (put : T → S → S) (g : T → β × T) :
    (zoom view put g : Traced S E β).events s = [] := rfl

theorem ext {m n : Traced S E β} (value : ∀ s, m.value s = n.value s)
    (state : ∀ s, m.state s = n.state s) (events : ∀ s, m.events s = n.events s) : m = n :=
  funext fun s => Prod.ext (value s) (Prod.ext (state s) (events s))

instance : LawfulMonad (Traced S E) :=
  LawfulMonad.mk' (Traced S E)
    (fun m => ext (fun _ => rfl) (fun _ => rfl) fun s => List.append_nil (m.events s))
    (fun _ _ => rfl)
    (fun m f g => ext (fun _ => rfl) (fun _ => rfl) fun s => by simp [List.append_assoc])

end Traced

/-- Every event of kind `P` is preceded by an event of kind `Q`. -/
def Mediated {E : Type*} (Q P : E → Prop) (events : List E) : Prop :=
  ∀ pre e post, events = pre ++ e :: post → P e → ∃ q ∈ pre, Q q

namespace Mediated

variable {E : Type*} {Q P : E → Prop} {e q : E} {events : List E}

/-- Events none of which needs mediation are mediated. -/
theorem of_forall_not (none : ∀ e ∈ events, ¬ P e) : Mediated Q P events := by
  rintro pre e post rfl needs
  exact absurd needs (none e (by simp))

/-- Once the mediating event has happened, everything after it is mediated. -/
theorem after (first : Q q) (free : ¬ P q) : Mediated Q P (q :: events) := by
  intro pre e post split needs
  cases pre with
  | nil =>
    cases split
    exact absurd needs free
  | cons head rest =>
    cases split
    exact ⟨q, List.mem_cons_self, first⟩

/-- An event that needs mediation cannot come first. -/
theorem not_first (needs : P e) : ¬ Mediated Q P (e :: events) := by
  intro mediated
  obtain ⟨q, member, _⟩ := mediated [] e events rfl needs
  exact List.not_mem_nil member

end Mediated
