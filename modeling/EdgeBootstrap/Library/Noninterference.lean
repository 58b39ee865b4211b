import EdgeBootstrap.Library.Traced

/-! Inputs served one after another, some of which are turned away. The inputs that
were kept, served alone by a plain service, get what they got before; so nothing that
was turned away shows in what the others see. States are compared by a relation that
says what of a state shows, and events by the ones that do. -/
namespace Traced

variable {S E ι β γ : Type} {R : S → S → Prop} {shown : E → Bool}

/-- The computation goes by what shows of a state, and emits only events that show. -/
structure Blind (R : S → S → Prop) (shown : E → Bool) (m : Traced S E β) : Prop where
  value : ∀ {s t}, R s t → m.value t = m.value s
  state : ∀ {s t}, R s t → R (m.state s) (m.state t)
  events : ∀ {s t}, R s t → m.events t = m.events s
  visible : ∀ s, ∀ e ∈ m.events s, shown e = true

namespace Blind

theorem pure (b : β) : Blind R shown (Pure.pure b : Traced S E β) where
  value _ := rfl
  state related := related
  events _ := rfl
  visible _ _ member := absurd member List.not_mem_nil

theorem bind {m : Traced S E β} {f : β → Traced S E γ} (first : Blind R shown m)
    (rest : ∀ b, Blind R shown (f b)) : Blind R shown (m >>= f) where
  value related := by
    rw [value_bind, value_bind, first.value related]
    exact (rest _).value (first.state related)
  state related := by
    rw [state_bind, state_bind, first.value related]
    exact (rest _).state (first.state related)
  events related := by
    rw [events_bind, events_bind, first.value related, first.events related]
    exact congrArg (_ ++ ·) ((rest _).events (first.state related))
  visible s e member := by
    rw [events_bind, List.mem_append] at member
    rcases member with early | late
    · exact first.visible s e early
    · exact (rest _).visible _ e late

theorem map {m : Traced S E β} (blind : Blind R shown m) (f : β → γ) :
    Blind R shown (f <$> m) where
  value related := congrArg f (blind.value related)
  state related := blind.state related
  events related := by
    rw [events_map, events_map]
    exact blind.events related
  visible s e member := by
    rw [events_map] at member
    exact blind.visible s e member

theorem tell {e : E} (visible : shown e = true) : Blind R shown (Traced.tell e) where
  value _ := rfl
  state related := related
  events _ := rfl
  visible _ other member := by
    rw [events_tell, List.mem_singleton] at member
    rw [member, visible]

end Blind

/-- Serve inputs one after another; each with what it got. -/
def serveAll (serve : ι → Traced S E β) : List ι → Traced S E (List (ι × β))
  | [] => pure []
  | i :: rest => do
    let b ← serve i
    let later ← serveAll serve rest
    return (i, b) :: later

section
variable (serve : ι → Traced S E β) (i : ι) (rest : List ι) (s : S)

theorem state_serveAll_cons : (serveAll serve (i :: rest)).state s =
    (serveAll serve rest).state ((serve i).state s) := rfl

theorem value_serveAll_cons : (serveAll serve (i :: rest)).value s =
    (i, (serve i).value s) :: (serveAll serve rest).value ((serve i).state s) := rfl

theorem events_serveAll_cons : (serveAll serve (i :: rest)).events s =
    (serve i).events s ++ (serveAll serve rest).events ((serve i).state s) := by
  simp [serveAll]

end

/-- The inputs that are not turned away, each with what it got. An input is turned
away if one of its events says so. -/
def kept (serve : ι → Traced S E β) (rejects : E → Bool) : List ι → S → List (ι × β)
  | [], _ => []
  | i :: rest, s =>
    let later := kept serve rejects rest ((serve i).state s)
    if ((serve i).events s).any rejects then later else (i, (serve i).value s) :: later

/-- What turns an input away leaves no trace, and what lets it pass does as the plain
service. -/
structure Screens (R : S → S → Prop) (shown rejects : E → Bool) (served plain : Traced S E β) :
    Prop where
  away : ∀ {s t}, R s t → (served.events s).any rejects = true →
    R (served.state s) t ∧ (served.events s).filter shown = []
  passed : ∀ {s t}, R s t → (served.events s).any rejects = false →
    plain.value t = served.value s ∧ R (served.state s) (plain.state t) ∧
      (served.events s).filter shown = plain.events t

/-- A computation that goes by what shows is let pass as it is, if what shows
rejects nothing. -/
theorem Screens.refl {rejects : E → Bool} {m : Traced S E β} (blind : Blind R shown m)
    (hidden : ∀ e, rejects e = true → shown e = false) : Screens R shown rejects m m where
  away {s t} related rejected := by
    obtain ⟨e, member, rejected⟩ := List.any_eq_true.mp rejected
    have visible := blind.visible s e member
    rw [hidden e rejected] at visible
    cases visible
  passed {s t} related _ := by
    refine ⟨blind.value related, blind.state related, ?_⟩
    rw [blind.events related, List.filter_eq_self]
    exact blind.visible s

theorem Screens.map {rejects : E → Bool} {served plain : Traced S E β}
    (screens : Screens R shown rejects served plain) (f : β → γ) :
    Screens R shown rejects (f <$> served) (f <$> plain) where
  away related rejected := by
    rw [events_map] at rejected ⊢
    exact screens.away related rejected
  passed related allowed := by
    rw [events_map] at allowed
    rw [events_map, events_map]
    obtain ⟨value, state, events⟩ := screens.passed related allowed
    exact ⟨congrArg f value, state, events⟩

/-- What was kept gets the same from the plain service, which leaves the same behind
and shows the same events. -/
theorem kept_unaffected {rejects : E → Bool} {serve plain : ι → Traced S E β}
    (screens : ∀ i, Screens R shown rejects (serve i) (plain i)) (inputs : List ι) {s t : S}
    (related : R s t) :
    let alone := serveAll plain ((kept serve rejects inputs s).map Prod.fst)
    alone.value t = kept serve rejects inputs s ∧
      R ((serveAll serve inputs).state s) (alone.state t) ∧
      ((serveAll serve inputs).events s).filter shown = alone.events t := by
  induction inputs generalizing s t with
  | nil => exact ⟨rfl, related, rfl⟩
  | cons i rest ih =>
    rw [state_serveAll_cons, events_serveAll_cons, List.filter_append]
    cases turned : ((serve i).events s).any rejects with
    | true =>
      obtain ⟨state, events⟩ := (screens i).away related turned
      simp only [kept, turned, if_true, events, List.nil_append]
      exact ih state
    | false =>
      obtain ⟨value, state, events⟩ := (screens i).passed related turned
      obtain ⟨values, states, later⟩ := ih state
      simp only [kept, turned, Bool.false_eq_true, if_false, List.map_cons, value_serveAll_cons,
        state_serveAll_cons, events_serveAll_cons]
      refine ⟨?_, states, ?_⟩
      · rw [value, values]
      · rw [events, later]

end Traced
