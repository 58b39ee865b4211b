import EdgeBootstrap.Library.Traced

/-! A service and what it is specified to do, run side by side over states of their own.
From states that are related the two give the same answers, emit the same events and stay
related; what is composed of such parts does so too, and so do whole sequences of inputs. -/
namespace Traced

variable {S T E β γ : Type} {ι : Type*} {R : S → T → Prop}

/-- The first computation does as the second from related states. -/
structure Simulates (R : S → T → Prop) (m : Traced S E β) (n : Traced T E β) : Prop where
  value : ∀ {s t}, R s t → m.value s = n.value t
  state : ∀ {s t}, R s t → R (m.state s) (n.state t)
  events : ∀ {s t}, R s t → m.events s = n.events t

namespace Simulates

theorem pure (b : β) : Simulates R (Pure.pure b : Traced S E β) (Pure.pure b) where
  value _ := rfl
  state related := related
  events _ := rfl

theorem bind {m : Traced S E β} {n : Traced T E β} {f : β → Traced S E γ} {g : β → Traced T E γ}
    (first : Simulates R m n) (rest : ∀ b, Simulates R (f b) (g b)) :
    Simulates R (m >>= f) (n >>= g) where
  value related := by
    rw [value_bind, value_bind, first.value related]
    exact (rest _).value (first.state related)
  state related := by
    rw [state_bind, state_bind, first.value related]
    exact (rest _).state (first.state related)
  events related := by
    rw [events_bind, events_bind, first.events related, first.value related]
    exact congrArg (_ ++ ·) ((rest _).events (first.state related))

theorem map {m : Traced S E β} {n : Traced T E β} (first : Simulates R m n) (f : β → γ) :
    Simulates R (f <$> m) (f <$> n) where
  value related := congrArg f (first.value related)
  state related := first.state related
  events related := by
    rw [events_map, events_map]
    exact first.events related

end Simulates

end Traced
