import EdgeBootstrap.Library.Traced
import EdgeBootstrap.Platform
import EdgeBootstrap.Monitor.TrafficCounters

/-! What the request path computes in: the state of the enforcer, the shared
counters and the application, and a trace of the calls that cross into code this
repository does not own. -/
namespace EdgeBootstrap

/-- `edge_intrusion_rule::Identity`, as far as the guards build it. -/
inductive Identity
  | ip (addr : IpAddr)
  deriving DecidableEq, Repr

/-- `edge_intrusion_rule::RequestEvent`; its instant is in microseconds. -/
structure RequestEvent where
  identity : Identity
  method : String
  path : String
  instant : UInt64
  query : Option String := none
  headers : List (String × String) := []
  deriving DecidableEq, Repr

/-- The verdict of a rule. -/
structure Verdict where
  ruleId : String
  reason : String
  deriving DecidableEq, Repr

/-- `edge_intrusion_enforcer::Decision`. -/
inductive Decision
  | allow
  | reject (verdict : Verdict)
  deriving DecidableEq, Repr

/-- Application code: what the user of the builder supplies. -/
inductive AppCode
  | httpIngress
  | httpStream
  | grpcIngress
  | handler (id : String)
  deriving DecidableEq, Repr

/-- A call out of this repository's code. -/
inductive Event
  | consulted (event : RequestEvent) (decision : Decision)
  | entered (code : AppCode)
  | reflected (method : String)
  deriving DecidableEq, Repr

/-- The event is a call of application code. -/
def Event.IsEntry : Event → Prop
  | .entered _ => True
  | _ => False

/-- The state the request path runs over. -/
structure World (σ α : Type) where
  enforcer : σ
  counters : TrafficCounters
  app : α

abbrev Exec (σ α : Type) := Traced (World σ α) Event

/-- The reading of the clock, a view of the application state: only application code makes
it advance, and no time passes between requests. -/
class Clock (α : Type) where
  micros : α → UInt64

/-- An application without state never sees the clock advance. -/
instance : Clock Unit where
  micros _ := 0

namespace Exec

variable {σ α β : Type}

/-- `Instant::now`. -/
def now [Clock α] : Exec σ α UInt64 := fun w => (Clock.micros w.app, w, [])

/-- Change the shared counters. -/
def count (f : TrafficCounters → TrafficCounters) : Exec σ α Unit :=
  Traced.modify fun w => { w with counters := f w.counters }

/-- Run application code. -/
def enter (code : AppCode) (run : α → β × α) : Exec σ α β := do
  Traced.tell (.entered code)
  Traced.zoom (·.app) (fun app w => { w with app }) run

@[simp] theorem events_now [Clock α] (w : World σ α) : (now : Exec σ α UInt64).events w = [] := rfl

@[simp] theorem state_now [Clock α] (w : World σ α) : (now : Exec σ α UInt64).state w = w := rfl

@[simp] theorem events_count (f : TrafficCounters → TrafficCounters) (w : World σ α) :
    (count f : Exec σ α Unit).events w = [] := rfl

@[simp] theorem state_count (f : TrafficCounters → TrafficCounters) (w : World σ α) :
    (count f : Exec σ α Unit).state w = { w with counters := f w.counters } := rfl

@[simp] theorem events_enter (code : AppCode) (run : α → β × α) (w : World σ α) :
    (enter code run : Exec σ α β).events w = [.entered code] := rfl

@[simp] theorem value_enter (code : AppCode) (run : α → β × α) (w : World σ α) :
    (enter code run : Exec σ α β).value w = (run w.app).1 := rfl

@[simp] theorem state_enter (code : AppCode) (run : α → β × α) (w : World σ α) :
    (enter code run : Exec σ α β).state w = { w with app := (run w.app).2 } := rfl

/-- The computation changes the state of the application, and no other state. -/
def StaysInApp (run : Exec σ α β) : Prop := ∀ w, ∃ app, run.state w = { w with app }

theorem staysInApp_pure (b : β) : (pure b : Exec σ α β).StaysInApp := fun w => ⟨w.app, rfl⟩

theorem staysInApp_enter (code : AppCode) (run : α → β × α) :
    (enter code run : Exec σ α β).StaysInApp := fun w => ⟨(run w.app).2, rfl⟩

theorem StaysInApp.map {γ : Type} {run : Exec σ α β} (stays : run.StaysInApp) (f : β → γ) :
    StaysInApp (f <$> run) := stays

end Exec

end EdgeBootstrap
