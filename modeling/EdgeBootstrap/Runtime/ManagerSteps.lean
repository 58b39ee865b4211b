import Mathlib.Logic.Function.Basic
import EdgeBootstrap.Library.StepMachine
import EdgeBootstrap.Runtime.Types

/-! `DefaultRuntimeManager::start` and `shutdown` as interleaved steps. A call
holds the status lock while its guard reads and writes it and again for its
final write, and nothing in between; so each step below is atomic and any
number of calls may be between theirs. Calls are told apart by numbers. -/
namespace EdgeBootstrap.ManagerSteps

inductive Op
  | start | shutdown
  deriving DecidableEq, Repr

/-- How far a call has come. -/
inductive Phase
  | guarded
  | hooking
  | hooked
  | probed
  | returned (result : Except RuntimeError Unit)
  deriving DecidableEq

/-- A call of `start` or `shutdown`. -/
structure Call where
  op : Op
  phase : Phase
  deriving DecidableEq

/-- A call in this phase has not returned. -/
def Phase.Live : Phase → Prop
  | .returned _ => False
  | _ => True

/-- The manager's status and its calls so far. -/
structure State where
  status : RuntimeStatus
  calls : Nat → Option Call

/-- One atomic step of the call with the given number. -/
inductive Step
  | startBegin (i : Nat)
  | startRefuse (i : Nat)
  | startHookCall (i : Nat)
  | startHookReturn (i : Nat) (result : Except String Unit)
  | startProbe (i : Nat)
  | startFinish (i : Nat)
  | shutdownBegin (i : Nat)
  | shutdownHookCall (i : Nat)
  | shutdownHookReturn (i : Nat) (result : Except String Unit)
  | shutdownFinish (i : Nat)
  deriving DecidableEq

namespace State

/-- The call `i` comes to a phase, the status as given. -/
def advance (s : State) (status : RuntimeStatus) (i : Nat) (op : Op) (phase : Phase) : State :=
  ⟨status, Function.update s.calls i (some ⟨op, phase⟩)⟩

@[simp] theorem advance_status (s : State) (status : RuntimeStatus) (i : Nat) (op : Op)
    (phase : Phase) : (s.advance status i op phase).status = status := rfl

@[simp] theorem advance_advance (s : State) (status status' : RuntimeStatus) (i : Nat) (op op' : Op)
    (phase phase' : Phase) :
    (s.advance status i op phase).advance status' i op' phase' = s.advance status' i op' phase' := by
  simp [advance]

/-- The call `i` has come to a phase. -/
def At (s : State) (i : Nat) (op : Op) (phase : Phase) : Prop := s.calls i = some ⟨op, phase⟩

instance (s : State) (i : Nat) (op : Op) (phase : Phase) : Decidable (s.At i op phase) :=
  inferInstanceAs (Decidable (s.calls i = some ⟨op, phase⟩))

theorem at_advance (s : State) (status : RuntimeStatus) (i j : Nat) (op op' : Op)
    (phase phase' : Phase) :
    (s.advance status i op phase).At j op' phase' ↔
      (j = i ∧ op' = op ∧ phase' = phase) ∨ (j ≠ i ∧ s.At j op' phase') := by
  by_cases same : j = i
  · subst same
    simp [advance, At, eq_comm]
  · simp [advance, At, same]

end State

/-- The step relation, given whether the manager has an ingress transport. The
guard of `start` only recognises `Running`, that of `shutdown` only `Stopped`;
the final writes look at nothing. -/
def step (hasAny : Bool) (s : State) : Step → Option State
  | .startBegin i =>
    if s.calls i = none then
      if s.status = .running then some (s.advance .running i .start (.returned (.ok ())))
      else some (s.advance .starting i .start .guarded)
    else none
  | .startRefuse i =>
    if s.At i .start .guarded ∧ hasAny = false then
      some (s.advance s.status i .start
        (.returned (.error (.startFailed "no ingress transport configured — add http or grpc"))))
    else none
  | .startHookCall i =>
    if s.At i .start .guarded ∧ hasAny = true then some (s.advance s.status i .start .hooking)
    else none
  | .startHookReturn i result =>
    if s.At i .start .hooking then
      match result with
      | .ok () => some (s.advance s.status i .start .hooked)
      | .error e => some (s.advance s.status i .start (.returned (.error (.startFailed e))))
    else none
  | .startProbe i =>
    if s.At i .start .hooked then some (s.advance s.status i .start .probed) else none
  | .startFinish i =>
    if s.At i .start .probed then some (s.advance .running i .start (.returned (.ok ()))) else none
  | .shutdownBegin i =>
    if s.calls i = none then
      if s.status = .stopped then some (s.advance .stopped i .shutdown (.returned (.ok ())))
      else some (s.advance .stopping i .shutdown .guarded)
    else none
  | .shutdownHookCall i =>
    if s.At i .shutdown .guarded then some (s.advance s.status i .shutdown .hooking) else none
  | .shutdownHookReturn i result =>
    if s.At i .shutdown .hooking then
      match result with
      | .ok () => some (s.advance s.status i .shutdown .hooked)
      | .error e => some (s.advance s.status i .shutdown (.returned (.error (.shutdownFailed e))))
    else none
  | .shutdownFinish i =>
    if s.At i .shutdown .hooked then some (s.advance .stopped i .shutdown (.returned (.ok ())))
    else none

/-- The call a step belongs to. -/
def Step.call : Step → Op × Nat
  | .startBegin i | .startRefuse i | .startHookCall i | .startHookReturn i _ | .startProbe i
  | .startFinish i => (.start, i)
  | .shutdownBegin i | .shutdownHookCall i | .shutdownHookReturn i _ | .shutdownFinish i =>
    (.shutdown, i)

/-- A manager as `DefaultRuntimeManager::new` leaves it, and its steps. -/
def machine (hasAny : Bool) : StepMachine State Step where
  init := ⟨.stopped, fun _ => none⟩
  step := step hasAny

variable {hasAny : Bool} {s s' : State} {i : Nat}

/-- The status a step leaves, given the status it finds. -/
def Step.write (found : RuntimeStatus) : Step → RuntimeStatus
  | .startBegin _ => if found = .running then .running else .starting
  | .startFinish _ => .running
  | .shutdownBegin _ => if found = .stopped then .stopped else .stopping
  | .shutdownFinish _ => .stopped
  | _ => found

/-- The phase a step finds its call in, unless the call begins. -/
def Step.finds : Step → Option Phase
  | .startBegin _ | .shutdownBegin _ => none
  | .startRefuse _ | .startHookCall _ | .shutdownHookCall _ => some .guarded
  | .startHookReturn _ _ | .shutdownHookReturn _ _ => some .hooking
  | .startProbe _ | .shutdownFinish _ => some .hooked
  | .startFinish _ => some .probed

/-- A call that goes on is in progress. -/
theorem Step.live_of_finds {a : Step} {phase : Phase} (finds : a.finds = some phase) :
    phase.Live := by
  cases a with
  | startBegin i | shutdownBegin i => cases finds
  | startRefuse i | startHookCall i | startHookReturn i result | startProbe i | startFinish i
  | shutdownHookCall i | shutdownHookReturn i result | shutdownFinish i =>
    cases finds
    trivial

/-- The phase a step brings its call to, given the status it finds. -/
def Step.reaches (found : RuntimeStatus) : Step → Phase
  | .startBegin _ => if found = .running then .returned (.ok ()) else .guarded
  | .startRefuse _ =>
    .returned (.error (.startFailed "no ingress transport configured — add http or grpc"))
  | .startHookReturn _ (.error e) => .returned (.error (.startFailed e))
  | .startHookReturn _ (.ok _) | .shutdownHookReturn _ (.ok _) => .hooked
  | .startProbe _ => .probed
  | .shutdownBegin _ => if found = .stopped then .returned (.ok ()) else .guarded
  | .startHookCall _ | .shutdownHookCall _ => .hooking
  | .shutdownHookReturn _ (.error e) => .returned (.error (.shutdownFailed e))
  | .startFinish _ | .shutdownFinish _ => .returned (.ok ())

/-- What a step does: it finds its call in one phase and brings it to another, writes
the status, and leaves the other calls alone. -/
theorem step_spec {a : Step} (ran : step hasAny s a = some s') :
    s.calls a.call.2 = a.finds.map (Call.mk a.call.1) ∧
      s' = s.advance (a.write s.status) a.call.2 a.call.1 (a.reaches s.status) := by
  cases a with
  | startBegin i | shutdownBegin i =>
    simp only [step, Option.ite_none_right_eq_some] at ran
    obtain ⟨absent, ran⟩ := ran
    refine ⟨absent, ?_⟩
    split at ran
    · rename_i settled
      cases ran
      simp [Step.write, Step.reaches, Step.call, settled]
    · rename_i unsettled
      cases ran
      simp [Step.write, Step.reaches, Step.call, unsettled]
  | startHookReturn i result | shutdownHookReturn i result =>
    simp only [step, Option.ite_none_right_eq_some] at ran
    obtain ⟨held, ran⟩ := ran
    cases result with
    | ok _ =>
      cases ran
      exact ⟨held, rfl⟩
    | error e =>
      cases ran
      exact ⟨held, rfl⟩
  | startRefuse i | startHookCall i =>
    simp only [step, Option.ite_none_right_eq_some] at ran
    obtain ⟨⟨held, _⟩, ran⟩ := ran
    cases ran
    exact ⟨held, rfl⟩
  | startProbe i | startFinish i | shutdownHookCall i | shutdownFinish i =>
    simp only [step, Option.ite_none_right_eq_some] at ran
    obtain ⟨held, ran⟩ := ran
    cases ran
    exact ⟨held, rfl⟩

theorem status_of_step {a : Step} (ran : step hasAny s a = some s') :
    s'.status = a.write s.status := by
  rw [(step_spec ran).2, State.advance_status]

/-- Only the final write of a start makes the status `Running`. -/
theorem running_of_step {a : Step} (ran : step hasAny s a = some s') (now : s'.status = .running) :
    s.status = .running ∨ ∃ i, a = .startFinish i := by
  rw [status_of_step ran] at now
  cases a with
  | startFinish i => exact .inr ⟨i, rfl⟩
  | startBegin i =>
    simp only [Step.write] at now
    split at now
    · exact .inl ‹_›
    · cases now
  | shutdownBegin i =>
    simp only [Step.write] at now
    split at now <;> cases now
  | shutdownFinish i => cases now
  | startRefuse i | startHookCall i | startHookReturn i result | startProbe i | shutdownHookCall i
  | shutdownHookReturn i result => exact .inl now

end EdgeBootstrap.ManagerSteps
