import EdgeBootstrap.Library.Traced
import EdgeBootstrap.Runtime.Manager

/-! The status of a runtime manager over a history of calls, one after the other.
A call writes a transitional status before it can fail, so what a history leaves
is told by its last call of `start` or `shutdown` and by what that returned. -/
namespace EdgeBootstrap
open StepMachine
open ManagerSteps (Op)

section
variable [Platform] {σ α : Type}

namespace DefaultRuntimeManager

/-- A computation on a manager that calls hooks of its lifecycle monitor. -/
abbrev Hooking (σ α β : Type) : Type := Traced (DefaultRuntimeManager σ α) Op β

/-- `start`, with the hook it calls. -/
def startHooking (now : UInt64) : Hooking σ α (Except RuntimeError Unit) := do
  let self ← Traced.get
  if self.status = .running then return .ok ()
  Traced.modify fun self => { self with status := .starting }
  if self.ingress.hasAny then
    Traced.tell .start
    match self.lifecycle.startBackgroundTasks with
    | .error e => return .error (.startFailed e)
    | .ok () =>
      Traced.modify fun self => { self with status := .running, startedAt := some now }
      return .ok ()
  else
    return .error (.startFailed "no ingress transport configured — add http or grpc")

/-- `shutdown`, with the hook it calls. -/
def shutdownHooking : Hooking σ α (Except RuntimeError Unit) := do
  let self ← Traced.get
  if self.status = .stopped then return .ok ()
  Traced.modify fun self => { self with status := .stopping }
  Traced.tell .shutdown
  match self.lifecycle.shutdown with
  | .error e => return .error (.shutdownFailed e)
  | .ok () =>
    Traced.modify fun self => { self with status := .stopped }
    return .ok ()

variable (self : DefaultRuntimeManager σ α) (now : UInt64)

/-- What `startHooking` returns and leaves is what `start` does. -/
theorem startHooking_eq : ((startHooking now).value self, (startHooking now).state self) = self.start now := by
  unfold startHooking start
  by_cases running : self.status = .running
  · simp [running]
  · by_cases hasAny : self.ingress.hasAny
    · cases hook : self.lifecycle.startBackgroundTasks with
      | error e => simp [running, hasAny, hook]
      | ok _ => simp [running, hasAny, hook]
    · simp [running, hasAny]

/-- What `shutdownHooking` returns and leaves is what `shutdown` does. -/
theorem shutdownHooking_eq : (shutdownHooking.value self, shutdownHooking.state self) = self.shutdown := by
  unfold shutdownHooking shutdown
  by_cases stopped : self.status = .stopped
  · simp [stopped]
  · cases hook : self.lifecycle.shutdown with
    | error e => simp [stopped, hook]
    | ok _ => simp [stopped, hook]

end DefaultRuntimeManager

/-- A call of `start` or `shutdown`, and what the lifecycle monitor answers while
it runs. -/
inductive ManagerCall
  | start (lifecycle : LifecycleMonitor) (now : UInt64)
  | shutdown (lifecycle : LifecycleMonitor)

namespace ManagerCall

def lifecycle : ManagerCall → LifecycleMonitor
  | .start lifecycle _ | .shutdown lifecycle => lifecycle

/-- The hook the call is for. -/
def hook : ManagerCall → Op
  | .start _ _ => .start
  | .shutdown _ => .shutdown

/-- The status a call that succeeds leaves. -/
def target : ManagerCall → RuntimeStatus
  | .start _ _ => .running
  | .shutdown _ => .stopped

/-- The status a call writes before it can fail. -/
def transitional : ManagerCall → RuntimeStatus
  | .start _ _ => .starting
  | .shutdown _ => .stopping

/-- What a call needs that does not find its target status already there. -/
def Succeeds (call : ManagerCall) (self : DefaultRuntimeManager σ α) : Prop :=
  match call with
  | .start lifecycle _ => self.ingress.hasAny = true ∧ lifecycle.startBackgroundTasks = .ok ()
  | .shutdown lifecycle => lifecycle.shutdown = .ok ()

def perform (call : ManagerCall) : DefaultRuntimeManager.Hooking σ α (Except RuntimeError Unit) := do
  Traced.modify fun self => { self with lifecycle := call.lifecycle }
  match call with
  | .start _ now => DefaultRuntimeManager.startHooking now
  | .shutdown _ => DefaultRuntimeManager.shutdownHooking

variable (call : ManagerCall) (self : DefaultRuntimeManager σ α)

/-- How a call can go: nothing is to be done, it fails between its two writes, or
it makes both. -/
inductive Course : Prop
  | settled (found : self.status = call.target) (value : call.perform.value self = .ok ())
      (status : (call.perform.state self).status = call.target)
      (events : call.perform.events self = [])
  | failed (found : self.status ≠ call.target) (fails : ¬ call.Succeeds self) (e : RuntimeError)
      (value : call.perform.value self = .error e)
      (status : (call.perform.state self).status = call.transitional)
  | succeeded (found : self.status ≠ call.target) (succeeds : call.Succeeds self)
      (value : call.perform.value self = .ok ())
      (status : (call.perform.state self).status = call.target)
      (events : call.perform.events self = [call.hook])

theorem course : call.Course self := by
  cases call with
  | start lifecycle now =>
    by_cases running : self.status = .running
    · apply Course.settled running <;>
        simp [perform, DefaultRuntimeManager.startHooking, running, target]
    · by_cases hasAny : self.ingress.hasAny
      · cases hook : lifecycle.startBackgroundTasks with
        | error e =>
          apply Course.failed running (by simp [Succeeds, hook]) (.startFailed e) <;>
            simp [perform, DefaultRuntimeManager.startHooking, running, hasAny, hook,
              ManagerCall.lifecycle, transitional]
        | ok _ =>
          have succeeds : (ManagerCall.start lifecycle now).Succeeds self := ⟨hasAny, hook⟩
          apply Course.succeeded running succeeds <;>
            simp [perform, DefaultRuntimeManager.startHooking, running, hasAny, hook,
              ManagerCall.lifecycle, target, ManagerCall.hook]
      · apply Course.failed running (by simp [Succeeds, hasAny])
          (.startFailed "no ingress transport configured — add http or grpc") <;>
          simp [perform, DefaultRuntimeManager.startHooking, running, hasAny, transitional]
  | shutdown lifecycle =>
    by_cases stopped : self.status = .stopped
    · apply Course.settled stopped <;>
        simp [perform, DefaultRuntimeManager.shutdownHooking, stopped, target]
    · cases hook : lifecycle.shutdown with
      | error e =>
        apply Course.failed stopped (by simp [Succeeds, hook]) (.shutdownFailed e) <;>
          simp [perform, DefaultRuntimeManager.shutdownHooking, stopped, hook,
            ManagerCall.lifecycle, transitional]
      | ok _ =>
        have succeeds : (ManagerCall.shutdown lifecycle).Succeeds self := hook
        apply Course.succeeded stopped succeeds <;>
          simp [perform, DefaultRuntimeManager.shutdownHooking, stopped, hook,
            ManagerCall.lifecycle, target, ManagerCall.hook]

variable {call self}

omit [Platform] in
@[simp] theorem target_ne_transitional : call.target ≠ call.transitional := by
  cases call <;> simp [target, transitional]

/-- A call returns `Ok` exactly when it leaves its target status. -/
theorem returns_ok_iff :
    call.perform.value self = .ok () ↔ (call.perform.state self).status = call.target := by
  cases call.course self with
  | settled _ value status | succeeded _ _ value status => simp [value, status]
  | failed _ _ e value status => simp [value, status, Ne.symm target_ne_transitional]

variable (call self) in
/-- A call leaves its target status or its transitional one. -/
theorem status_after : (call.perform.state self).status = call.target ∨
    (call.perform.state self).status = call.transitional := by
  cases call.course self with
  | settled _ _ status | succeeded _ _ _ status => exact .inl status
  | failed _ _ _ _ status => exact .inr status

/-- A call returns `Ok` without its hook exactly when it finds its target status. -/
theorem ok_without_hook_iff :
    (call.perform.value self = .ok () ∧ call.hook ∉ call.perform.events self) ↔
      self.status = call.target := by
  cases call.course self with
  | settled found value _ events => simp [found, value, events]
  | failed found _ e value _ => simp [found, value]
  | succeeded found _ value _ events => simp [found, value, events]

/-- A call that fails leaves the status exactly when it found that status already,
so it was in its transition before; a call that cannot fail has nothing to undo. -/
theorem failure_keeps_status_iff :
    (∀ e, call.perform.value self = .error e →
      (call.perform.state self).status = self.status) ↔
    self.status = call.target ∨ self.status = call.transitional ∨ call.Succeeds self := by
  cases call.course self with
  | settled found value => simp [found, value]
  | failed found fails e value status => simp [found, fails, value, status, eq_comm]
  | succeeded _ succeeds value => simp [succeeds, value]

end ManagerCall

/-- A call on a manager. -/
inductive ManagerOp
  | call (c : ManagerCall)
  | health (lifecycle : LifecycleMonitor) (now : UInt64)

namespace ManagerOp

/-- The manager after the call. -/
def after (self : DefaultRuntimeManager σ α) : ManagerOp → DefaultRuntimeManager σ α
  | .call c => c.perform.state self
  | .health lifecycle _ => { self with lifecycle }

/-- When the call is a `start` or `shutdown` that returns an error, the status is
as it was. -/
def KeepsOnFailure (self : DefaultRuntimeManager σ α) (op : ManagerOp) : Prop :=
  ∀ c e, op = .call c → c.perform.value self = .error e →
    (op.after self).status = self.status

/-- A `start` or `shutdown` finds the status it works for, or the one it leaves
when it fails, or it meets no failure: there is an ingress transport and its hook
succeeds. -/
def Undisturbed (self : DefaultRuntimeManager σ α) (op : ManagerOp) : Prop :=
  ∀ c, op = .call c →
    self.status = c.target ∨ self.status = c.transitional ∨ c.Succeeds self

end ManagerOp

/-- A new manager, and the calls on it. -/
def historyMachine (self : DefaultRuntimeManager σ α) :
    StepMachine (DefaultRuntimeManager σ α) ManagerOp where
  init := { self with status := .stopped, startedAt := none }
  step m op := some (op.after m)

/-- In a history of calls on a new manager, every call that fails leaves the status
as it was exactly when no call is disturbed between its two writes. -/
theorem failed_calls_keep_status_iff (self : DefaultRuntimeManager σ α) (history : List ManagerOp) :
    (historyMachine self).Throughout (fun _ m op => op.KeepsOnFailure m) history ↔
      (historyMachine self).Throughout (fun _ m op => op.Undisturbed m) history := by
  have each : ∀ (m : DefaultRuntimeManager σ α) (op : ManagerOp),
      op.KeepsOnFailure m ↔ op.Undisturbed m := by
    intro m op
    cases op with
    | call c =>
      constructor
      · intro keeps c' same
        cases same
        exact ManagerCall.failure_keeps_status_iff.mp fun e => keeps c e rfl
      · intro undisturbed c' e same
        cases same
        exact ManagerCall.failure_keeps_status_iff.mpr (undisturbed c rfl) e
    | health lifecycle now =>
      exact iff_of_true (fun _ _ other => by cases other) (fun _ other => by cases other)
  simp only [Throughout, each]

/-- A new manager after some calls of `start` and `shutdown`. -/
def managerAfter (self : DefaultRuntimeManager σ α) (calls : List ManagerCall) :
    DefaultRuntimeManager σ α :=
  calls.foldl (fun m call => call.perform.state m) { self with status := .stopped, startedAt := none }

variable {self : DefaultRuntimeManager σ α} {calls : List ManagerCall}

@[simp] theorem managerAfter_snoc (call : ManagerCall) :
    managerAfter self (calls ++ [call]) = call.perform.state (managerAfter self calls) := by
  simp [managerAfter]

/-- The last of the calls is one that returned `Ok` and works for this status. -/
def LastReached (self : DefaultRuntimeManager σ α) (calls : List ManagerCall)
    (status : RuntimeStatus) : Prop :=
  ∃ earlier call, calls = earlier ++ [call] ∧ call.target = status ∧
    call.perform.value (managerAfter self earlier) = .ok ()

/-- A status that calls work for is the one found exactly when the last call
reached it. -/
theorem status_eq_iff_lastReached {status : RuntimeStatus}
    (target : status = .running ∨ status = .stopped) :
    (managerAfter self calls).status = status ↔
      (calls = [] ∧ status = .stopped) ∨ LastReached self calls status := by
  cases calls using List.reverseRecOn with
  | nil =>
    have initial : (managerAfter self []).status = .stopped := rfl
    have unreached : ¬ LastReached self [] status := by
      rintro ⟨earlier, call, split, _⟩
      simp at split
    simp [initial, unreached, eq_comm]
  | append_singleton calls call _ =>
    have last : LastReached self (calls ++ [call]) status ↔
        call.target = status ∧ call.perform.value (managerAfter self calls) = .ok () := by
      constructor
      · rintro ⟨earlier, other, split, reached⟩
        obtain ⟨rfl, same⟩ := List.append_inj' split rfl
        cases same
        exact reached
      · exact fun reached => ⟨calls, call, rfl, reached⟩
    rw [managerAfter_snoc, last, ManagerCall.returns_ok_iff]
    have passing : call.transitional ≠ status := by
      rcases target with rfl | rfl <;> cases call <;> simp [ManagerCall.transitional]
    rcases call.status_after (managerAfter self calls) with at_target | passed
    · simp [at_target]
    · simp [passed, passing, Ne.symm ManagerCall.target_ne_transitional]

/-- No call leaves a degraded status. -/
theorem not_degraded : (managerAfter self calls).status ≠ .degraded := by
  cases calls using List.reverseRecOn with
  | nil => simp [managerAfter]
  | append_singleton calls call _ =>
    rw [managerAfter_snoc]
    rcases call.status_after (managerAfter self calls) with found | found
    · rw [found]
      cases call <;> simp [ManagerCall.target]
    · rw [found]
      cases call <;> simp [ManagerCall.transitional]

/-- After any history of starts and shutdowns of a new manager the status tells
which call was the last and that it succeeded, and the calls that have nothing to
do are those that find the status they work for. -/
theorem status_reflects_last_call (self : DefaultRuntimeManager σ α) (calls : List ManagerCall) :
    ((managerAfter self calls).status = .running ↔
      ∃ earlier lifecycle now, calls = earlier ++ [.start lifecycle now] ∧
        (ManagerCall.start lifecycle now).perform.value (managerAfter self earlier) = .ok ()) ∧
    ((managerAfter self calls).status = .stopped ↔
      calls = [] ∨ ∃ earlier lifecycle, calls = earlier ++ [.shutdown lifecycle] ∧
        (ManagerCall.shutdown lifecycle).perform.value (managerAfter self earlier) = .ok ()) ∧
    (managerAfter self calls).status ≠ .degraded ∧
    (∀ lifecycle now, let start := (ManagerCall.start lifecycle now).perform
      (start.value (managerAfter self calls) = .ok () ∧
        .start ∉ start.events (managerAfter self calls)) ↔
      (managerAfter self calls).status = .running) ∧
    (∀ lifecycle, let shutdown := (ManagerCall.shutdown lifecycle).perform
      (shutdown.value (managerAfter self calls) = .ok () ∧
        .shutdown ∉ shutdown.events (managerAfter self calls)) ↔
      (managerAfter self calls).status = .stopped) := by
  refine ⟨?_, ?_, not_degraded, fun lifecycle now => ManagerCall.ok_without_hook_iff,
    fun lifecycle => ManagerCall.ok_without_hook_iff⟩
  · rw [status_eq_iff_lastReached (.inl rfl)]
    constructor
    · rintro (⟨_, other⟩ | ⟨earlier, call, split, target, value⟩)
      · cases other
      · cases call with
        | start lifecycle now => exact ⟨earlier, lifecycle, now, split, value⟩
        | shutdown lifecycle => cases target
    · rintro ⟨earlier, lifecycle, now, split, value⟩
      exact .inr ⟨earlier, _, split, rfl, value⟩
  · rw [status_eq_iff_lastReached (.inr rfl)]
    constructor
    · rintro (⟨none, _⟩ | ⟨earlier, call, split, target, value⟩)
      · exact .inl none
      · cases call with
        | start lifecycle now => cases target
        | shutdown lifecycle => exact .inr ⟨earlier, lifecycle, split, value⟩
    · rintro (none | ⟨earlier, lifecycle, split, value⟩)
      · exact .inl ⟨none, rfl⟩
      · exact .inr ⟨earlier, _, split, rfl, value⟩

end

section Reference

attribute [local instance] Platform.reference

/-- A manager without an ingress transport is left `Starting` by the start that
refuses it. -/
theorem refused_start_leaves_starting :
    let monitor : LifecycleMonitor := ⟨.ok (), .ok ⟨.healthy, []⟩, .ok ()⟩
    let self : DefaultRuntimeManager Unit Unit :=
      { config := {}, ingress := ⟨none, none⟩, egress := ⟨.ok (), none⟩, lifecycle := monitor }
    let start : ManagerCall := .start monitor 0
    self.status = .stopped ∧
      start.perform.value self =
        .error (.startFailed "no ingress transport configured — add http or grpc") ∧
      (start.perform.state self).status = .starting ∧
      ¬ (historyMachine self).Throughout (fun _ m op => op.KeepsOnFailure m) [.call start] := by
  refine ⟨rfl, rfl, rfl, fun keeps => ?_⟩
  have same := keeps [] _ [] _ rfl rfl _ _ rfl rfl
  cases same

end Reference

end EdgeBootstrap
