import EdgeBootstrap.Config.RuntimeConfig
import EdgeBootstrap.Runtime.ManagerSteps
import EdgeBootstrap.Transport.Ingress

/-! `DefaultRuntimeManager`, one call at a time, with the health it reports. What
it probes answers with a value: a health check of an egress transport or of the
message broker either succeeds or fails with a text. -/
namespace EdgeBootstrap

/-- `edge_proxy::HealthStatus`. -/
inductive HealthStatus
  | healthy | degraded | unhealthy
  deriving DecidableEq, Repr

/-- `edge_proxy::ComponentHealth`, as far as the manager reads it. -/
structure ReportedComponent where
  id : String
  status : HealthStatus
  message : Option String
  deriving DecidableEq, Repr

/-- `edge_proxy::HealthResponse`. -/
structure HealthResponse where
  overall : HealthStatus
  components : List ReportedComponent
  deriving DecidableEq, Repr

/-- `LifecycleMonitor`: what its hooks and its report answer; an error is its
text. -/
structure LifecycleMonitor where
  startBackgroundTasks : Except String Unit
  health : Except String HealthResponse
  shutdown : Except String Unit

/-- `DefaultEgress`, as the manager probes it. -/
structure Egress where
  http : Except String Unit
  grpc : Option (Except String Unit) := none

/-- The component of a lifecycle report. -/
def ComponentHealth.ofReported (c : ReportedComponent) : ComponentHealth :=
  match c.status with
  | .healthy => .ofHealthy c.id
  | _ => .ofUnhealthy c.id (c.message.getD "degraded")

@[simp] theorem ComponentHealth.ofReported_name (c : ReportedComponent) :
    (ofReported c).name = c.id := by
  unfold ofReported
  cases c.status <;> rfl

theorem ComponentHealth.ofReported_unhealthy (c : ReportedComponent) :
    (ofReported c).healthy = false ↔ c.status ≠ .healthy := by
  unfold ofReported
  cases c.status <;> simp [ofHealthy, ofUnhealthy]

/-- The component of a probe: unhealthy when the probe fails, whatever a probe
that succeeds reports. -/
def ComponentHealth.ofProbe {ε β : Type} (name : String) (text : ε → String) :
    Except ε β → ComponentHealth
  | .ok _ => .ofHealthy name
  | .error e => .ofUnhealthy name (text e)

@[simp] theorem ComponentHealth.ofProbe_ok {ε β : Type} (name : String) (text : ε → String) (b : β) :
    ofProbe name text (.ok b : Except ε β) = .ofHealthy name := rfl

variable [Platform] {σ α : Type}

/-- `DefaultRuntimeManager`; the broker is there with the `message-broker`
feature only. Instants are in microseconds. -/
structure DefaultRuntimeManager (σ α : Type) where
  config : RuntimeConfig
  ingress : Ingress σ α
  egress : Egress
  lifecycle : LifecycleMonitor
  status : RuntimeStatus := .stopped
  startedAt : Option UInt64 := none
  messageBroker : Option (Except String Unit) := none

namespace DefaultRuntimeManager

variable (self : DefaultRuntimeManager σ α)

/-- `start`, at an instant. The probes of the transports are made for their
side effects; what they answer is dropped. -/
def start (now : UInt64) : Except RuntimeError Unit × DefaultRuntimeManager σ α :=
  if self.status = .running then (.ok (), self)
  else
    let self := { self with status := .starting }
    if self.ingress.hasAny then
      match self.lifecycle.startBackgroundTasks with
      | .error e => (.error (.startFailed e), self)
      | .ok () => (.ok (), { self with status := .running, startedAt := some now })
    else
      (.error (.startFailed "no ingress transport configured — add http or grpc"), self)

def shutdown : Except RuntimeError Unit × DefaultRuntimeManager σ α :=
  if self.status = .stopped then (.ok (), self)
  else
    let self := { self with status := .stopping }
    match self.lifecycle.shutdown with
    | .error e => (.error (.shutdownFailed e), self)
    | .ok () => (.ok (), { self with status := .stopped })

/-- The lifecycle report `health` goes by. -/
def report : HealthResponse :=
  match self.lifecycle.health with
  | .ok report => report
  | .error _ => ⟨.unhealthy, []⟩

/-- The components of the transports and the broker. -/
def probed : List ComponentHealth :=
  (self.ingress.http.map fun h =>
      ComponentHealth.ofProbe "ingress.http" Platform.httpErrorText h.healthCheck).toList ++
    (self.ingress.grpc.map fun g =>
      ComponentHealth.ofProbe "ingress.grpc" Platform.grpcErrorText g.healthCheck).toList ++
    [ComponentHealth.ofProbe "egress.http" id self.egress.http] ++
    (self.egress.grpc.map (ComponentHealth.ofProbe "egress.grpc" id)).toList ++
    (self.messageBroker.map (ComponentHealth.ofProbe "message-broker" id)).toList

/-- `health`, at an instant. -/
def health (now : UInt64) : RuntimeHealth where
  status := self.status
  components := self.report.components.map ComponentHealth.ofReported ++ self.probed
  uptimeSecs := match self.startedAt with
    | some since => if since ≤ now then (now - since) / 1000000 else 0
    | none => 0

/-- A component of the health report. -/
theorem mem_health {c : ComponentHealth} {now : UInt64} :
    c ∈ (self.health now).components ↔
      (∃ r ∈ self.report.components, .ofReported r = c) ∨ c ∈ self.probed := by
  simp [health]

section Refinement
open ManagerSteps
variable {s : State} {i : Nat}

/-- A call of `start` that nothing interleaves with is a run of its steps. -/
theorem start_refines (now : UInt64) (same : s.status = self.status) (fresh : s.calls i = none) :
    ∃ steps : List Step, (∀ a ∈ steps, a.call = (.start, i)) ∧
      (machine self.ingress.hasAny).execFrom s steps = some (s.advance
        (self.start now).2.status i .start (.returned (self.start now).1)) := by
  by_cases running : self.status = .running
  · refine ⟨[.startBegin i], by simp [Step.call], ?_⟩
    simp [machine, step, start, fresh, same, running]
  · cases hasAny : self.ingress.hasAny with
    | false =>
      refine ⟨[.startBegin i, .startRefuse i], by simp [Step.call], ?_⟩
      simp [machine, step, start, fresh, same, running, hasAny, State.at_advance]
    | true =>
      cases hook : self.lifecycle.startBackgroundTasks with
      | error e =>
        refine ⟨[.startBegin i, .startHookCall i, .startHookReturn i (.error e)],
          by simp [Step.call], ?_⟩
        simp [machine, step, start, fresh, same, running, hasAny, hook, State.at_advance]
      | ok =>
        refine ⟨[.startBegin i, .startHookCall i, .startHookReturn i (.ok ()), .startProbe i,
          .startFinish i], by simp [Step.call], ?_⟩
        simp [machine, step, start, fresh, same, running, hasAny, hook, State.at_advance]

/-- A call of `shutdown` that nothing interleaves with is a run of its steps. -/
theorem shutdown_refines (same : s.status = self.status) (fresh : s.calls i = none) :
    ∃ steps : List Step, (∀ a ∈ steps, a.call = (.shutdown, i)) ∧
      (machine self.ingress.hasAny).execFrom s steps = some (s.advance
        self.shutdown.2.status i .shutdown (.returned self.shutdown.1)) := by
  by_cases stopped : self.status = .stopped
  · refine ⟨[.shutdownBegin i], by simp [Step.call], ?_⟩
    simp [machine, step, shutdown, fresh, same, stopped]
  · cases hook : self.lifecycle.shutdown with
    | error e =>
      refine ⟨[.shutdownBegin i, .shutdownHookCall i, .shutdownHookReturn i (.error e)],
        by simp [Step.call], ?_⟩
      simp [machine, step, shutdown, fresh, same, stopped, hook, State.at_advance]
    | ok =>
      refine ⟨[.shutdownBegin i, .shutdownHookCall i, .shutdownHookReturn i (.ok ()),
        .shutdownFinish i], by simp [Step.call], ?_⟩
      simp [machine, step, shutdown, fresh, same, stopped, hook, State.at_advance]

end Refinement

end DefaultRuntimeManager

end EdgeBootstrap
