import EdgeBootstrap.Dispatch.RouteOwnership
import EdgeBootstrap.Dispatch.GrpcJob
import EdgeBootstrap.Intrusion.Guard
import EdgeBootstrap.Monitor.LoadMonitor
import EdgeBootstrap.Runtime.HealthHandler
import EdgeBootstrap.Transport.CompositeGrpc

/-! How far the verdict of an unhealthy handler gets. Every wrapper of an ingress
passes its health check through, and the ingress of a job answers it with `Ok`
and a flag; the manager looks at the `Ok` and not at the flag. -/
namespace EdgeBootstrap

section
variable [Platform] {σ α : Type}

/-- What an `HttpIngress` may be wrapped in. -/
inductive HttpWrapper (σ : Type)
  | loadMonitor
  | intrusionGuard (wired : Wired σ)

/-- What a `GrpcIngress` may be wrapped in. -/
inductive GrpcWrapper (σ α : Type)
  | loadMonitor
  | intrusionGuard (wired : Wired σ)
  | composite (reflection : GrpcIngress σ α)

variable [Clock α]

def HttpWrapper.wrap (inner : HttpIngress σ α) : HttpWrapper σ → HttpIngress σ α
  | .loadMonitor => HttpLoadMonitor inner
  | .intrusionGuard wired => HttpIntrusionGuard inner wired

def GrpcWrapper.wrap (inner : GrpcIngress σ α) : GrpcWrapper σ α → GrpcIngress σ α
  | .loadMonitor => GrpcLoadMonitor inner
  | .intrusionGuard wired => GrpcIntrusionGuard inner wired
  | .composite reflection => CompositeGrpcIngress.ingress ⟨inner, reflection⟩

/-- An ingress inside wrappers, the innermost first. -/
def HttpIngress.wrapped (inner : HttpIngress σ α) (wrappers : List (HttpWrapper σ)) :
    HttpIngress σ α := wrappers.foldl HttpWrapper.wrap inner

/-- An ingress inside wrappers, the innermost first. -/
def GrpcIngress.wrapped (inner : GrpcIngress σ α) (wrappers : List (GrpcWrapper σ α)) :
    GrpcIngress σ α := wrappers.foldl GrpcWrapper.wrap inner

/-- Wrappers pass the health check through. -/
@[simp] theorem HttpIngress.healthCheck_wrapped (inner : HttpIngress σ α)
    (wrappers : List (HttpWrapper σ)) : (inner.wrapped wrappers).healthCheck = inner.healthCheck := by
  induction wrappers generalizing inner with
  | nil => rfl
  | cons wrapper wrappers ih =>
    have once : (wrapper.wrap inner).healthCheck = inner.healthCheck := by cases wrapper <;> rfl
    exact (ih (wrapper.wrap inner)).trans once

@[simp] theorem GrpcIngress.healthCheck_wrapped (inner : GrpcIngress σ α)
    (wrappers : List (GrpcWrapper σ α)) :
    (inner.wrapped wrappers).healthCheck = inner.healthCheck := by
  induction wrappers generalizing inner with
  | nil => rfl
  | cons wrapper wrappers ih =>
    have once : (wrapper.wrap inner).healthCheck = inner.healthCheck := by cases wrapper <;> rfl
    exact (ih (wrapper.wrap inner)).trans once

/-- The jobs behind a manager, each with the wrappers of its ingress. -/
structure JobTransports (σ α : Type) where
  deps : HttpJobDeps σ α
  behaviour : RegistryBehaviour (GrpcPipeline σ α)
  http : Option (HttpIngressJob σ α × List (HttpWrapper σ))
  grpc : Option (GrpcIngressJob σ α × List (GrpcWrapper σ α))

namespace JobTransports

variable (jobs : JobTransports σ α)

/-- The ingress a manager is given for the jobs. -/
def ingress : Ingress σ α where
  http := jobs.http.map fun (self, wrappers) => (self.ingress jobs.deps).wrapped wrappers
  grpc := jobs.grpc.map fun (self, wrappers) => (self.ingress jobs.behaviour).wrapped wrappers

/-- A handler registered on the HTTP job is sick. -/
def HttpSick : Prop :=
  ∃ (self : HttpIngressJob σ α) (wrappers : List (HttpWrapper σ)) (id : String)
    (h : ErasedHandler σ α HttpRequest HttpResponse), jobs.http = some (self, wrappers) ∧
    self.job.healthHandlers[id]? = some h ∧ h.Sick

/-- A handler registered on the gRPC job is sick. -/
def GrpcSick : Prop :=
  ∃ (self : GrpcIngressJob σ α) (wrappers : List (GrpcWrapper σ α)) (id : String)
    (h : ErasedHandler σ α (List UInt8) (List UInt8)), jobs.grpc = some (self, wrappers) ∧
    self.job.healthHandlers[id]? = some h ∧ h.Sick

end JobTransports

/-- The health report has an unhealthy component of this name. -/
def RuntimeHealth.Marks (health : RuntimeHealth) (name : String) : Prop :=
  ∃ c ∈ health.components, c.name = name ∧ c.healthy = false

/-- Sick handlers are visible: in the component of their transport, in the whole
report, and at the health endpoint. -/
structure SickVisible (jobs : JobTransports σ α) (handler : DefaultHealthHandler σ α)
    (now : UInt64) : Prop where
  http : jobs.HttpSick → (handler.manager.health now).Marks "ingress.http"
  grpc : jobs.GrpcSick → (handler.manager.health now).Marks "ingress.grpc"
  report : jobs.HttpSick ∨ jobs.GrpcSick → (handler.manager.health now).isHealthy = false
  endpoint : jobs.HttpSick ∨ jobs.GrpcSick → ∀ req : HttpRequest, req.method = .get →
    endpointPath req.url = Rust.trimEndMatches '/' handler.path →
    (handler.answer req now).map HttpResponse.status = .ok 503

/-- The lifecycle monitor itself reports a component of this name as not
healthy. -/
def DefaultRuntimeManager.Reports (self : DefaultRuntimeManager σ α) (name : String) : Prop :=
  ∃ r ∈ self.report.components, r.id = name ∧ r.status ≠ .healthy

/-- No probe of a job's ingress fails, so the components of the transports are
healthy. -/
private theorem healthy_of_probed {manager : DefaultRuntimeManager σ α} {jobs : JobTransports σ α}
    {c : ComponentHealth} (served : manager.ingress = jobs.ingress) (member : c ∈ manager.probed)
    (named : c.name = "ingress.http" ∨ c.name = "ingress.grpc") : c.healthy = true := by
  have other : ∀ (name : String) (probe : Except String Unit), name ≠ "ingress.http" →
      name ≠ "ingress.grpc" → c ≠ .ofProbe name id probe := by
    rintro name probe notHttp notGrpc rfl
    cases probe <;> rcases named with named | named <;> contradiction
  simp only [DefaultRuntimeManager.probed, served, JobTransports.ingress, Option.map_map,
    List.mem_append, List.mem_singleton, Option.mem_toList, Option.map_eq_some_iff] at member
  rcases member with (((⟨_, _, rfl⟩ | ⟨_, _, rfl⟩) | egress) | ⟨_, _, egress⟩) | ⟨_, _, broker⟩
  · simp [HttpIngressJob.ingress, ComponentHealth.ofHealthy]
  · simp [GrpcIngressJob.ingress, ComponentHealth.ofHealthy]
  · exact absurd egress (other _ _ (by decide) (by decide))
  · exact absurd egress.symm (other _ _ (by decide) (by decide))
  · exact absurd broker.symm (other _ _ (by decide) (by decide))

/-- A transport is marked in the health report only if the lifecycle monitor
reports it. -/
private theorem marks_iff {manager : DefaultRuntimeManager σ α} {jobs : JobTransports σ α}
    {name : String} (now : UInt64) (served : manager.ingress = jobs.ingress)
    (transport : name = "ingress.http" ∨ name = "ingress.grpc") :
    (manager.health now).Marks name ↔ manager.Reports name := by
  constructor
  · rintro ⟨c, member, rfl, sick⟩
    rcases manager.mem_health.mp member with ⟨r, reported, rfl⟩ | probed
    · exact ⟨r, reported, (ComponentHealth.ofReported_name r).symm,
        (ComponentHealth.ofReported_unhealthy r).mp sick⟩
    · have healthy := healthy_of_probed served probed transport
      rw [healthy] at sick
      cases sick
  · rintro ⟨r, reported, rfl, sick⟩
    exact ⟨.ofReported r, manager.mem_health.mpr (.inl ⟨r, reported, rfl⟩),
      ComponentHealth.ofReported_name r, (ComponentHealth.ofReported_unhealthy r).mpr sick⟩

/-- Sick handlers behind a manager are visible exactly when the lifecycle
monitor, which knows nothing of them, reports the transport of each. -/
theorem sick_visible_iff (jobs : JobTransports σ α) (handler : DefaultHealthHandler σ α)
    (now : UInt64) (served : handler.manager.ingress = jobs.ingress) :
    SickVisible jobs handler now ↔
      (jobs.HttpSick → handler.manager.Reports "ingress.http") ∧
      (jobs.GrpcSick → handler.manager.Reports "ingress.grpc") := by
  have http := marks_iff now served (Or.inl rfl)
  have grpc := marks_iff now served (Or.inr rfl)
  constructor
  · intro visible
    exact ⟨fun sick => http.mp (visible.http sick), fun sick => grpc.mp (visible.grpc sick)⟩
  · rintro ⟨httpReported, grpcReported⟩
    have unhealthy : jobs.HttpSick ∨ jobs.GrpcSick →
        (handler.manager.health now).isHealthy = false := by
      rintro (sick | sick)
      · obtain ⟨c, member, _, marked⟩ := http.mpr (httpReported sick)
        exact RuntimeHealth.not_isHealthy_of_mem member marked
      · obtain ⟨c, member, _, marked⟩ := grpc.mpr (grpcReported sick)
        exact RuntimeHealth.not_isHealthy_of_mem member marked
    refine ⟨fun sick => http.mpr (httpReported sick), fun sick => grpc.mpr (grpcReported sick),
      unhealthy, ?_⟩
    intro sick req method path
    rw [handler.answer_of_get now method path, unhealthy sick]
    rfl

end

section
attribute [local instance] Platform.reference

/-- An HTTP job with one handler, which is not healthy, under a load monitor. -/
private abbrev sickUsers : JobTransports Unit Unit where
  deps := .overwriting .exact
  behaviour := .infallible
  http := some (⟨DefaultHttpJob.new.registerAll (.overwriting .exact)
    [.answering "users" "/users" 200 false], ()⟩, [.loadMonitor])
  grpc := none

/-- A manager started over it, with what its lifecycle monitor reports. -/
private abbrev sickUsersManager (components : List ReportedComponent) :
    DefaultRuntimeManager Unit Unit :=
  (DefaultRuntimeManager.start ⟨.default, sickUsers.ingress, ⟨.ok (), none⟩,
    ⟨.ok (), .ok ⟨.healthy, components⟩, .ok ()⟩, .stopped, none, none⟩ 0).2

/-- A lifecycle monitor that happens to report the transport makes it visible. -/
theorem sick_visible_iff_reported :
    SickVisible sickUsers ⟨sickUsersManager [⟨"ingress.http", .degraded, none⟩], "/health"⟩ 0 := by
  refine (sick_visible_iff sickUsers _ 0 rfl).mpr ⟨fun _ => ?_, ?_⟩
  · exact ⟨_, List.mem_singleton_self _, rfl, by decide⟩
  · rintro ⟨_, _, _, _, absent, _⟩
    cases absent

/-- With a sick handler behind it a running manager is healthy, and the endpoint
answers 200. -/
theorem sick_handler_answers_200 :
    (DefaultHttpJob.new.registerAll (.overwriting .exact)
        [.answering "users" "/users" 200 false] : DefaultHttpJob Unit Unit).healthCheck = false ∧
      (sickUsersManager []).status = .running ∧
      ((sickUsersManager []).health 0).isHealthy = true ∧
      (DefaultHealthHandler.answer ⟨sickUsersManager [], "/health"⟩
        ⟨.get, "/health", [], none⟩ 0).map HttpResponse.status = .ok 200 := by
  refine ⟨by decide, rfl, rfl, rfl⟩

end

end EdgeBootstrap
