import EdgeBootstrap.Runtime.Manager

/-! `DefaultHealthHandler`: the health of the manager over HTTP. -/
namespace EdgeBootstrap

/-- The name a status serialises to. -/
def RuntimeStatus.name : RuntimeStatus → String
  | .starting => "starting"
  | .running => "running"
  | .stopping => "stopping"
  | .stopped => "stopped"
  | .degraded => "degraded"

/-- The derived `Serialize` of `ComponentHealth`. -/
def ComponentHealth.toJson (c : ComponentHealth) : Json :=
  .obj [("name", .str c.name), ("healthy", .bool c.healthy),
    ("detail", match c.detail with | some text => .str text | none => .null)]

/-- The derived `Serialize` of `RuntimeHealth`. -/
def RuntimeHealth.toJson (h : RuntimeHealth) : Json :=
  .obj [("status", .str h.status.name), ("components", .arr (h.components.map (·.toJson))),
    ("uptime_secs", .num h.uptimeSecs.toNat)]

variable [Platform] {σ α : Type}

structure DefaultHealthHandler (σ α : Type) where
  manager : DefaultRuntimeManager σ α
  path : String

namespace DefaultHealthHandler

/-- What `handle` answers at an instant. -/
def answer (self : DefaultHealthHandler σ α) (req : HttpRequest) (now : UInt64) :
    Except HttpIngressError HttpResponse :=
  if req.method ≠ .get then .error (.invalidInput "health endpoint only accepts GET")
  else if endpointPath req.url ≠ Rust.trimEndMatches '/' self.path then
    .error (.notFound ("not found: " ++ req.url))
  else
    let health := self.manager.health now
    let status := if health.isHealthy then 200 else 503
    .ok { HttpResponse.new status (Platform.jsonToVec health.toJson) with
      headers := [("content-type", "application/json")] }

/-- The `HttpIngress` implementation. -/
def ingress [Clock α] (self : DefaultHealthHandler σ α) : HttpIngress σ α where
  handle req := self.answer req.request <$> Exec.now
  healthCheck := .ok ⟨true, none⟩

/-- A `GET` on the handler's path is answered by the manager's health alone. -/
theorem answer_of_get (self : DefaultHealthHandler σ α) {req : HttpRequest} (now : UInt64)
    (method : req.method = .get) (path : endpointPath req.url = Rust.trimEndMatches '/' self.path) :
    (self.answer req now).map HttpResponse.status =
      .ok (if (self.manager.health now).isHealthy then 200 else 503) := by
  simp [answer, method, path, Except.map, HttpResponse.new]

end DefaultHealthHandler

end EdgeBootstrap
