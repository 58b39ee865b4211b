import EdgeBootstrap.Egress.Selections
import EdgeBootstrap.Runtime.Builder

/-! The registry of named service clients that `build_registry` makes, and how
long such a client keeps working. A client is only used through the `HttpEgress`
interface, which can take a backend out of rotation but never put one back. -/
namespace EdgeBootstrap
open StepMachine LoadBalancedHttpEgress

variable [Platform]

/-- `ServiceRegistry`. The default clients are what their health checks answer. -/
structure ServiceRegistry (deps : EgressDeps) where
  http : Except String Unit
  grpc : Option (Except String Unit)
  services : Std.ExtTreeMap String (LoadBalancedHttpEgress deps)

namespace ServiceRegistry

variable {deps : EgressDeps}

def new (http : Except String Unit) (grpc : Option (Except String Unit)) : ServiceRegistry deps :=
  ⟨http, grpc, ∅⟩

def withService (self : ServiceRegistry deps) (name : String) (client : LoadBalancedHttpEgress deps) :
    ServiceRegistry deps :=
  { self with services := self.services.insert name client }

def service (self : ServiceRegistry deps) (name : String) : Option (LoadBalancedHttpEgress deps) :=
  self.services[name]?

def serviceNames (self : ServiceRegistry deps) : List String := self.services.keys

end ServiceRegistry

section BuildRegistry
variable {σ α : Type} (deps : EgressDeps) (inner : HttpEgress)

/-- The client of one configured service; nothing when it has no backends or its
pool cannot be built. -/
def serviceClient (config : ServiceEgressConfig) : Option (LoadBalancedHttpEgress deps) :=
  if (deps.loadbalancer.backends config.loadbalancer).isEmpty then none
  else (LoadBalancedHttpEgress.new deps inner config.loadbalancer).toOption

/-- Register one configured service, if it has a client. -/
def registerService (registry : ServiceRegistry deps) (entry : String × ServiceEgressConfig) :
    ServiceRegistry deps :=
  match serviceClient deps inner entry.2 with
  | some client => registry.withService entry.1 client
  | none => registry

/-- `build_registry`, with the default client as `inner`. -/
def RuntimeBuilder.buildRegistry (self : RuntimeBuilder σ α) : Option (ServiceRegistry deps) :=
  self.egressHttp.map fun defaultHttp =>
    let registry : ServiceRegistry deps := .new defaultHttp self.egressGrpc
    match self.config with
    | some config => config.services.toList.foldl (registerService deps inner) registry
    | none => registry

variable {deps inner}

/-- A service client was registered for a service of the configuration. -/
theorem registered_of_foldl {entries : List (String × ServiceEgressConfig)}
    {registry : ServiceRegistry deps} {name : String} {client : LoadBalancedHttpEgress deps}
    (held : (entries.foldl (registerService deps inner) registry).service name = some client) :
    registry.service name = some client ∨
      ∃ config, (name, config) ∈ entries ∧ serviceClient deps inner config = some client := by
  induction entries generalizing registry with
  | nil => exact .inl held
  | cons entry entries ih =>
    obtain ⟨key, config⟩ := entry
    rcases ih held with before | ⟨config, later, made⟩
    · cases made : serviceClient deps inner config with
      | none =>
        simp only [registerService, made] at before
        exact .inl before
      | some added =>
        simp only [registerService, made, ServiceRegistry.service, ServiceRegistry.withService] at before
        by_cases same : key = name
        · subst same
          rw [Std.ExtTreeMap.getElem?_insert_self] at before
          exact .inr ⟨config, List.mem_cons_self, made.trans before⟩
        · rw [Std.ExtTreeMap.getElem?_insert, if_neg (by simpa using same)] at before
          exact .inl before
    · exact .inr ⟨config, List.mem_cons_of_mem _ later, made⟩

/-- A registered client is that of the service configured under its name. -/
theorem buildRegistry_service {self : RuntimeBuilder σ α} {registry : ServiceRegistry deps}
    {name : String} {client : LoadBalancedHttpEgress deps} {config : RuntimeConfig}
    {service : ServiceEgressConfig} (built : self.buildRegistry deps inner = some registry)
    (configured : self.config = some config) (entry : config.services[name]? = some service)
    (registered : registry.service name = some client) :
    serviceClient deps inner service = some client := by
  simp only [RuntimeBuilder.buildRegistry, configured, Option.map_eq_some_iff] at built
  obtain ⟨defaultHttp, _, rfl⟩ := built
  rcases registered_of_foldl registered with before | ⟨config', member, made⟩
  · simp [ServiceRegistry.service, ServiceRegistry.new] at before
  · rw [Std.ExtTreeMap.mem_toList_iff_getElem?_eq_some, entry] at member
    cases member
    exact made

/-- A service client has the pool that was built for its service. -/
theorem serviceClient_pool {config : ServiceEgressConfig} {client : LoadBalancedHttpEgress deps}
    (made : serviceClient deps inner config = some client) :
    deps.loadbalancer.buildPool config.loadbalancer = .ok client.pool := by
  unfold serviceClient LoadBalancedHttpEgress.new at made
  split at made
  · cases made
  · cases pool : deps.loadbalancer.buildPool config.loadbalancer with
    | error e =>
      rw [pool] at made
      cases made
    | ok pool' =>
      rw [pool] at made
      cases made
      rfl

end BuildRegistry

end EdgeBootstrap
