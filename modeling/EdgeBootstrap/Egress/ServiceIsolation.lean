import EdgeBootstrap.Egress.ConcurrentCalls
import EdgeBootstrap.Library.Families

/-! The named service clients of one registry, used at the same time. They share
the default client they send with, and nothing else: each has the pool built from
its own entry of the configuration, so what happens to one service is decided by
that entry and by the calls on that service. -/
namespace EdgeBootstrap
open StepMachine LoadBalancedHttpEgress ConcurrentCalls

section

variable [Platform] {deps : EgressDeps} {inner : HttpEgress} {σ α : Type}

section Registered
variable {entries : List (String × ServiceEgressConfig)} {registry : ServiceRegistry deps}
  {name : String} {client : LoadBalancedHttpEgress deps}

theorem service_registerService (entry : String × ServiceEgressConfig) :
    (registerService deps inner registry entry).service name =
      if entry.1 = name then (serviceClient deps inner entry.2).or (registry.service name)
      else registry.service name := by
  cases made : serviceClient deps inner entry.2 with
  | none => simp [registerService, made]
  | some client =>
    simp [registerService, made, ServiceRegistry.service, ServiceRegistry.withService,
      Std.ExtTreeMap.getElem?_insert]

/-- A service whose every entry makes the same client is registered with it. -/
theorem registered_of_entries
    (agree : ∀ config, (name, config) ∈ entries → serviceClient deps inner config = some client)
    (named : registry.service name = some client ∨ ∃ config, (name, config) ∈ entries) :
    (entries.foldl (registerService deps inner) registry).service name = some client := by
  induction entries generalizing registry with
  | nil =>
    rcases named with held | ⟨_, none⟩
    · exact held
    · cases none
  | cons entry entries ih =>
    refine ih (fun config later => agree config (List.mem_cons_of_mem _ later)) ?_
    rw [service_registerService]
    by_cases same : entry.1 = name
    · subst same
      rw [if_pos rfl, agree entry.2 List.mem_cons_self]
      exact .inl rfl
    · rw [if_neg same]
      refine named.imp_right fun ⟨config, held⟩ => ⟨config, ?_⟩
      rcases List.mem_cons.mp held with rfl | later
      · exact absurd rfl same
      · exact later

end Registered

/-- The client of a service, by the entry the configuration has for it. -/
def configuredClient (deps : EgressDeps) (inner : HttpEgress) (builder : RuntimeBuilder σ α)
    (name : String) : Option (LoadBalancedHttpEgress deps) :=
  (builder.config.bind (·.services[name]?)).bind (serviceClient deps inner)

variable {builder : RuntimeBuilder σ α} {registry : ServiceRegistry deps} {name : String}

/-- A registry has the client of every configured service, and no other. -/
theorem service_buildRegistry (built : builder.buildRegistry deps inner = some registry)
    (name : String) : registry.service name = configuredClient deps inner builder name := by
  simp only [RuntimeBuilder.buildRegistry, Option.map_eq_some_iff] at built
  obtain ⟨defaultHttp, _, rfl⟩ := built
  unfold configuredClient
  cases builder.config with
  | none => simp [ServiceRegistry.service, ServiceRegistry.new]
  | some config =>
    ext client
    simp only [Option.bind_some, Option.bind_eq_some_iff]
    constructor
    · intro registered
      rcases registered_of_foldl registered with before | ⟨service, member, made⟩
      · simp [ServiceRegistry.service, ServiceRegistry.new] at before
      · exact ⟨service, Std.ExtTreeMap.mem_toList_iff_getElem?_eq_some.mp member, made⟩
    · rintro ⟨service, entry, made⟩
      refine registered_of_entries ?_ (.inr ⟨service, Std.ExtTreeMap.mem_toList_iff_getElem?_eq_some.mpr entry⟩)
      intro other member
      rw [Std.ExtTreeMap.mem_toList_iff_getElem?_eq_some, entry] at member
      cases member
      exact made

section Together
variable (deps)

/-- The clients of a registry, by service. -/
abbrev Clients : Type := Std.ExtTreeMap String (ConcurrentCalls.State deps)

variable {deps}

/-- A step of a call on the client of one service. -/
def stepOf (clients : Clients deps) (action : String × ConcurrentCalls.Action) :
    Option (Clients deps) :=
  clients[action.1]?.bind fun client =>
    (ConcurrentCalls.step client action.2).map fun client => clients.insert action.1 client

/-- Calls on the clients of a registry, their steps in any order. -/
def registryMachine (registry : ServiceRegistry deps) :
    StepMachine (Clients deps) (String × ConcurrentCalls.Action) where
  init := registry.services.map fun _ client => ⟨client.pool, [], []⟩
  step := stepOf

/-- The client a service may have, by itself. -/
def aloneMachine (client : Option (LoadBalancedHttpEgress deps)) :
    StepMachine (Option (ConcurrentCalls.State deps)) ConcurrentCalls.Action where
  init := client.map fun client => ⟨client.pool, [], []⟩
  step s a := (s.bind (ConcurrentCalls.step · a)).map some

theorem exec_alone_none {actions : List ConcurrentCalls.Action} {s : Option (ConcurrentCalls.State deps)} :
    (aloneMachine none).exec actions = some s ↔ actions = [] ∧ s = none := by
  cases actions with
  | nil => simp [aloneMachine, eq_comm]
  | cons a actions => simp [exec, aloneMachine]

theorem exec_alone_some {client : LoadBalancedHttpEgress deps} {actions : List ConcurrentCalls.Action}
    {s : Option (ConcurrentCalls.State deps)} : (aloneMachine (some client)).exec actions = some s ↔
      ∃ t, (machine client.pool).exec actions = some t ∧ s = some t := by
  have embedded := execFrom_embed (M := aloneMachine (some client)) (N := machine client.pool) some id
    (fun _ _ => rfl) (machine client.pool).init actions
  rw [List.map_id] at embedded
  rw [exec, show (aloneMachine (some client)).init = some (machine client.pool).init from rfl, embedded]
  simp [exec, eq_comm]

/-- A step on the clients of a registry is a step of the family of its services. -/
theorem family_step (registry : ServiceRegistry deps) (clients : Clients deps)
    (action : String × ConcurrentCalls.Action) :
    (family fun name => aloneMachine (registry.service name)).step (fun name => clients[name]?) action =
      ((registryMachine registry).step clients action).map fun clients name => clients[name]? := by
  obtain ⟨name, a⟩ := action
  cases held : clients[name]? with
  | none => simp [family, aloneMachine, registryMachine, stepOf, held]
  | some client =>
    cases stepped : ConcurrentCalls.step client a with
    | none => simp [family, aloneMachine, registryMachine, stepOf, held, stepped]
    | some client' =>
      simp only [family, aloneMachine, registryMachine, stepOf, held, stepped, Option.bind_some,
        Option.map_some, Option.some.injEq]
      funext other
      by_cases same : other = name
      · subst same
        simp
      · simp [Std.ExtTreeMap.getElem?_insert, Function.update_of_ne same, Ne.symm same]

/-- A run on the clients of a registry is a run of the family of its services. -/
theorem exec_registryMachine {registry : ServiceRegistry deps}
    {history : List (String × ConcurrentCalls.Action)} {clients : Clients deps} :
    (registryMachine registry).exec history = some clients ↔
      (family fun name => aloneMachine (registry.service name)).exec history =
        some fun name => clients[name]? := by
  have start : (fun name => (registryMachine registry).init[name]?) =
      (family fun name => aloneMachine (registry.service name)).init := by
    funext name
    simp [registryMachine, family, aloneMachine, ServiceRegistry.service]
  have embedded := execFrom_embed (M := family fun name => aloneMachine (registry.service name))
    (N := registryMachine registry) (fun clients name => clients[name]?) id
    (family_step registry) (registryMachine registry).init history
  rw [List.map_id, start] at embedded
  rw [exec, exec, embedded, Option.map_eq_some_iff]
  constructor
  · exact fun ran => ⟨clients, ran, rfl⟩
  · rintro ⟨clients', ran, same⟩
    rw [ran, Std.ExtTreeMap.ext_getElem? fun name => congrFun same name]

/-- What the calls on one service come to, given the client its configuration entry
makes: nothing of another service enters. -/
def ComesTo (client : Option (LoadBalancedHttpEgress deps)) (actions : List ConcurrentCalls.Action)
    (after : Option (ConcurrentCalls.State deps)) : Prop :=
  match client with
  | some client => ∃ s, (machine client.pool).exec actions = some s ∧ after = some s
  | none => actions = [] ∧ after = none

/-- The services of a registry are isolated. The calls on its clients, with their
steps in any order and dropped at any point, can go exactly as the calls on each
service alone can go on the client made from that service's own entry. So pool,
futures and reports of a service depend on that entry and on its own calls, and no
service can keep the calls on another from going on. -/
theorem services_isolated (builder : RuntimeBuilder σ α) (registry : ServiceRegistry deps)
    (built : builder.buildRegistry deps inner = some registry)
    (history : List (String × ConcurrentCalls.Action)) (clients : Clients deps) :
    (registryMachine registry).exec history = some clients ↔
      ∀ name, ComesTo (configuredClient deps inner builder name) (only name history) clients[name]? := by
  rw [exec_registryMachine, exec_family_iff]
  refine forall_congr' fun name => ?_
  rw [service_buildRegistry built name]
  cases configuredClient deps inner builder name with
  | none => exact exec_alone_none
  | some client => exact exec_alone_some

end Together

end

section Reference

attribute [local instance] Platform.pooled

private abbrev twoServiceUrls : EgressDeps :=
  .reference ["https://a.internal", "https://b.internal", "https://irrelevant.test"]

/-- Two services with a backend each, and one without. -/
private abbrev twoServices : RuntimeBuilder Unit Unit :=
  { egressHttp := some (.ok ())
    config := some
      { services := (((∅ : Std.ExtTreeMap String ServiceEgressConfig).insert "users"
          ⟨[⟨"https://a.internal", 1⟩]⟩).insert "orders" ⟨[⟨"https://b.internal", 1⟩]⟩).insert "idle" ⟨[]⟩ } }

private abbrev entwined : List (String × ConcurrentCalls.Action) :=
  [("users", .call (.send ⟨.get, "https://irrelevant.test", [], none⟩)),
    ("orders", .call (.send ⟨.get, "https://irrelevant.test", [], none⟩)),
    ("users", .poll 0), ("orders", .poll 0), ("users", .answer 0 (.sent (.ok (.new 503 [])))),
    ("orders", .drop 0)]

/-- One service loses its backend while the other's only call is dropped. -/
theorem services_isolated_entwined :
    ∃ registry clients, twoServices.buildRegistry twoServiceUrls (.answering 200 (.ok ())) = some registry ∧
      (registryMachine registry).exec entwined = some clients ∧
      ∀ name, ComesTo (configuredClient twoServiceUrls (.answering 200 (.ok ())) twoServices name)
        (only name entwined) clients[name]? := by
  obtain ⟨registry, clients, built, ran⟩ : ∃ registry clients,
      twoServices.buildRegistry twoServiceUrls (.answering 200 (.ok ())) = some registry ∧
      (registryMachine registry).exec entwined = some clients := ⟨_, _, rfl, rfl⟩
  exact ⟨registry, clients, built, ran, (services_isolated twoServices registry built entwined clients).mp ran⟩

end Reference

end EdgeBootstrap
