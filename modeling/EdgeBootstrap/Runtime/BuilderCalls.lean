import EdgeBootstrap.Dispatch.GrpcReference
import EdgeBootstrap.Library.Overlays
import EdgeBootstrap.Library.Registrations
import EdgeBootstrap.Runtime.Stacks

/-! Chains of calls on a `RuntimeBuilder`. Most methods overwrite one field; the gRPC
interceptors are collected, and so are the routes, where a registration that is refused
panics. A chain is described field by field: the order of calls that do not touch the same
field does not matter. -/
namespace EdgeBootstrap
open Overlays Registrations

section
variable [Platform]

/-- The methods that overwrite one field with what they are given. -/
inductive Setting
  | config | appName | httpTls | grpcTls | httpBearerAuth | egressHttp | egressGrpc | lifecycle
  | httpHandler | grpcHandler | streamHandler | withTracing | withMessageBroker | withScheduler
  | withIntrusion | withMetricsProvider | withTracerProvider | withLogDrainBackend
  | withObserverContext
  deriving DecidableEq

/-- What such a method is given. -/
def Setting.Value (σ α : Type) : Setting → Type
  | .config => RuntimeConfig
  | .appName => String
  | .httpTls | .grpcTls => Platform.PemTlsConfig
  | .httpBearerAuth => Platform.TokenVerifier
  | .egressHttp | .egressGrpc | .withMessageBroker => Except String Unit
  | .lifecycle => LifecycleMonitor
  | .httpHandler => AppHttpIngress α
  | .grpcHandler => AppGrpcIngress α
  | .streamHandler => AppHttpStream α
  | .withTracing => Platform.TracingConfig
  | .withScheduler => Unit
  | .withIntrusion => Wired σ
  | .withMetricsProvider => MetricsProvider
  | .withTracerProvider => Platform.TracerProvider
  | .withLogDrainBackend => Platform.LoggerProvider
  | .withObserverContext => Platform.ObserverContext

/-- A call of a method of `RuntimeBuilder`. A route brings its codecs, so `http_route` and
`grpc_route` are the calls with the JSON ones. -/
inductive BuilderCall (σ α : Type)
  | set (setting : Setting) (value : setting.Value σ α)
  | grpcAuth (interceptor : Platform.GrpcInterceptor)
  | grpcAllowUnauthenticated
  | httpRouteWith (route : HttpRoute α)
  | grpcRouteWith (route : GrpcRoute α)

variable {σ α : Type}

namespace RuntimeBuilder

/-- The methods that overwrite a field. -/
def set (self : RuntimeBuilder σ α) : (setting : Setting) → setting.Value σ α → RuntimeBuilder σ α
  | .config, config => { self with config := some config }
  | .appName, name => { self with appName := some name }
  | .httpTls, config => { self with httpTls := some config }
  | .grpcTls, config => { self with grpcTls := some config }
  | .httpBearerAuth, verifier => { self with httpBearerVerifier := some verifier }
  | .egressHttp, client => { self with egressHttp := some client }
  | .egressGrpc, client => { self with egressGrpc := some client }
  | .lifecycle, monitor => { self with lifecycle := some monitor }
  | .httpHandler, handler => { self with httpHandler := some handler }
  | .grpcHandler, handler => { self with grpcHandler := some handler }
  | .streamHandler, handler => { self with streamHandler := some handler }
  | .withTracing, config => { self with tracingConfig := some config }
  | .withMessageBroker, broker => { self with messageBroker := some broker }
  | .withScheduler, job => { self with scheduler := some job }
  | .withIntrusion, wired => { self with intrusion := some wired }
  | .withMetricsProvider, provider => { self with metricsProvider := some provider }
  | .withTracerProvider, provider => { self with tracerProvider := some provider }
  | .withLogDrainBackend, backend => { self with logDrainBackend := some backend }
  | .withObserverContext, observer => { self with observerContextOverride := some observer }

/-- The field that a method overwrites. -/
def get (self : RuntimeBuilder σ α) : (setting : Setting) → Option (setting.Value σ α)
  | .config => self.config
  | .appName => self.appName
  | .httpTls => self.httpTls
  | .grpcTls => self.grpcTls
  | .httpBearerAuth => self.httpBearerVerifier
  | .egressHttp => self.egressHttp
  | .egressGrpc => self.egressGrpc
  | .lifecycle => self.lifecycle
  | .httpHandler => self.httpHandler
  | .grpcHandler => self.grpcHandler
  | .streamHandler => self.streamHandler
  | .withTracing => self.tracingConfig
  | .withMessageBroker => self.messageBroker
  | .withScheduler => self.scheduler
  | .withIntrusion => self.intrusion
  | .withMetricsProvider => self.metricsProvider
  | .withTracerProvider => self.tracerProvider
  | .withLogDrainBackend => self.logDrainBackend
  | .withObserverContext => self.observerContextOverride

/-- A call on a builder; nothing when it panics. -/
def call (host : Host σ α) (self : RuntimeBuilder σ α) : BuilderCall σ α → Option (RuntimeBuilder σ α)
  | .set setting value => some (self.set setting value)
  | .grpcAuth interceptor =>
    some { self with grpcInterceptors := self.grpcInterceptors ++ [interceptor] }
  | .grpcAllowUnauthenticated => some { self with grpcAllowUnauthenticated := true }
  | .httpRouteWith route => self.httpRouteWith host.httpJob route
  | .grpcRouteWith route => self.grpcRouteWith host.grpcRegistry route

/-- `Runtime::builder()` and a chain of calls. -/
def chain (host : Host σ α) (calls : List (BuilderCall σ α)) : Option (RuntimeBuilder σ α) :=
  calls.foldlM (call host) {}

variable (self : RuntimeBuilder σ α) (setting other : Setting) (value : setting.Value σ α)

@[simp] theorem get_set_self : (self.set setting value).get setting = some value := by
  cases setting <;> rfl

theorem get_set_of_ne (different : setting ≠ other) :
    (self.set setting value).get other = self.get other := by
  cases setting <;> cases other <;> first | rfl | exact absurd rfl different

@[simp] theorem grpcInterceptors_set :
    (self.set setting value).grpcInterceptors = self.grpcInterceptors := by
  cases setting <;> rfl

@[simp] theorem grpcAllowUnauthenticated_set :
    (self.set setting value).grpcAllowUnauthenticated = self.grpcAllowUnauthenticated := by
  cases setting <;> rfl

@[simp] theorem httpJob_set : (self.set setting value).httpJob = self.httpJob := by
  cases setting <;> rfl

@[simp] theorem grpcJob_set : (self.set setting value).grpcJob = self.grpcJob := by
  cases setting <;> rfl

variable {self} in
/-- A builder is its settings and what it has collected. -/
theorem eq_of_get {self' : RuntimeBuilder σ α} (settings : ∀ k, self.get k = self'.get k)
    (interceptors : self.grpcInterceptors = self'.grpcInterceptors)
    (unauthenticated : self.grpcAllowUnauthenticated = self'.grpcAllowUnauthenticated)
    (http : self.httpJob = self'.httpJob) (grpc : self.grpcJob = self'.grpcJob) : self = self' := by
  have config := settings .config
  have appName := settings .appName
  have httpTls := settings .httpTls
  have grpcTls := settings .grpcTls
  have bearer := settings .httpBearerAuth
  have egressHttp := settings .egressHttp
  have egressGrpc := settings .egressGrpc
  have lifecycle := settings .lifecycle
  have httpHandler := settings .httpHandler
  have grpcHandler := settings .grpcHandler
  have stream := settings .streamHandler
  have tracing := settings .withTracing
  have broker := settings .withMessageBroker
  have scheduler := settings .withScheduler
  have intrusion := settings .withIntrusion
  have metrics := settings .withMetricsProvider
  have tracer := settings .withTracerProvider
  have log := settings .withLogDrainBackend
  have observer := settings .withObserverContext
  cases self
  cases self'
  simp_all only [get]

end RuntimeBuilder

namespace BuilderCall

/-- What the call sets a setting to, if it does. -/
def value (setting : Setting) : BuilderCall σ α → Option (setting.Value σ α)
  | .set own value => if same : own = setting then some (same ▸ value) else none
  | _ => none

def interceptor : BuilderCall σ α → Option Platform.GrpcInterceptor
  | .grpcAuth interceptor => some interceptor
  | _ => none

def httpRoute : BuilderCall σ α → Option (HttpRoute α)
  | .httpRouteWith route => some route
  | _ => none

def grpcRoute : BuilderCall σ α → Option (GrpcRoute α)
  | .grpcRouteWith route => some route
  | _ => none

@[simp] theorem value_set_self (setting : Setting) (v : setting.Value σ α) :
    (BuilderCall.set setting v).value setting = some v := by
  simp [value]

theorem value_set_of_ne {setting other : Setting} (different : setting ≠ other)
    (v : setting.Value σ α) : (BuilderCall.set setting v).value other = none := by
  simp [value, different]

end BuilderCall

namespace RuntimeBuilder
variable (host : Host σ α)

/-- What the chain registers on an HTTP job. -/
def httpRoutes (calls : List (BuilderCall σ α)) : List (HttpRoute α) := calls.filterMap (·.httpRoute)

/-- What the chain registers on a gRPC job. -/
def grpcRoutes (calls : List (BuilderCall σ α)) : List (GrpcRoute α) := calls.filterMap (·.grpcRoute)

/-- No registration of the chain panics. -/
structure Accepts (calls : List (BuilderCall σ α)) : Prop where
  http : AllAccepted (DefaultHttpJob.registerRoute host.httpJob) DefaultHttpJob.new (httpRoutes calls)
  grpc : AllAccepted (DefaultGrpcJob.registerRoute host.grpcRegistry) DefaultGrpcJob.new
    (grpcRoutes calls)

/-- What a chain leaves in each field. -/
structure Describes (calls : List (BuilderCall σ α)) (builder : RuntimeBuilder σ α) : Prop where
  settings : ∀ setting, builder.get setting = lastSet (BuilderCall.value setting) calls
  interceptors : builder.grpcInterceptors = calls.filterMap (·.interceptor)
  unauthenticated : builder.grpcAllowUnauthenticated = true ↔ .grpcAllowUnauthenticated ∈ calls
  http : builder.httpJob =
    collected (DefaultHttpJob.registerRoute host.httpJob) DefaultHttpJob.new (httpRoutes calls)
  grpc : builder.grpcJob =
    collected (DefaultGrpcJob.registerRoute host.grpcRegistry) DefaultGrpcJob.new (grpcRoutes calls)

variable {host} {calls : List (BuilderCall σ α)} {c : BuilderCall σ α}
  {self self' : RuntimeBuilder σ α}

@[simp] theorem httpRoutes_snoc : httpRoutes (calls ++ [c]) = httpRoutes calls ++ c.httpRoute.toList := by
  cases c <;> simp [httpRoutes, BuilderCall.httpRoute]

@[simp] theorem grpcRoutes_snoc : grpcRoutes (calls ++ [c]) = grpcRoutes calls ++ c.grpcRoute.toList := by
  cases c <;> simp [grpcRoutes, BuilderCall.grpcRoute]

theorem chain_snoc : chain host (calls ++ [c]) = (chain host calls).bind fun self => self.call host c := by
  simp [chain, List.foldlM_append]

/-- A description leaves one builder. -/
theorem Describes.unique (one : Describes host calls self) (other : Describes host calls self') :
    self = self' := by
  refine eq_of_get (fun k => ?_) ?_ ?_ ?_ ?_
  · rw [one.settings, other.settings]
  · rw [one.interceptors, other.interceptors]
  · rw [Bool.eq_iff_iff, one.unauthenticated, other.unauthenticated]
  · rw [one.http, other.http]
  · rw [one.grpc, other.grpc]

theorem describes_nil : Describes host ([] : List (BuilderCall σ α)) {} where
  settings setting := by cases setting <;> rfl
  interceptors := rfl
  unauthenticated := by simp
  http := rfl
  grpc := rfl

/-- The registrations of a chain with one more call. -/
theorem accepts_snoc : Accepts host (calls ++ [c]) ↔ Accepts host calls ∧
    (∀ route, c.httpRoute = some route → (DefaultHttpJob.registerRoute host.httpJob
      (after (DefaultHttpJob.registerRoute host.httpJob) .new (httpRoutes calls)) route).1 = .ok ()) ∧
    ∀ route, c.grpcRoute = some route → (DefaultGrpcJob.registerRoute host.grpcRegistry
      (after (DefaultGrpcJob.registerRoute host.grpcRegistry) .new (grpcRoutes calls)) route).1 = .ok () := by
  have parts : ∀ more : List (BuilderCall σ α), Accepts host more ↔
      AllAccepted (DefaultHttpJob.registerRoute host.httpJob) DefaultHttpJob.new (httpRoutes more) ∧
        AllAccepted (DefaultGrpcJob.registerRoute host.grpcRegistry) DefaultGrpcJob.new
          (grpcRoutes more) :=
    fun _ => ⟨fun accepts => ⟨accepts.http, accepts.grpc⟩, fun both => ⟨both.1, both.2⟩⟩
  rw [parts, parts, httpRoutes_snoc, grpcRoutes_snoc, allAccepted_append_toList,
    allAccepted_append_toList, and_and_and_comm]

/-- A registration panics exactly when it is refused, and otherwise leaves its job. -/
theorem httpRouteWith_eq_some {deps : HttpJobDeps σ α} {route : HttpRoute α} :
    self.httpRouteWith deps route = some self' ↔
      ((self.httpJob.getD .new).registerRoute deps route).1 = .ok () ∧
        self' = { self with httpJob := some ((self.httpJob.getD .new).registerRoute deps route).2 } := by
  unfold httpRouteWith
  rcases (self.httpJob.getD .new).registerRoute deps route with ⟨result, job⟩
  cases result with
  | error e => simp
  | ok done => simp [eq_comm]

theorem grpcRouteWith_eq_some {behaviour : RegistryBehaviour (GrpcPipeline σ α)} {route : GrpcRoute α} :
    self.grpcRouteWith behaviour route = some self' ↔
      ((self.grpcJob.getD .new).registerRoute behaviour route).1 = .ok () ∧
        self' = { self with
          grpcJob := some ((self.grpcJob.getD .new).registerRoute behaviour route).2 } := by
  unfold grpcRouteWith
  rcases (self.grpcJob.getD .new).registerRoute behaviour route with ⟨result, job⟩
  cases result with
  | error e => simp
  | ok done => simp [eq_comm]

theorem Describes.httpJob (describes : Describes host calls self) : self.httpJob.getD .new =
    after (DefaultHttpJob.registerRoute host.httpJob) .new (httpRoutes calls) := by
  rw [describes.http, getD_collected]

theorem Describes.grpcJob (describes : Describes host calls self) : self.grpcJob.getD .new =
    after (DefaultGrpcJob.registerRoute host.grpcRegistry) .new (grpcRoutes calls) := by
  rw [describes.grpc, getD_collected]

/-- What is set stays set until the same method sets it again. -/
theorem Describes.get_snoc (describes : Describes host calls self) (setting : Setting)
    (silent : c.value setting = none) :
    self.get setting = lastSet (BuilderCall.value setting) (calls ++ [c]) := by
  simp [lastSet_append, silent, describes.settings]

/-- A call whose registrations are accepted adds itself to what the chain leaves. -/
theorem Describes.call (describes : Describes host calls self) (accepts : Accepts host (calls ++ [c])) :
    ∃ next, self.call host c = some next ∧ Describes host (calls ++ [c]) next := by
  obtain ⟨_, ownHttp, ownGrpc⟩ := accepts_snoc.mp accepts
  cases c with
  | set own value =>
    refine ⟨_, rfl, fun setting => ?_, ?_, ?_, ?_, ?_⟩
    · by_cases same : own = setting
      · subst same
        simp [lastSet_append]
      · rw [get_set_of_ne _ _ _ _ same]
        exact describes.get_snoc setting (BuilderCall.value_set_of_ne same value)
    · simp [describes.interceptors, BuilderCall.interceptor]
    · simp [describes.unauthenticated]
    · simp [describes.http, BuilderCall.httpRoute]
    · simp [describes.grpc, BuilderCall.grpcRoute]
  | grpcAuth interceptor =>
    refine ⟨_, rfl, fun setting => describes.get_snoc setting rfl, ?_, ?_, ?_, ?_⟩
    · simp [describes.interceptors, BuilderCall.interceptor]
    · simp [describes.unauthenticated]
    · simp [describes.http, BuilderCall.httpRoute]
    · simp [describes.grpc, BuilderCall.grpcRoute]
  | grpcAllowUnauthenticated =>
    refine ⟨_, rfl, fun setting => describes.get_snoc setting rfl, ?_, ?_, ?_, ?_⟩
    · simp [describes.interceptors, BuilderCall.interceptor]
    · simp
    · simp [describes.http, BuilderCall.httpRoute]
    · simp [describes.grpc, BuilderCall.grpcRoute]
  | httpRouteWith route =>
    refine ⟨_, httpRouteWith_eq_some.mpr ⟨describes.httpJob ▸ ownHttp route rfl, rfl⟩,
      fun setting => describes.get_snoc setting rfl, ?_, ?_, ?_, ?_⟩
    · simp [describes.interceptors, BuilderCall.interceptor]
    · simp [describes.unauthenticated]
    · simp [describes.httpJob, BuilderCall.httpRoute]
    · simp [describes.grpc, BuilderCall.grpcRoute]
  | grpcRouteWith route =>
    refine ⟨_, grpcRouteWith_eq_some.mpr ⟨describes.grpcJob ▸ ownGrpc route rfl, rfl⟩,
      fun setting => describes.get_snoc setting rfl, ?_, ?_, ?_, ?_⟩
    · simp [describes.interceptors, BuilderCall.interceptor]
    · simp [describes.unauthenticated]
    · simp [describes.http, BuilderCall.httpRoute]
    · simp [describes.grpcJob, BuilderCall.grpcRoute]

/-- A call that does not panic has had its registrations accepted. -/
theorem Describes.accepts_call (describes : Describes host calls self) (accepts : Accepts host calls)
    (called : self.call host c = some self') : Accepts host (calls ++ [c]) := by
  refine accepts_snoc.mpr ⟨accepts, fun route added => ?_, fun route added => ?_⟩
  · cases c with
    | httpRouteWith own =>
      cases added
      rw [← describes.httpJob]
      exact (httpRouteWith_eq_some.mp called).1
    | set _ _ | grpcAuth _ | grpcAllowUnauthenticated | grpcRouteWith _ => cases added
  · cases c with
    | grpcRouteWith own =>
      cases added
      rw [← describes.grpcJob]
      exact (grpcRouteWith_eq_some.mp called).1
    | set _ _ | grpcAuth _ | grpcAllowUnauthenticated | httpRouteWith _ => cases added

/-- A chain that does not panic leaves what describes it, and one whose registrations are
accepted does not panic. -/
theorem chain_spec (host : Host σ α) (calls : List (BuilderCall σ α)) :
    (∀ builder, chain host calls = some builder → Accepts host calls ∧ Describes host calls builder) ∧
      (Accepts host calls → ∃ builder, chain host calls = some builder) := by
  induction calls using List.reverseRecOn with
  | nil =>
    refine ⟨fun builder started => ?_, fun _ => ⟨{}, rfl⟩⟩
    cases started
    exact ⟨⟨allAccepted_nil, allAccepted_nil⟩, describes_nil⟩
  | append_singleton calls c ih =>
    obtain ⟨left, completes⟩ := ih
    rw [chain_snoc]
    constructor
    · intro builder chained
      obtain ⟨before, ran, called⟩ := Option.bind_eq_some_iff.mp chained
      obtain ⟨accepts, describes⟩ := left before ran
      have all := describes.accepts_call accepts called
      obtain ⟨next, same, described⟩ := describes.call all
      cases same.symm.trans called
      exact ⟨all, described⟩
    · intro accepts
      obtain ⟨before, ran⟩ := completes (accepts_snoc.mp accepts).1
      obtain ⟨next, called, _⟩ := (left before ran).2.call accepts
      exact ⟨next, by rw [ran, Option.bind_some, called]⟩

theorem chain_eq_some_iff :
    chain host calls = some self ↔ Accepts host calls ∧ Describes host calls self := by
  obtain ⟨left, completes⟩ := chain_spec host calls
  constructor
  · exact left self
  · rintro ⟨accepts, describes⟩
    obtain ⟨built, ran⟩ := completes accepts
    rw [ran, (left built ran).2.unique describes]

/-- Jobs that a chain leaves were filled by registrations. -/
theorem Describes.registered (describes : Describes host calls self) : self.Registered where
  http job held := by
    rw [describes.http] at held
    unfold collected at held
    split at held
    · cases held
    · exact ⟨host.httpJob, httpRoutes calls, (Option.some.inj held).symm⟩
  grpc job held := by
    rw [describes.grpc] at held
    unfold collected at held
    split at held
    · cases held
    · exact ⟨host.grpcRegistry, grpcRoutes calls, (Option.some.inj held).symm⟩

/-- The chains do the same to each field: the last value of each setting, the interceptors
in order, and the routes of each transport in order. -/
structure SameFields (calls calls' : List (BuilderCall σ α)) : Prop where
  settings : ∀ setting, lastSet (BuilderCall.value setting) calls =
    lastSet (BuilderCall.value setting) calls'
  interceptors : calls.filterMap (·.interceptor) = calls'.filterMap (·.interceptor)
  unauthenticated : .grpcAllowUnauthenticated ∈ calls ↔ .grpcAllowUnauthenticated ∈ calls'
  http : httpRoutes calls = httpRoutes calls'
  grpc : grpcRoutes calls = grpcRoutes calls'

/-- Handlers that each give an id of their own, and a pattern. -/
structure OwnIds (routes : List (GrpcRoute α)) : Prop where
  named : ∀ route ∈ routes, ∃ id, route.Named id
  distinct : routes.Pairwise fun one other => ∀ id, one.Named id → ¬ other.Named id

theorem firstClaim_none_iff {routes : List (GrpcRoute α)} {id : String} :
    firstClaim id routes = none ↔ ∀ route ∈ routes, ¬ route.Named id := by
  simp only [firstClaim, List.find?_eq_none, DefaultGrpcJob.claims_iff]

/-- One more handler has an id of its own when no handler before it has it. -/
theorem ownIds_snoc {routes : List (GrpcRoute α)} {route : GrpcRoute α} :
    OwnIds (routes ++ [route]) ↔
      OwnIds routes ∧ ∃ id, route.Named id ∧ firstClaim id routes = none := by
  constructor
  · rintro ⟨named, distinct⟩
    obtain ⟨before, _, apart⟩ := List.pairwise_append.mp distinct
    obtain ⟨id, own⟩ := named route (by simp)
    refine ⟨⟨fun r member => named r (by simp [member]), before⟩, id, own, ?_⟩
    rw [firstClaim_none_iff]
    exact fun r member claims => apart r member route (by simp) id claims own
  · rintro ⟨⟨named, distinct⟩, id, own, free⟩
    rw [firstClaim_none_iff] at free
    constructor
    · intro r member
      rcases List.mem_append.mp member with earlier | last
      · exact named r earlier
      · exact ⟨id, List.mem_singleton.mp last ▸ own⟩
    · refine List.pairwise_append.mpr ⟨distinct, List.pairwise_singleton _ _, ?_⟩
      intro r member other last other_id claims again
      rw [List.mem_singleton.mp last] at again
      cases Except.ok.inj (own.1.symm.trans again.1)
      exact free r member claims

/-- A registry that never refuses accepts handlers with ids of their own, and no others. -/
theorem allAccepted_grpc_iff (routes : List (GrpcRoute α)) :
    AllAccepted (DefaultGrpcJob.registerRoute (.infallible : RegistryBehaviour (GrpcPipeline σ α)))
      DefaultGrpcJob.new routes ↔ OwnIds routes := by
  induction routes using List.reverseRecOn with
  | nil =>
    refine iff_of_true allAccepted_nil ⟨?_, List.Pairwise.nil⟩
    intro route member
    cases member
  | append_singleton routes route ih =>
    have last : (DefaultGrpcJob.registerRoute (.infallible : RegistryBehaviour (GrpcPipeline σ α))
        (after (DefaultGrpcJob.registerRoute .infallible) DefaultGrpcJob.new routes) route).1 = .ok () ↔
          ∃ id, route.Named id ∧ firstClaim id routes = none := DefaultGrpcJob.accepts_iff
    rw [allAccepted_snoc, ih, last, ownIds_snoc]

/-- With ids of their own, each handler is the first to claim its id. -/
theorem OwnIds.firstClaim {routes : List (GrpcRoute α)} (own : OwnIds routes) {route : GrpcRoute α}
    (member : route ∈ routes) {id : String} (named : route.Named id) :
    EdgeBootstrap.firstClaim id routes = some route := by
  obtain ⟨earlier, later, rfl⟩ := List.append_of_mem member
  have before := (List.pairwise_append.mp own.distinct).2.2
  refine List.find?_eq_some_iff_append.mpr ⟨DefaultGrpcJob.claims_iff.mpr named, earlier, later, rfl, ?_⟩
  intro r inside
  rw [Bool.not_eq_true', ← Bool.not_eq_true, DefaultGrpcJob.claims_iff]
  exact fun claims => before r inside route (by simp) id claims named

theorem SameFields.symm {calls' : List (BuilderCall σ α)} (same : SameFields calls calls') :
    SameFields calls' calls where
  settings setting := (same.settings setting).symm
  interceptors := same.interceptors.symm
  unauthenticated := same.unauthenticated.symm
  http := same.http.symm
  grpc := same.grpc.symm

/-- What describes a chain describes those that do the same to each field. -/
theorem SameFields.describes {calls' : List (BuilderCall σ α)} (same : SameFields calls calls')
    (described : Accepts host calls ∧ Describes host calls self) :
    Accepts host calls' ∧ Describes host calls' self := by
  obtain ⟨settings, interceptors, unauthenticated, http, grpc⟩ := same
  obtain ⟨accepts, describes⟩ := described
  refine ⟨⟨http ▸ accepts.http, grpc ▸ accepts.grpc⟩, fun setting => ?_, ?_, ?_, ?_, ?_⟩
  · rw [describes.settings, settings]
  · rw [describes.interceptors, interceptors]
  · rw [describes.unauthenticated, unauthenticated]
  · rw [describes.http, http]
  · rw [describes.grpc, grpc]

/-- A chain of calls leaves a builder exactly when no registration in it is refused, and
then the one described: each setting as the last call set it, and what is collected in
order. So chains that do the same to each field are the same; and on registries that never
refuse the gRPC routes are those of handlers with ids of their own, each of which is called
by its id. -/
theorem chain_iff (host : Host σ α) (calls : List (BuilderCall σ α)) :
    (∀ builder, chain host calls = some builder ↔ Accepts host calls ∧ Describes host calls builder) ∧
      ((∃ builder, chain host calls = some builder) ↔ Accepts host calls) ∧
      (∀ builder, chain host calls = some builder → builder.Registered) ∧
      (∀ calls', SameFields calls calls' → chain host calls = chain host calls') ∧
      (host.grpcRegistry = .infallible →
        (Accepts host calls ↔ AllAccepted (DefaultHttpJob.registerRoute host.httpJob)
          DefaultHttpJob.new (httpRoutes calls) ∧ OwnIds (grpcRoutes calls)) ∧
          ∀ builder job, chain host calls = some builder → builder.grpcJob = some job →
            ∀ req ctx route, route ∈ grpcRoutes calls → route.Named req.method →
              route.Answers req.method req ctx (job.run .infallible req ctx)) := by
  refine ⟨fun _ => chain_eq_some_iff, ?_, fun _ ran => (chain_eq_some_iff.mp ran).2.registered, ?_, ?_⟩
  · refine ⟨?_, (chain_spec host calls).2⟩
    rintro ⟨builder, ran⟩
    exact (chain_eq_some_iff.mp ran).1
  · intro calls' same
    refine Option.ext fun builder => ?_
    rw [chain_eq_some_iff, chain_eq_some_iff]
    exact ⟨same.describes, same.symm.describes⟩
  · intro infallible
    have parts : Accepts host calls ↔ AllAccepted (DefaultHttpJob.registerRoute host.httpJob)
        DefaultHttpJob.new (httpRoutes calls) ∧ OwnIds (grpcRoutes calls) := by
      rw [← allAccepted_grpc_iff (σ := σ), ← infallible]
      exact ⟨fun accepts => ⟨accepts.http, accepts.grpc⟩, fun both => ⟨both.1, both.2⟩⟩
    refine ⟨parts, fun builder job ran held req ctx route member named => ?_⟩
    obtain ⟨accepts, describes⟩ := chain_eq_some_iff.mp ran
    have first := (parts.mp accepts).2.firstClaim member named
    have filled := describes.grpcJob
    rw [held, Option.getD_some, infallible] at filled
    have registry : job.registry[req.method]? = some (route.pipeline σ req.method) := by
      rw [filled]
      exact (DefaultGrpcJob.registry_eq σ _ req.method).trans (by rw [first]; rfl)
    rw [DefaultGrpcJob.run_infallible, registry]
    exact GrpcRoute.bridged_answers named.1 req ctx

end RuntimeBuilder

end

end EdgeBootstrap
