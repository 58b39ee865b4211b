import EdgeBootstrap.Dispatch.Handler

/-! `DefaultGrpcJob`: as the HTTP job, but a call is routed by its method, which
is the id itself, and an id already registered is refused; and `GrpcIngressJob`,
which puts the job behind `GrpcIngress`. -/
namespace EdgeBootstrap

variable [Platform]

/-- The arguments of `register_route`. -/
structure GrpcRoute (α : Type) where
  {Req Resp : Type}
  handler : Handler α Req Resp
  decode : List UInt8 → Except GrpcIngressError Req
  encode : Resp → List UInt8

abbrev GrpcPipeline (σ α : Type) := Pipeline σ α (List UInt8) (List UInt8)

/-- `BridgedGrpcHandler`. -/
def GrpcRoute.bridged (σ : Type) {α : Type} (route : GrpcRoute α) :
    ErasedHandler σ α (List UInt8) (List UInt8) where
  execute body ctx :=
    match route.decode body with
    | .error e => pure (.error (.invalidRequest (Platform.grpcErrorText e)))
    | .ok typed => (·.map route.encode) <$> route.handler.enter typed ctx
  healthCheck := route.handler.healthCheck

structure DefaultGrpcJob (σ α : Type) where
  registry : Std.ExtTreeMap String (GrpcPipeline σ α)
  healthHandlers : Std.ExtTreeMap String (ErasedHandler σ α (List UInt8) (List UInt8))

/-- The checks `register_route` makes of the handler's names. -/
def GrpcRoute.names {α : Type} (route : GrpcRoute α) :
    Except JobRegistrationError (String × String) :=
  route.handler.names "Handler::id() must not be empty — gRPC routes on id"
    ("Handler::pattern() must not be empty — even though gRPC doesn't route on it, " ++
      "HTTP does, and this handler would silently fail to route if registered there " ++
      "too")

/-- The pipeline a route is registered as; its pattern is its id. -/
def GrpcRoute.pipeline (σ : Type) {α : Type} (route : GrpcRoute α) (id : String) :
    GrpcPipeline σ α := ⟨id, id, route.bridged σ⟩

@[simp] theorem GrpcRoute.pipeline_id {σ α : Type} (route : GrpcRoute α) (id : String) :
    (route.pipeline σ id).id = id := rfl

namespace DefaultGrpcJob

variable {σ α : Type} (behaviour : RegistryBehaviour (GrpcPipeline σ α)) (job : DefaultGrpcJob σ α)

def new : DefaultGrpcJob σ α := ⟨∅, ∅⟩

/-- Whether a lookup of the id succeeds and finds something. -/
def isRegistered (id : String) : Bool :=
  match behaviour.get job.registry id with
  | .ok found => found.isSome
  | .error _ => false

/-- `DefaultGrpcJob::register_route`: what it returns, and the job it leaves. -/
def registerRoute (route : GrpcRoute α) : Except JobRegistrationError Unit × DefaultGrpcJob σ α :=
  match route.names with
  | .error e => (.error e, job)
  | .ok (id, _) =>
    if job.isRegistered behaviour id then
      (.error (.registrationFailed id "a route with this id is already registered"), job)
    else
      let job := { job with healthHandlers := job.healthHandlers.insert id (route.bridged σ) }
      match behaviour.register job.registry (route.pipeline σ id) with
      | .error e => (.error (.handlerRejected (Platform.handlerErrorText e)), job)
      | .ok registry => (.ok (), { job with registry })

section Outcomes
variable {behaviour job} {route : GrpcRoute α} {id pattern : String}

/-- The job with the health entry of a route. -/
def withHealth (job : DefaultGrpcJob σ α) (route : GrpcRoute α) (id : String) : DefaultGrpcJob σ α :=
  { job with healthHandlers := job.healthHandlers.insert id (route.bridged σ) }

theorem registerRoute_of_unnamed {e : JobRegistrationError} (unnamed : route.names = .error e) :
    registerRoute behaviour job route = (.error e, job) := by
  simp [registerRoute, unnamed]

theorem registerRoute_of_registered (named : route.names = .ok (id, pattern))
    (registered : job.isRegistered behaviour id = true) :
    registerRoute behaviour job route =
      (.error (.registrationFailed id "a route with this id is already registered"), job) := by
  simp [registerRoute, named, registered]

theorem registerRoute_of_rejected {e : HandlerError} (named : route.names = .ok (id, pattern))
    (free : job.isRegistered behaviour id = false)
    (rejects : behaviour.registerError job.registry (route.pipeline σ id) = some e) :
    registerRoute behaviour job route =
      (.error (.handlerRejected (Platform.handlerErrorText e)), job.withHealth route id) := by
  simp [registerRoute, named, free, RegistryBehaviour.register, rejects, withHealth]

theorem registerRoute_of_accepted (named : route.names = .ok (id, pattern))
    (free : job.isRegistered behaviour id = false)
    (accepts : behaviour.registerError job.registry (route.pipeline σ id) = none) :
    registerRoute behaviour job route =
      (.ok (), { job.withHealth route id with
        registry := job.registry.insert id (route.pipeline σ id) }) := by
  simp [registerRoute, named, free, RegistryBehaviour.register, accepts, withHealth]

/-- What a registration that returned `Ok` stored. -/
theorem stored_of_accepted (accepted : (registerRoute behaviour job route).1 = .ok ()) :
    ∃ id pattern, route.names = .ok (id, pattern) ∧
      (registerRoute behaviour job route).2 = { job.withHealth route id with
        registry := job.registry.insert id (route.pipeline σ id) } := by
  cases named : route.names with
  | error e =>
    rw [registerRoute_of_unnamed named] at accepted
    cases accepted
  | ok names =>
    obtain ⟨id, pattern⟩ := names
    cases registered : job.isRegistered behaviour id with
    | true =>
      rw [registerRoute_of_registered named registered] at accepted
      cases accepted
    | false =>
      cases accepts : behaviour.registerError job.registry (route.pipeline σ id) with
      | some e =>
        rw [registerRoute_of_rejected named registered accepts] at accepted
        cases accepted
      | none =>
        exact ⟨id, pattern, rfl, by rw [registerRoute_of_accepted named registered accepts]⟩

end Outcomes

/-- The job after a sequence of registrations, whatever they returned. -/
def registerAll (routes : List (GrpcRoute α)) : DefaultGrpcJob σ α :=
  routes.foldl (fun job route => (registerRoute behaviour job route).2) job

theorem registerAll_snoc (routes : List (GrpcRoute α)) (route : GrpcRoute α) :
    registerAll behaviour job (routes ++ [route]) =
      (registerRoute behaviour (registerAll behaviour job routes) route).2 := by
  simp [registerAll]

def healthCheck : Bool := allHealthy job.healthHandlers

/-- `Router::route`. -/
def route (method : String) : Except RoutingError String :=
  if job.isRegistered behaviour method then .ok method else .error .noMatch

/-- How the job answers with what a handler returned. -/
def answer : Except HandlerError (List UInt8) → Except JobError GrpcResponse
  | .error e => .error (.handler (Platform.handlerErrorText e))
  | .ok body => .ok ⟨body, Platform.defaultMetadata⟩

end DefaultGrpcJob

/-- The call comes to what the route's handler answers, between the route's decode and
encode. -/
def GrpcRoute.Answers {σ α : Type} (route : GrpcRoute α) (id : String) (req : GrpcRequest)
    (ctx : HandlerContext) (call : Exec σ α (Except JobError GrpcResponse)) : Prop :=
  route.handler.Answers id (route.decode req.body) Platform.grpcErrorText
    (fun resp => ⟨route.encode resp, Platform.defaultMetadata⟩) ctx call

/-- The bridge of a route answers as the route does. -/
theorem GrpcRoute.bridged_answers {σ α : Type} {route : GrpcRoute α} {id : String}
    (own : route.handler.id = .ok id) (req : GrpcRequest) (ctx : HandlerContext) :
    route.Answers id req ctx
      (DefaultGrpcJob.answer <$> (route.bridged σ).execute req.body ctx) := by
  refine Handler.answers_of_enter (fun result =>
    DefaultGrpcJob.answer (result.map route.encode)) own ?_ ?_ (fun _ => rfl) (fun _ => rfl)
  · intro e undecoded
    simp only [bridged, undecoded]
    rfl
  · intro typed decoded
    simp only [bridged, decoded, Functor.map_map]

namespace DefaultGrpcJob

variable {σ α : Type} (behaviour : RegistryBehaviour (GrpcPipeline σ α)) (job : DefaultGrpcJob σ α)

/-- `Job::run`. -/
def run (req : GrpcRequest) (ctx : HandlerContext) : Exec σ α (Except JobError GrpcResponse) :=
  match job.route behaviour req.method with
  | .error e => pure (.error (.routing e))
  | .ok id =>
    match behaviour.get job.registry id with
    | .error e => pure (.error (.handler (Platform.handlerErrorText e)))
    | .ok none => pure (.error (.handlerUnavailable id))
    | .ok (some pipeline) => answer <$> pipeline.execute req.body ctx

/-- The handler that `run` executes for a method, if it gets to one. -/
def executor (method : String) : Option (ErasedHandler σ α (List UInt8) (List UInt8)) :=
  match job.route behaviour method with
  | .error _ => none
  | .ok id =>
    match behaviour.get job.registry id with
    | .ok (some pipeline) => some pipeline.stage
    | _ => none

/-- `run` answers as the handler it executes. -/
theorem run_of_executor {behaviour : RegistryBehaviour (GrpcPipeline σ α)} {job : DefaultGrpcJob σ α}
    {req : GrpcRequest} {handler : ErasedHandler σ α (List UInt8) (List UInt8)}
    (executes : job.executor behaviour req.method = some handler) (ctx : HandlerContext) :
    job.run behaviour req ctx = answer <$> handler.execute req.body ctx := by
  unfold executor at executes
  unfold run
  cases routed : job.route behaviour req.method with
  | error e => simp [routed] at executes
  | ok id =>
    simp only [routed] at executes ⊢
    split at executes
    · rename_i pipeline found
      cases executes
      simp only [found]
      rfl
    · cases executes

/-- A registry that never refuses executes an accepted route for its id. -/
theorem executor_of_accepted {job : DefaultGrpcJob σ α} {route : GrpcRoute α} {id pattern : String}
    (named : route.names = .ok (id, pattern))
    (accepted : (job.registerRoute .infallible route).1 = .ok ()) :
    (job.registerRoute .infallible route).2.executor .infallible id = some (route.bridged σ) := by
  cases registered : job.isRegistered .infallible id with
  | true =>
    rw [registerRoute_of_registered named registered] at accepted
    cases accepted
  | false =>
    rw [registerRoute_of_accepted named registered rfl]
    simp [executor, DefaultGrpcJob.route, isRegistered, RegistryBehaviour.get,
      RegistryBehaviour.infallible, GrpcRoute.pipeline]

/-- A registry that never refuses executes what it has for the id. -/
theorem executor_infallible (job : DefaultGrpcJob σ α) (id : String) :
    job.executor .infallible id = (job.registry[id]?).map (·.stage) := by
  cases held : job.registry[id]? with
  | none =>
    simp [executor, DefaultGrpcJob.route, isRegistered, RegistryBehaviour.get,
      RegistryBehaviour.infallible, held]
  | some pipeline =>
    simp [executor, DefaultGrpcJob.route, isRegistered, RegistryBehaviour.get,
      RegistryBehaviour.infallible, held]

/-- `RouteLister::list_route_ids`: nothing when the registry does not answer. -/
def listRouteIds : List String :=
  match behaviour.listIds job.registry with
  | .ok ids => ids
  | .error _ => []

end DefaultGrpcJob

structure GrpcIngressJob (σ α : Type) where
  job : DefaultGrpcJob σ α
  observer : Platform.ObserverContext

namespace GrpcIngressJob

def mapJobError : JobError → GrpcIngressError
  | .handlerUnavailable m => .unimplemented m
  | .routing e => .unimplemented (Platform.routingErrorText e)
  | .handler m => .internal m
  | .cancelled => .unavailable "job cancelled"

/-- The `GrpcIngress` implementation; streams are left to the trait. -/
def ingress {σ α : Type} (behaviour : RegistryBehaviour (GrpcPipeline σ α))
    (self : GrpcIngressJob σ α) : GrpcIngress σ α where
  handleUnary req :=
    (·.mapError mapJobError) <$> self.job.run behaviour req.request ⟨req.ctx, self.observer⟩
  handleStream req := pure (Platform.defaultHandleStream req.method)
  healthCheck := .ok <|
    if self.job.healthCheck then ⟨true, none⟩
    else ⟨false, some "one or more registered handlers reported unhealthy"⟩

end GrpcIngressJob

end EdgeBootstrap
