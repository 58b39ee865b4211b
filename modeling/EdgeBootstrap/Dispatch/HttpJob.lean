import EdgeBootstrap.Rust.Text
import EdgeBootstrap.Dispatch.Handler

/-! `DefaultHttpJob`: a path router to ids, a registry from ids to pipelines, and
the handlers kept for health, filled one after the other by `register_route`;
and `HttpIngressJob`, which puts the job behind `HttpIngress`. -/
namespace EdgeBootstrap

variable [Platform]

/-- `matchit::Router`: whether a pattern is refused, and which pattern a path
resolves to, given the patterns in it. A pattern already there is refused. -/
structure Matchit where
  insertError : List String → String → Option String
  resolve : List String → String → Option String
  insert_fresh : ∀ patterns p, insertError patterns p = none → p ∉ patterns
  resolve_mem : ∀ patterns path p, resolve patterns path = some p → p ∈ patterns

/-- The router of patterns without parameters: a path resolves to itself. -/
def Matchit.exact : Matchit where
  insertError patterns p := if p ∈ patterns then some "conflicts with a registered route" else none
  resolve patterns path := if path ∈ patterns then some path else none
  insert_fresh patterns p accepted := by
    intro held
    simp [held] at accepted
  resolve_mem patterns path p resolves := by
    split at resolves
    · cases resolves
      assumption
    · cases resolves

/-- The arguments of `register_route`. -/
structure HttpRoute (α : Type) where
  {Req Resp : Type}
  handler : Handler α Req Resp
  decode : HttpRequest → Except HttpIngressError Req
  encode : Resp → HttpResponse

/-- A route that answers every request with an empty body and the given status. -/
def HttpRoute.answering {α : Type} (id pattern : String) (status : Nat) (healthy : Bool) :
    HttpRoute α where
  Req := Unit
  Resp := Unit
  handler := ⟨.ok id, .ok pattern, fun _ _ app => (.ok (), app), .ok healthy⟩
  decode _ := .ok ()
  encode _ := .new status []

abbrev HttpPipeline (σ α : Type) := Pipeline σ α HttpRequest HttpResponse

/-- `BridgedHttpHandler`. -/
def HttpRoute.bridged (σ : Type) {α : Type} (route : HttpRoute α) :
    ErasedHandler σ α HttpRequest HttpResponse where
  execute req ctx :=
    match route.decode req with
    | .error e => pure (.error (.invalidRequest (Platform.httpErrorText e)))
    | .ok typed => (·.map route.encode) <$> route.handler.enter typed ctx
  healthCheck := route.handler.healthCheck

/-- `DefaultHttpJob`. The router lists its patterns with the ids stored for
them. -/
structure DefaultHttpJob (σ α : Type) where
  router : List (String × String)
  registry : Std.ExtTreeMap String (HttpPipeline σ α)
  healthHandlers : Std.ExtTreeMap String (ErasedHandler σ α HttpRequest HttpResponse)

/-- The crates a job is built on. -/
structure HttpJobDeps (σ α : Type) where
  registry : RegistryBehaviour (HttpPipeline σ α)
  matchit : Matchit

/-- The checks `register_route` makes before it stores anything. -/
def HttpRoute.names {α : Type} (route : HttpRoute α) :
    Except JobRegistrationError (String × String) :=
  route.handler.names "Handler::id() must not be empty"
    ("Handler::pattern() must not be empty — HTTP routes on pattern, not id; a " ++
      "Handler that only overrides id() compiles, works over gRPC, and would " ++
      "otherwise silently never match any HTTP request")

/-- The pipeline a route is registered as. -/
def HttpRoute.pipeline (σ : Type) {α : Type} (route : HttpRoute α) (id pattern : String) :
    HttpPipeline σ α := ⟨id, pattern, route.bridged σ⟩

@[simp] theorem HttpRoute.pipeline_id {σ α : Type} (route : HttpRoute α) (id pattern : String) :
    (route.pipeline σ id pattern).id = id := rfl

namespace DefaultHttpJob

variable {σ α : Type} (deps : HttpJobDeps σ α) (job : DefaultHttpJob σ α)

def new : DefaultHttpJob σ α := ⟨[], ∅, ∅⟩

/-- `DefaultHttpJob::register_route`: what it returns, and the job it leaves. -/
def registerRoute (route : HttpRoute α) : Except JobRegistrationError Unit × DefaultHttpJob σ α :=
  match route.names with
  | .error e => (.error e, job)
  | .ok (id, pattern) =>
    let job := { job with healthHandlers := job.healthHandlers.insert id (route.bridged σ) }
    match deps.registry.register job.registry (route.pipeline σ id pattern) with
    | .error e => (.error (.handlerRejected (Platform.handlerErrorText e)), job)
    | .ok registry =>
      let job := { job with registry }
      match deps.matchit.insertError (job.router.map Prod.fst) pattern with
      | some reason => (.error (.registrationFailed pattern reason), job)
      | none => (.ok (), { job with router := job.router ++ [(pattern, id)] })

section Outcomes
variable {deps job} {route : HttpRoute α} {id pattern : String}

/-- The job with the health entry of a route. -/
def withHealth (job : DefaultHttpJob σ α) (route : HttpRoute α) (id : String) : DefaultHttpJob σ α :=
  { job with healthHandlers := job.healthHandlers.insert id (route.bridged σ) }

/-- The job with the health entry and the pipeline of a route. -/
def withPipeline (job : DefaultHttpJob σ α) (route : HttpRoute α) (id pattern : String) :
    DefaultHttpJob σ α :=
  { job.withHealth route id with
    registry := job.registry.insert id (route.pipeline σ id pattern) }

theorem registerRoute_of_unnamed {e : JobRegistrationError} (unnamed : route.names = .error e) :
    registerRoute deps job route = (.error e, job) := by
  simp [registerRoute, unnamed]

theorem registerRoute_of_rejected {e : HandlerError} (named : route.names = .ok (id, pattern))
    (rejects : deps.registry.registerError job.registry (route.pipeline σ id pattern) = some e) :
    registerRoute deps job route =
      (.error (.handlerRejected (Platform.handlerErrorText e)), job.withHealth route id) := by
  simp [registerRoute, named, RegistryBehaviour.register, rejects, withHealth]

theorem registerRoute_of_conflict {reason : String} (named : route.names = .ok (id, pattern))
    (accepts : deps.registry.registerError job.registry (route.pipeline σ id pattern) = none)
    (conflicts : deps.matchit.insertError (job.router.map Prod.fst) pattern = some reason) :
    registerRoute deps job route =
      (.error (.registrationFailed pattern reason), job.withPipeline route id pattern) := by
  simp [registerRoute, named, RegistryBehaviour.register, accepts, conflicts, withHealth,
    withPipeline]

theorem registerRoute_of_accepted (named : route.names = .ok (id, pattern))
    (accepts : deps.registry.registerError job.registry (route.pipeline σ id pattern) = none)
    (fresh : deps.matchit.insertError (job.router.map Prod.fst) pattern = none) :
    registerRoute deps job route =
      (.ok (), { job.withPipeline route id pattern with
        router := job.router ++ [(pattern, id)] }) := by
  simp [registerRoute, named, RegistryBehaviour.register, accepts, fresh, withHealth, withPipeline]

/-- What a registration that returned `Ok` stored. -/
theorem stored_of_accepted (accepted : (registerRoute deps job route).1 = .ok ()) :
    ∃ id pattern, route.names = .ok (id, pattern) ∧
      deps.matchit.insertError (job.router.map Prod.fst) pattern = none ∧
      (registerRoute deps job route).2 = { job.withPipeline route id pattern with
        router := job.router ++ [(pattern, id)] } := by
  cases named : route.names with
  | error e =>
    rw [registerRoute_of_unnamed named] at accepted
    cases accepted
  | ok names =>
    obtain ⟨id, pattern⟩ := names
    cases accepts : deps.registry.registerError job.registry (route.pipeline σ id pattern) with
    | some e =>
      rw [registerRoute_of_rejected named accepts] at accepted
      cases accepted
    | none =>
      cases fresh : deps.matchit.insertError (job.router.map Prod.fst) pattern with
      | some reason =>
        rw [registerRoute_of_conflict named accepts fresh] at accepted
        cases accepted
      | none => exact ⟨id, pattern, rfl, fresh, by rw [registerRoute_of_accepted named accepts fresh]⟩

end Outcomes

/-- The job after a sequence of registrations, whatever they returned. -/
def registerAll (routes : List (HttpRoute α)) : DefaultHttpJob σ α :=
  routes.foldl (fun job route => (registerRoute deps job route).2) job

theorem registerAll_snoc (routes : List (HttpRoute α)) (route : HttpRoute α) :
    registerAll deps job (routes ++ [route]) =
      (registerRoute deps (registerAll deps job routes) route).2 := by
  simp [registerAll]

def pathFromUrl (url : String) : String :=
  match Platform.uriPath url with
  | some path => path
  | none => .ofList ((url.toList.takeWhile (· ≠ '?')).takeWhile (· ≠ '#'))

def healthCheck : Bool := allHealthy job.healthHandlers

/-- `Router::route`. -/
def route (path : String) : Except RoutingError String :=
  match deps.matchit.resolve (job.router.map Prod.fst) path with
  | some pattern =>
    match job.router.lookup pattern with
    | some id => .ok id
    | none => .error .noMatch
  | none => .error .noMatch

/-- `Job::run`. -/
def run (req : HttpRequest) (ctx : HandlerContext) : Exec σ α (Except JobError HttpResponse) :=
  match job.route deps (pathFromUrl req.url) with
  | .error e => pure (.error (.routing e))
  | .ok id =>
    match deps.registry.get job.registry id with
    | .error e => pure (.error (.handler (Platform.handlerErrorText e)))
    | .ok none => pure (.error (.handlerUnavailable id))
    | .ok (some pipeline) =>
      (·.mapError fun e => .handler (Platform.handlerErrorText e)) <$> pipeline.execute req ctx

/-- The handler that `run` executes for a request, if it gets to one. -/
def executor (req : HttpRequest) : Option (ErasedHandler σ α HttpRequest HttpResponse) :=
  match job.route deps (pathFromUrl req.url) with
  | .error _ => none
  | .ok id =>
    match deps.registry.get job.registry id with
    | .ok (some pipeline) => some pipeline.stage
    | _ => none

/-- `run` answers as the handler it executes. -/
theorem run_of_executor {deps : HttpJobDeps σ α} {job : DefaultHttpJob σ α}
    {req : HttpRequest} {handler : ErasedHandler σ α HttpRequest HttpResponse}
    (executes : job.executor deps req = some handler) (ctx : HandlerContext) :
    job.run deps req ctx =
      (·.mapError fun e => .handler (Platform.handlerErrorText e)) <$> handler.execute req ctx := by
  unfold executor at executes
  unfold run
  cases routed : job.route deps (pathFromUrl req.url) with
  | error e => simp [routed] at executes
  | ok id =>
    simp only [routed] at executes ⊢
    split at executes
    · rename_i pipeline found
      cases executes
      simp only [found]
      rfl
    · cases executes

end DefaultHttpJob

/-- The call comes to what the route's handler answers, between the route's decode and
encode. -/
def HttpRoute.Answers {σ α : Type} (route : HttpRoute α) (id : String) (req : HttpRequest)
    (ctx : HandlerContext) (call : Exec σ α (Except JobError HttpResponse)) : Prop :=
  route.handler.Answers id (route.decode req) Platform.httpErrorText route.encode ctx call

/-- The bridge of a route answers as the route does. -/
theorem HttpRoute.bridged_answers {σ α : Type} {route : HttpRoute α} {id : String}
    (own : route.handler.id = .ok id) (req : HttpRequest) (ctx : HandlerContext) :
    route.Answers id req ctx ((·.mapError fun e => .handler (Platform.handlerErrorText e)) <$>
      (route.bridged σ).execute req ctx) := by
  refine Handler.answers_of_enter (fun result => (result.map route.encode).mapError fun e =>
    .handler (Platform.handlerErrorText e)) own ?_ ?_ (fun _ => rfl) (fun _ => rfl)
  · intro e undecoded
    simp only [bridged, undecoded]
    rfl
  · intro typed decoded
    simp only [bridged, decoded, Functor.map_map]

structure HttpIngressJob (σ α : Type) where
  job : DefaultHttpJob σ α
  observer : Platform.ObserverContext

namespace HttpIngressJob

def mapJobError : JobError → HttpIngressError
  | .handlerUnavailable m => .notFound m
  | .routing e => .notFound (Platform.routingErrorText e)
  | .handler m => .internal m
  | .cancelled => .unavailable "job cancelled"

/-- The `HttpIngress` implementation. -/
def ingress {σ α : Type} (deps : HttpJobDeps σ α) (self : HttpIngressJob σ α) : HttpIngress σ α where
  handle req :=
    (·.mapError mapJobError) <$>
      self.job.run deps req.request ⟨Platform.intoSecurityContext req.ctx, self.observer⟩
  healthCheck := .ok <|
    if self.job.healthCheck then ⟨true, none⟩
    else ⟨false, some "one or more registered handlers reported unhealthy"⟩

end HttpIngressJob

end EdgeBootstrap
