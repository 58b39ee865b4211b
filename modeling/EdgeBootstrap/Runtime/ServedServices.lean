import EdgeBootstrap.Dispatch.RouteOwnership
import EdgeBootstrap.Dispatch.TransportParity
import EdgeBootstrap.Library.Refinement
import EdgeBootstrap.Runtime.BuilderCalls
import EdgeBootstrap.Runtime.MethodCoverage
import EdgeBootstrap.Runtime.Screening

/-! From the calls on the builder to the replies on the wire. A service that a chain of
builder calls registers is served as it is specified: the enforcer decides on a request, and
the service is called for what it lets through. What else stands between the socket and the
handler passes a request on, and keeps its own books beside the application. -/
namespace EdgeBootstrap
open Registrations

section
variable {σ α β γ ε ρ : Type}

/-- The states differ in the counters at most. -/
structure World.SameButCounters (w v : World σ α) : Prop where
  enforcer : w.enforcer = v.enforcer
  app : w.app = v.app

/-- A call that the enforcer, if there is one, decides on in the state it is in then: it is
refused with the verdict, or made over the enforcer that is left. -/
def putToEnforcer [Clock α] (intrusion : Option (Wired σ)) (event : Wired σ → UInt64 → RequestEvent)
    (refuse : Verdict → ρ) (call : Exec σ α ρ) : Exec σ α ρ := fun w =>
  match screen intrusion event w with
  | (.reject verdict, enforcer, consulted) => (refuse verdict, { w with enforcer }, consulted)
  | (.allow, enforcer, consulted) =>
    let (reply, left, called) := call { w with enforcer }
    (reply, left, consulted ++ called)

variable [Clock α] {intrusion : Option (Wired σ)} {event : Wired σ → UInt64 → RequestEvent}
  {refuse : Verdict → ρ} {call : Exec σ α ρ} {enforcer : σ} {consulted : List Event}

theorem putToEnforcer_of_reject {w : World σ α} {verdict : Verdict}
    (decided : screen intrusion event w = (.reject verdict, enforcer, consulted)) :
    putToEnforcer intrusion event refuse call w = (refuse verdict, { w with enforcer }, consulted) := by
  unfold putToEnforcer
  rw [decided]

theorem putToEnforcer_of_allow {w : World σ α}
    (decided : screen intrusion event w = (.allow, enforcer, consulted)) :
    putToEnforcer intrusion event refuse call w = (call.value { w with enforcer },
      call.state { w with enforcer }, consulted ++ call.events { w with enforcer }) := by
  unfold putToEnforcer
  rw [decided]
  rfl

/-- The enforcer is asked the same, and answers the same, whatever has been counted. -/
theorem World.SameButCounters.screen_eq {w v : World σ α} (same : w.SameButCounters v) :
    screen intrusion event w = screen intrusion event v := by
  obtain ⟨enforcer, app⟩ := same
  cases intrusion with
  | some wired => simp only [screen, enforcer, app]
  | none => simp only [screen, enforcer]

/-- A transparent stack does as the enforcer decides and otherwise as specified. -/
theorem Transparent.as_specified {denied : String → ε} {counts : Bool}
    {inner stack : Exec σ α (Except ε β)} {spec : Exec σ α γ} {f : γ → Except ε β}
    (transparent : Transparent intrusion event denied counts inner stack)
    (refines : inner = f <$> spec) (uncounting : Traced.Simulates World.SameButCounters spec spec)
    (reply : Except ε β → ρ) :
    Traced.Simulates World.SameButCounters (reply <$> stack)
      (putToEnforcer intrusion event (fun verdict => reply (.error (denied verdict.blocked)))
        ((fun c => reply (f c)) <$> spec)) := by
  obtain ⟨specified, isSpecified⟩ : ∃ specified, specified = putToEnforcer intrusion event
      (fun verdict => reply (.error (denied verdict.blocked))) ((fun c => reply (f c)) <$> spec) :=
    ⟨_, rfl⟩
  have each : ∀ {w v : World σ α}, w.SameButCounters v → ∃ answer left events,
      specified v = (answer, left, events) ∧ reply (stack.value w) = answer ∧
        (stack.state w).SameButCounters left ∧ stack.events w = events := by
    intro w v same
    rcases decided : screen intrusion event w with ⟨decision, enforcer, consulted⟩
    have decides := same.screen_eq.symm.trans decided
    rw [isSpecified]
    cases decision with
    | reject verdict =>
      obtain ⟨value, events, state⟩ := transparent.rejected w verdict enforcer consulted decided
      refine ⟨_, _, _, putToEnforcer_of_reject decides, congrArg reply value, ?_, events⟩
      rw [state]
      exact ⟨rfl, same.app⟩
    | allow =>
      obtain ⟨value, events, latencyUs, state⟩ := transparent.allowed w enforcer consulted decided
      have entering : (w.entering enforcer counts).SameButCounters { v with enforcer } :=
        ⟨rfl, same.app⟩
      refine ⟨_, _, _, putToEnforcer_of_allow decides, ?_, ?_, ?_⟩
      · rw [value, refines, Traced.value_map, Traced.value_map, uncounting.value entering]
      · have left := uncounting.state entering
        rw [state, refines, Traced.state_map, Traced.state_map]
        cases counts with
        | true => exact ⟨left.enforcer, left.app⟩
        | false => exact left
      · rw [events, refines, Traced.events_map, Traced.events_map, uncounting.events entering]
  rw [← isSpecified]
  constructor
  · intro w v same
    obtain ⟨_, _, _, ran, value, _, _⟩ := each same
    exact value.trans (congrArg Prod.fst ran).symm
  · intro w v same
    obtain ⟨_, left, _, ran, _, state, _⟩ := each same
    have ends : specified.state v = left := congrArg (fun result => result.2.1) ran
    rw [ends]
    exact state
  · intro w v same
    obtain ⟨_, _, _, ran, _, _, events⟩ := each same
    rw [Traced.events_map]
    exact events.trans (congrArg (fun result => result.2.2) ran).symm

end

section
variable [Platform] {σ α : Type}

/-- A request to a service of the application. An HTTP request is read as a body. -/
inductive ServiceRequest (α : Type)
  | http (service : Service α) (body : List UInt8) (req : InboundRequest)
  | grpc (service : Service α) (req : UnaryRequest)

namespace ServiceRequest

/-- The request as it comes off the wire. -/
def inbound : ServiceRequest α → Inbound
  | .http _ _ req => .http (.plain req)
  | .grpc _ req => .grpc (.unary req)

/-- What the enforcer is asked about it. -/
def event : ServiceRequest α → Wired σ → UInt64 → RequestEvent
  | .http _ _ req, wired => wired.httpEvent req
  | .grpc _ req, wired =>
    wired.grpcEvent req.request.method req.peerAddr req.request.metadata.headers

/-- The call it asks for. -/
def call (observer : Platform.ObserverContext) : ServiceRequest α → Exec σ α CallOutcome
  | .http service body req => service.call body ⟨Platform.intoSecurityContext req.ctx, observer⟩
  | .grpc service req => service.call req.request.body ⟨req.ctx, observer⟩

/-- How its transport renders the outcome of that call. -/
def render : ServiceRequest α → CallOutcome → Reply
  | .http _ _ _, outcome => .http (.response outcome.http)
  | .grpc _ _, outcome => .grpc (.unary outcome.grpc)

/-- The reply if the enforcer turns it away. -/
def denied : ServiceRequest α → Verdict → Reply
  | .http _ _ _, verdict => .http (.response (.error (.permissionDenied verdict.blocked)))
  | .grpc _ _, verdict => .grpc (.unary (.error (.permissionDenied verdict.blocked)))

/-- What the request comes to: the verdict of the enforcer, or the outcome of its call. -/
def specified [Clock α] (intrusion : Option (Wired σ)) (observer : Platform.ObserverContext)
    (request : ServiceRequest α) : Exec σ α Reply :=
  putToEnforcer intrusion request.event request.denied (request.render <$> request.call observer)

end ServiceRequest

/-- A call of a service goes by the application, and by nothing that is counted. -/
theorem Service.call_uncounting (service : Service α) (body : List UInt8) (ctx : HandlerContext) :
    Traced.Simulates World.SameButCounters (service.call body ctx : Exec σ α CallOutcome)
      (service.call body ctx) := by
  have entered : ∀ {β : Type} (code : AppCode) (run : α → β × α), Traced.Simulates
      World.SameButCounters (Exec.enter code run : Exec σ α β) (Exec.enter code run) := by
    intro β code run
    constructor
    · intro w v same
      exact congrArg (fun app => (run app).1) same.app
    · intro w v same
      exact ⟨same.enforcer, congrArg (fun app => (run app).2) same.app⟩
    · exact fun _ => rfl
  unfold Service.call
  cases (SerdeJson.fromSlice body : Except String service.Req) with
  | error reason => exact .pure _
  | ok q => exact (entered _ _).map service.outcome

namespace RuntimeBuilder

/-- A request for a service that the chain has registered as an HTTP route: the router
resolves the path to the pattern of its route, and no later route took its id. -/
structure HttpArrives (host : Host σ α) (calls : List (BuilderCall σ α)) (service : Service α)
    (body : List UInt8) (req : InboundRequest) : Prop where
  registered : ∃ id pattern earlier later, service.httpRoute.names = .ok (id, pattern) ∧
    httpRoutes calls = earlier ++ service.httpRoute :: later ∧ lastClaim id later = none ∧
    host.httpJob.matchit.resolve ((after (DefaultHttpJob.registerRoute host.httpJob)
      DefaultHttpJob.new (httpRoutes calls)).router.map Prod.fst)
        (DefaultHttpJob.pathFromUrl req.request.url) = some pattern
  carried : service.Carries req.request body

/-- A call of a service that the chain has registered as a gRPC route, by its id, where
reflection does not stand in its way. -/
structure GrpcArrives (calls : List (BuilderCall σ α)) (config : RuntimeConfig) (service : Service α)
    (req : UnaryRequest) : Prop where
  registered : service.grpcRoute ∈ grpcRoutes calls
  named : service.grpcRoute.Named req.request.method
  primary : IsReflection req.request.method → config.grpcReflection = false

variable {host : Host σ α} {calls : List (BuilderCall σ α)} {builder : RuntimeBuilder σ α}
  {service : Service α} {matchit : Matchit}

/-- The HTTP job of the chain executes the service for the request. -/
theorem HttpArrives.routed {body : List UInt8} {req : InboundRequest}
    (overwrites : host.httpJob = .overwriting matchit) (accepts : Accepts host calls)
    (arrives : HttpArrives host calls service body req) :
    (after (DefaultHttpJob.registerRoute host.httpJob) DefaultHttpJob.new
      (httpRoutes calls)).executor host.httpJob req.request = some (service.httpRoute.bridged σ) := by
  obtain ⟨id, pattern, earlier, later, named, split, unclaimed, resolves⟩ := arrives.registered
  have accepted := accepts.http earlier service.httpRoute later split
  rw [split, overwrites] at resolves
  rw [overwrites] at accepted
  rw [split, overwrites]
  have all : after (DefaultHttpJob.registerRoute (.overwriting matchit)) DefaultHttpJob.new
      (earlier ++ service.httpRoute :: later) =
        ((after (DefaultHttpJob.registerRoute (.overwriting matchit)) DefaultHttpJob.new
          earlier).registerAll (.overwriting matchit) (service.httpRoute :: later) :
            DefaultHttpJob σ α) := List.foldl_append
  rw [all] at resolves ⊢
  rw [DefaultHttpJob.executor_of_resolved named accepted resolves, unclaimed]
  rfl

/-- The gRPC job of the chain holds the service under its id. -/
theorem GrpcArrives.held {config : RuntimeConfig} {req : UnaryRequest}
    (infallible : host.grpcRegistry = .infallible) (accepts : Accepts host calls)
    (arrives : GrpcArrives calls config service req) :
    (after (DefaultGrpcJob.registerRoute host.grpcRegistry) DefaultGrpcJob.new
      (grpcRoutes calls)).registry[req.request.method]? =
        some (service.grpcRoute.pipeline σ req.request.method) := by
  have own := accepts.grpc
  rw [infallible, allAccepted_grpc_iff] at own
  have reference : (after (DefaultGrpcJob.registerRoute .infallible) DefaultGrpcJob.new
      (grpcRoutes calls) : DefaultGrpcJob σ α).registry[req.request.method]? =
        (firstClaim req.request.method (grpcRoutes calls)).map (·.pipeline σ req.request.method) :=
    DefaultGrpcJob.registry_eq σ _ _
  rw [infallible, reference, own.firstClaim arrives.registered arrives.named]
  rfl

theorem reflectionRouteLister_none {config : RuntimeConfig} (off : config.grpcReflection = false) :
    builder.reflectionRouteLister host config = none := by
  simp [reflectionRouteLister, off]

variable [Clock α] {a : Assembly σ α}

/-- The HTTP server of a chain does for its services as the enforcer decides and otherwise
as specified. -/
theorem http_served (overwrites : host.httpJob = .overwriting matchit)
    (built : chain host calls = some builder) {observer : Platform.ObserverContext}
    (ingress : a.ingress = builder.assembleIngress host observer) {body : List UInt8}
    {req : InboundRequest} (arrives : HttpArrives host calls service body req) :
    Traced.Simulates World.SameButCounters ((a.servers host builder).dispatch (.http (.plain req)))
      ((ServiceRequest.http service body req).specified a.intrusion observer) := by
  obtain ⟨accepts, describes⟩ := chain_eq_some_iff.mp built
  obtain ⟨_, _, earlier, later, _, split, _⟩ := arrives.registered
  have member : service.httpRoute ∈ httpRoutes calls := by simp [split]
  have stored := describes.http
  rw [collected_of_mem member] at stored
  have dispatches : (a.servers host builder).dispatch (.http (.plain req)) =
      (fun r => Reply.http (.response r)) <$> (httpStack a (HttpIngressJob.ingress host.httpJob
        ⟨after (DefaultHttpJob.registerRoute host.httpJob) DefaultHttpJob.new (httpRoutes calls),
          observer⟩)).handle req := by
    simp only [Servers.dispatch, Assembly.servers, ingress, assembleIngress, stored, Option.map_some,
      HttpServer.dispatch, httpServer, Functor.map_map]
  rw [dispatches]
  exact (httpStack_transparent a _ req).as_specified
    (Service.http_handled (arrives.routed overwrites accepts) arrives.carried observer)
    (service.call_uncounting _ _) _

/-- So does the gRPC server, if there is one. -/
theorem grpc_served (infallible : host.grpcRegistry = .infallible)
    (built : chain host calls = some builder) {observer : Platform.ObserverContext}
    (ingress : a.ingress = builder.assembleIngress host observer) {req : UnaryRequest}
    (arrives : GrpcArrives calls a.config service req)
    (present : (a.servers host builder).grpc.isSome = true) :
    Traced.Simulates World.SameButCounters ((a.servers host builder).dispatch (.grpc (.unary req)))
      ((ServiceRequest.grpc service req).specified a.intrusion observer) := by
  obtain ⟨accepts, describes⟩ := chain_eq_some_iff.mp built
  have stored := describes.grpc
  rw [collected_of_mem arrives.registered] at stored
  have held := arrives.held infallible accepts
  let job : DefaultGrpcJob σ α :=
    after (DefaultGrpcJob.registerRoute host.grpcRegistry) DefaultGrpcJob.new (grpcRoutes calls)
  have inner : a.ingress.grpc = some (GrpcIngressJob.ingress host.grpcRegistry ⟨job, observer⟩) := by
    simp only [ingress, assembleIngress, stored, job]
  obtain ⟨server, built_server⟩ := Option.isSome_iff_exists.mp present
  obtain ⟨settings, set, stack⟩ : ∃ settings, builder.grpcSettings host a.config = .ok settings ∧
      server = ⟨settings, builder.grpcStack host a
        (GrpcIngressJob.ingress host.grpcRegistry ⟨job, observer⟩)⟩ := by
    simp only [Assembly.servers, inner, Option.map_some, Option.bind_some, grpcServer,
      Except.toOption_eq_some_iff, Except.map_eq_ok] at built_server
    obtain ⟨settings, set, same⟩ := built_server
    exact ⟨settings, set, same.symm⟩
  -- the id of a route is a method the server lets through
  have declared : settings.Declares req.request.method := by
    apply (declares_iff set _).mpr
    left
    have listed : req.request.method ∈ job.listRouteIds host.grpcRegistry := by
      apply DefaultGrpcJob.listed_of_registered
      · rw [infallible]
        rfl
      · rw [infallible, DefaultGrpcJob.isRegistered_infallible, held]
        rfl
    simpa only [grpcRouteIds, stored] using listed
  have dispatches : (a.servers host builder).dispatch (.grpc (.unary req)) =
      (fun r => Reply.grpc (.unary r)) <$> (builder.grpcStack host a
        (GrpcIngressJob.ingress host.grpcRegistry ⟨job, observer⟩)).handleUnary req := by
    unfold GrpcServerSettings.Declares at declared
    simp only [Servers.dispatch, built_server, stack, GrpcServer.dispatch, declared, if_true,
      Functor.map_map]
  have primary : IsReflection req.request.method → builder.reflectionRouteLister host a.config = none :=
    fun reflects => reflectionRouteLister_none (arrives.primary reflects)
  have routed : job.executor host.grpcRegistry req.request.method =
      some (service.grpcRoute.bridged σ) := by
    rw [infallible, DefaultGrpcJob.executor_infallible, held]
    rfl
  rw [dispatches]
  exact ((grpcStack_transparent host builder a _ _ primary).unary req rfl).as_specified
    (Service.grpc_handled routed observer) (service.call_uncounting _ _) _

end RuntimeBuilder

end

section Reference
attribute [local instance] Platform.reference

/-- The bytes of `null`. -/
private def nullBytes : List UInt8 := [0x6e, 0x75, 0x6c, 0x6c]

/-- A message without content. -/
local instance emptyMessage : SerdeJson Unit where
  fromValue _ := .ok ()
  fromSlice bytes := if bytes = nullBytes then .ok () else .error "expected null"
  toVec _ := .ok nullBytes

end Reference

end EdgeBootstrap
