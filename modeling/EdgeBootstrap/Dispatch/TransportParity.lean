import EdgeBootstrap.Dispatch.Unserialisable

/-! One handler behind both transports. Decoding and encoding differ in what the
client sees, not in what the handler is called with; so a service is specified by its
calls alone, and each adapter answers a call as the specification does, rendered its
own way. -/
namespace EdgeBootstrap

/-- How a call of a service ends, whichever transport it came over. -/
inductive CallOutcome
  | undecodable (reason : String)
  | failed (e : HandlerError)
  | unwritable (reason : String)
  | wrote (body : List UInt8)

inductive Transport
  | http | grpc
  deriving DecidableEq, Repr

section
variable [Platform] {σ α : Type}

/-- What `http_route` and `grpc_route` are given: a handler whose request and response
have the default codecs. -/
structure Service (α : Type) where
  {Req Resp : Type}
  [request : SerdeJson Req]
  [response : SerdeJson Resp]
  handler : Handler α Req Resp

namespace Service

attribute [instance] Service.request Service.response

variable (service : Service α)

def httpRoute : HttpRoute α := service.handler.httpRoute

def grpcRoute : GrpcRoute α := service.handler.grpcRoute

/-- What a handler returned, written out. -/
def outcome : Except HandlerError service.Resp → CallOutcome
  | .error e => .failed e
  | .ok r =>
    match SerdeJson.toVec r with
    | .ok body => .wrote body
    | .error reason => .unwritable reason

/-- A call of the service: its specification, which names no transport. -/
def call (body : List UInt8) (ctx : HandlerContext) : Exec σ α CallOutcome :=
  match SerdeJson.fromSlice body with
  | .error reason => pure (.undecodable reason)
  | .ok q => service.outcome <$> service.handler.enter q ctx

/-- The body of an HTTP request reads as these bytes do. -/
def Carries (req : HttpRequest) (body : List UInt8) : Prop :=
  (Codec.jsonDecode req : Except HttpIngressError service.Req) =
    (SerdeJson.fromSlice body : Except String service.Req).mapError .invalidInput

/-- Bytes that were not parsed on the way read as they are. -/
theorem carries_raw {req : HttpRequest} {body : List UInt8} (raw : req.body = some (.raw body)) :
    service.Carries req body := by
  unfold Carries Codec.jsonDecode
  rw [raw]

end Service

namespace CallOutcome

/-- What an HTTP client gets. -/
def http : CallOutcome → Except HttpIngressError HttpResponse
  | .undecodable reason => .error (.internal
      (Platform.handlerErrorText (.invalidRequest (Platform.httpErrorText (.invalidInput reason)))))
  | .failed e => .error (.internal (Platform.handlerErrorText e))
  | .unwritable reason => .ok (.new 500 reason.toUTF8.toList)
  | .wrote body =>
    .ok { HttpResponse.new 200 body with headers := [("content-type", "application/json")] }

/-- What a gRPC client gets. -/
def grpc : CallOutcome → Except GrpcIngressError GrpcResponse
  | .undecodable reason => .error (.internal
      (Platform.handlerErrorText (.invalidRequest (Platform.grpcErrorText (.invalidArgument reason)))))
  | .failed e => .error (.internal (Platform.handlerErrorText e))
  | .unwritable _ => .ok ⟨[], Platform.defaultMetadata⟩
  | .wrote body => .ok ⟨body, Platform.defaultMetadata⟩

end CallOutcome

/-- A response as the HTTP codec writes it. -/
theorem Service.http_encoded (service : Service α) (r : service.Resp) :
    .ok (Codec.jsonEncode r) = (service.outcome (.ok r)).http := by
  unfold Codec.jsonEncode Service.outcome
  cases written : SerdeJson.toVec r <;> simp only [written, CallOutcome.http]

/-- A response as the gRPC codec writes it. -/
theorem Service.grpc_encoded (service : Service α) (r : service.Resp) :
    .ok ⟨Codec.grpcJsonEncode r, Platform.defaultMetadata⟩ = (service.outcome (.ok r)).grpc := by
  unfold Codec.grpcJsonEncode Service.outcome
  cases written : SerdeJson.toVec r <;> simp only [written, CallOutcome.grpc] <;> rfl

/-- An HTTP adapter that routes a request to the service answers with the rendered outcome
of its call. -/
theorem Service.http_handled {deps : HttpJobDeps σ α} {job : DefaultHttpJob σ α}
    {service : Service α} {req : InboundRequest} {body : List UInt8}
    (routed : job.executor deps req.request = some (service.httpRoute.bridged σ))
    (carried : service.Carries req.request body) (observer : Platform.ObserverContext) :
    (HttpIngressJob.ingress deps ⟨job, observer⟩).handle req =
      CallOutcome.http <$> service.call body ⟨Platform.intoSecurityContext req.ctx, observer⟩ := by
  have carried : service.httpRoute.decode req.request =
    (SerdeJson.fromSlice body : Except String service.Req).mapError .invalidInput := carried
  show _ <$> job.run deps req.request ⟨Platform.intoSecurityContext req.ctx, observer⟩ = _
  rw [DefaultHttpJob.run_of_executor routed]
  simp only [HttpRoute.bridged, carried, Service.call]
  cases (SerdeJson.fromSlice body : Except String service.Req) with
  | error reason => rfl
  | ok q =>
    simp only [Except.mapError, Functor.map_map]
    refine congrFun (congrArg Functor.map (funext fun result => ?_)) _
    cases result with
    | error e => rfl
    | ok r =>
      exact service.http_encoded r

/-- A gRPC adapter does so too. -/
theorem Service.grpc_handled {behaviour : RegistryBehaviour (GrpcPipeline σ α)}
    {job : DefaultGrpcJob σ α} {service : Service α} {req : UnaryRequest}
    (routed : job.executor behaviour req.request.method = some (service.grpcRoute.bridged σ))
    (observer : Platform.ObserverContext) :
    (GrpcIngressJob.ingress behaviour ⟨job, observer⟩).handleUnary req =
      CallOutcome.grpc <$> service.call req.request.body ⟨req.ctx, observer⟩ := by
  show _ <$> job.run behaviour req.request ⟨req.ctx, observer⟩ = _
  rw [DefaultGrpcJob.run_of_executor routed]
  have decode : service.grpcRoute.decode req.request.body = (SerdeJson.fromSlice
    req.request.body : Except String service.Req).mapError .invalidArgument := rfl
  simp only [GrpcRoute.bridged, decode, Service.call]
  cases (SerdeJson.fromSlice req.request.body : Except String service.Req) with
  | error reason => rfl
  | ok q =>
    simp only [Except.mapError, Functor.map_map]
    refine congrFun (congrArg Functor.map (funext fun result => ?_)) _
    cases result with
    | error e => rfl
    | ok r =>
      exact service.grpc_encoded r

/-- An answer of either transport. -/
inductive Answered
  | http (answer : Except HttpIngressError HttpResponse)
  | grpc (answer : Except GrpcIngressError GrpcResponse)

/-- How a transport renders an outcome. -/
def Transport.render : Transport → CallOutcome → Answered
  | .http, outcome => .http outcome.http
  | .grpc, outcome => .grpc outcome.grpc

/-- The adapters of one application, as `serve` makes them: over the same observer. -/
structure Adapters (σ α : Type) where
  deps : HttpJobDeps σ α
  behaviour : RegistryBehaviour (GrpcPipeline σ α)
  observer : Platform.ObserverContext
  httpJob : DefaultHttpJob σ α
  grpcJob : DefaultGrpcJob σ α

namespace Adapters

variable (adapters : Adapters σ α)

def http : HttpIngressJob σ α := ⟨adapters.httpJob, adapters.observer⟩

def grpc : GrpcIngressJob σ α := ⟨adapters.grpcJob, adapters.observer⟩

/-- A call that can be made over either transport: both requests come to the same
service, with the same body and from the same caller. -/
structure Call (adapters : Adapters σ α) where
  service : Service α
  body : List UInt8
  overHttp : InboundRequest
  overGrpc : UnaryRequest
  routedHttp : adapters.httpJob.executor adapters.deps overHttp.request =
    some (service.httpRoute.bridged σ)
  routedGrpc : adapters.grpcJob.executor adapters.behaviour overGrpc.request.method =
    some (service.grpcRoute.bridged σ)
  carried : service.Carries overHttp.request body
  same_body : overGrpc.request.body = body
  same_caller : Platform.intoSecurityContext overHttp.ctx = overGrpc.ctx

/-- Make a call over a transport. -/
def send (call : adapters.Call) : Transport → Exec σ α Answered
  | .http => .http <$> (adapters.http.ingress adapters.deps).handle call.overHttp
  | .grpc => .grpc <$> (adapters.grpc.ingress adapters.behaviour).handleUnary call.overGrpc

/-- The call as the service is specified. -/
def Call.specified {adapters : Adapters σ α} (call : adapters.Call) : Exec σ α CallOutcome :=
  call.service.call call.body ⟨call.overGrpc.ctx, adapters.observer⟩

/-- Calls one after the other, each over its transport. -/
def sendAll : List (Transport × adapters.Call) → Exec σ α (List Answered)
  | [] => pure []
  | (transport, call) :: rest => do
    let answer ← adapters.send call transport
    let answers ← sendAll rest
    return answer :: answers

/-- The same calls, as specified. -/
def specifiedAll : List adapters.Call → Exec σ α (List CallOutcome)
  | [] => pure []
  | call :: rest => do
    let outcome ← call.specified
    let outcomes ← specifiedAll rest
    return outcome :: outcomes

variable {adapters}

/-- The HTTP adapter answers with the rendered outcome of the specification. -/
theorem http_refines (call : adapters.Call) :
    (adapters.http.ingress adapters.deps).handle call.overHttp = CallOutcome.http <$> call.specified := by
  obtain ⟨service, body, overHttp, overGrpc, routed, _, carried, _, caller⟩ := call
  show (HttpIngressJob.ingress adapters.deps ⟨adapters.httpJob, adapters.observer⟩).handle overHttp = _
  rw [Service.http_handled routed carried, caller]
  rfl

/-- The gRPC adapter does so too. -/
theorem grpc_refines (call : adapters.Call) :
    (adapters.grpc.ingress adapters.behaviour).handleUnary call.overGrpc =
      CallOutcome.grpc <$> call.specified := by
  obtain ⟨service, _, overHttp, overGrpc, _, routed, _, rfl, _⟩ := call
  exact Service.grpc_handled routed adapters.observer

theorem send_eq (call : adapters.Call) (transport : Transport) :
    adapters.send call transport = transport.render <$> call.specified := by
  cases transport with
  | http =>
    simp only [send, http_refines, Functor.map_map]
    rfl
  | grpc =>
    simp only [send, grpc_refines, Functor.map_map]
    rfl

/-- Calls over any transports are the specified calls, each rendered. -/
theorem sendAll_eq (transports : List Transport) (calls : List adapters.Call)
    (each : transports.length = calls.length) :
    adapters.sendAll (transports.zip calls) =
      List.zipWith Transport.render transports <$> adapters.specifiedAll calls := by
  induction calls generalizing transports with
  | nil =>
    cases List.length_eq_zero_iff.mp each
    rfl
  | cons call calls ih =>
    cases transports with
    | nil => cases each
    | cons transport transports =>
      have rest := ih transports (by simpa using each)
      simp only [List.zip_cons_cons, sendAll, specifiedAll, send_eq, rest, map_bind, map_pure,
        bind_map_left, List.zipWith_cons_cons]

/-- For any calls there are the state and the trace they leave the application with, and
the outcomes they come to, such that over whatever transport each of them is made, that
is the state, that the trace, and every client gets its outcome as its transport renders
it. -/
theorem transports_interchangeable (adapters : Adapters σ α) (calls : List adapters.Call)
    (w : World σ α) :
    ∃ outcomes w' events, ∀ transports : List Transport, transports.length = calls.length →
      adapters.sendAll (transports.zip calls) w =
        (List.zipWith Transport.render transports outcomes, w', events) := by
  let specified := adapters.specifiedAll calls
  refine ⟨specified.value w, specified.state w, specified.events w, fun transports each => ?_⟩
  rw [sendAll_eq transports calls each]
  refine Prod.ext (Traced.value_map ..) (Prod.ext (Traced.state_map ..) ?_)
  exact Traced.events_map ..

end Adapters

end

section Reference

attribute [local instance] Platform.reference

/-- A request without content. -/
local instance visitRequest : SerdeJson Unit where
  fromValue _ := .ok ()
  fromSlice bytes := if bytes = "null".toUTF8.toList then .ok () else .error "expected null"
  toVec _ := .ok "null".toUTF8.toList

/-- The number of a visit, which has a body while it is small. -/
local instance visitNumber : SerdeJson UInt8 where
  fromValue _ := .error "expected a byte"
  fromSlice _ := .error "expected a byte"
  toVec n := if n < 2 then .ok [n] else .error "too many visits"

/-- A handler that numbers its calls. -/
def Service.visits : Service UInt8 where
  Req := Unit
  Resp := UInt8
  handler := ⟨.ok "pkg.Svc/Visit", .ok "/visit", fun _ _ app => (.ok app, app + 1), .ok true⟩

private abbrev visitAdapters : Adapters Unit UInt8 where
  deps := .overwriting .exact
  behaviour := .infallible
  observer := ()
  httpJob := DefaultHttpJob.new.registerAll (.overwriting .exact) [Service.visits.httpRoute]
  grpcJob := (DefaultGrpcJob.new.registerRoute .infallible Service.visits.grpcRoute).2

/-- A call with a body, over either transport. -/
private def visit (body : List UInt8) : visitAdapters.Call where
  service := .visits
  body := body
  overHttp := ⟨⟨.other "POST", "/visit", [], some (.raw body)⟩, (), ⟨.v4 0, 0⟩⟩
  overGrpc := ⟨⟨"pkg.Svc/Visit", body, ⟨[]⟩⟩, (), ⟨.v4 0, 0⟩⟩
  routedHttp := by
    have named : Service.visits.httpRoute.names = .ok ("pkg.Svc/Visit", "/visit") := rfl
    exact DefaultHttpJob.executor_of_resolved named rfl rfl
  routedGrpc := by
    have named : Service.visits.grpcRoute.names = .ok ("pkg.Svc/Visit", "/visit") := rfl
    exact DefaultGrpcJob.executor_of_accepted named rfl
  carried := Service.visits.carries_raw rfl
  same_body := rfl
  same_caller := rfl

/-- A visit that is numbered, one that does not decode, and one whose number is not
written out. -/
theorem transports_interchangeable_visits :
    let calls := [visit "null".toUTF8.toList, visit [], visit "null".toUTF8.toList]
    ∃ outcomes w' events, ∀ transports : List Transport, transports.length = 3 →
      visitAdapters.sendAll (transports.zip calls) ⟨(), .new, 1⟩ =
        (List.zipWith Transport.render transports outcomes, w', events) := by
  intro calls
  exact visitAdapters.transports_interchangeable calls ⟨(), .new, 1⟩

end Reference

end EdgeBootstrap
