import EdgeBootstrap.Rust.Text
import EdgeBootstrap.Transport.Exec

/-! The transport traits (`HttpIngress`, `HttpStream`, `GrpcIngress`), the
servers that call them, and `DefaultIngress`. A health check is a value: what
the adapter answers when it is probed. -/
namespace EdgeBootstrap

/-- The part of a URL that the runtime's own endpoints compare with their path. -/
def endpointPath (url : String) : String :=
  Rust.trimEndMatches '/' (.ofList (url.toList.takeWhile (· ≠ '?')))

variable [Platform]

structure InboundRequest where
  request : HttpRequest
  ctx : Platform.RequestContext
  peerAddr : SocketAddr

structure HttpIngress (σ α : Type) where
  handle : InboundRequest → Exec σ α (Except HttpIngressError HttpResponse)
  healthCheck : Except HttpIngressError HttpHealthCheck

/-- `HttpStream`: an upgrade is made from the request that asked for it. -/
structure HttpStream (σ α : Type) where
  handleSse : InboundRequest → Exec σ α (Except HttpIngressError Platform.SseUpgradeResponse)
  handleWebsocket : InboundRequest → Platform.WebsocketChannel →
    Exec σ α (Except HttpIngressError Unit)

structure UnaryRequest where
  request : GrpcRequest
  ctx : Platform.SecurityContext
  peerAddr : SocketAddr

structure StreamRequest where
  method : String
  metadata : GrpcMetadata
  messages : Platform.GrpcMessageStream
  ctx : Platform.SecurityContext
  peerAddr : SocketAddr

structure GrpcIngress (σ α : Type) where
  handleUnary : UnaryRequest → Exec σ α (Except GrpcIngressError GrpcResponse)
  handleStream : StreamRequest → Exec σ α (Except GrpcIngressError Platform.StreamResponse)
  healthCheck : Except GrpcIngressError GrpcHealthCheck

/-- An `HttpIngress` that the user of the builder supplies. -/
structure AppHttpIngress (α : Type) where
  handle : InboundRequest → α → Except HttpIngressError HttpResponse × α
  healthCheck : Except HttpIngressError HttpHealthCheck

/-- An `HttpStream` that the user of the builder supplies. -/
structure AppHttpStream (α : Type) where
  handleSse : InboundRequest → α → Except HttpIngressError Platform.SseUpgradeResponse × α
  handleWebsocket : InboundRequest → Platform.WebsocketChannel → α → Except HttpIngressError Unit × α

/-- A `GrpcIngress` that the user of the builder supplies. -/
structure AppGrpcIngress (α : Type) where
  handleUnary : UnaryRequest → α → Except GrpcIngressError GrpcResponse × α
  handleStream : StreamRequest → α → Except GrpcIngressError Platform.StreamResponse × α
  healthCheck : Except GrpcIngressError GrpcHealthCheck

section Supplied
variable {α : Type} (σ : Type)

/-- A supplied ingress behind its trait: every call enters application code. -/
def AppHttpIngress.ingress (app : AppHttpIngress α) : HttpIngress σ α where
  handle req := Exec.enter .httpIngress (app.handle req)
  healthCheck := app.healthCheck

/-- A supplied stream handler behind its trait. -/
def AppHttpStream.stream (app : AppHttpStream α) : HttpStream σ α where
  handleSse req := Exec.enter .httpStream (app.handleSse req)
  handleWebsocket req channel := Exec.enter .httpStream (app.handleWebsocket req channel)

/-- A supplied gRPC ingress behind its trait. -/
def AppGrpcIngress.ingress (app : AppGrpcIngress α) : GrpcIngress σ α where
  handleUnary req := Exec.enter .grpcIngress (app.handleUnary req)
  handleStream req := Exec.enter .grpcIngress (app.handleStream req)
  healthCheck := app.healthCheck

end Supplied

/-- `DefaultIngress`. -/
structure Ingress (σ α : Type) where
  http : Option (HttpIngress σ α) := none
  grpc : Option (GrpcIngress σ α) := none

def Ingress.hasAny {σ α : Type} (i : Ingress σ α) : Bool := i.http.isSome || i.grpc.isSome

/-- What an HTTP server takes off the wire. -/
inductive HttpInbound
  | plain (req : InboundRequest)
  | sse (req : InboundRequest)
  | websocket (req : InboundRequest) (channel : Platform.WebsocketChannel)

/-- The request an inbound HTTP request of any kind carries. -/
def HttpInbound.request : HttpInbound → InboundRequest
  | .plain req | .sse req | .websocket req _ => req

/-- `AxumHttpServer`, as configured. -/
structure HttpServer (σ α : Type) where
  bind : String
  handler : HttpIngress σ α
  tls : Option Platform.PemTlsConfig := none
  bearerAuth : Option Platform.TokenVerifier := none
  streamHandler : Option (HttpStream σ α) := none

/-- What comes back from dispatching an HTTP request. -/
inductive HttpReply
  | response (r : Except HttpIngressError HttpResponse)
  | sse (r : Except HttpIngressError Platform.SseUpgradeResponse)
  | websocket (r : Except HttpIngressError Unit)

/-- How the server dispatches a request it accepts: event-stream and upgrade
requests go to the stream handler when one is set, all others to the handler. -/
def HttpServer.dispatch {σ α : Type} (server : HttpServer σ α) : HttpInbound → Exec σ α HttpReply
  | .plain req => .response <$> server.handler.handle req
  | .sse req =>
    match server.streamHandler with
    | some stream => .sse <$> stream.handleSse req
    | none => .response <$> server.handler.handle req
  | .websocket req channel =>
    match server.streamHandler with
    | some stream => .websocket <$> stream.handleWebsocket req channel
    | none => .response <$> server.handler.handle req

/-- `StreamingKind`, as far as it is declared here. -/
inductive StreamingKind
  | unary | bidiStream
  deriving DecidableEq, Repr

/-- What a gRPC server takes off the wire. -/
inductive GrpcInbound
  | unary (req : UnaryRequest)
  | stream (req : StreamRequest)

/-- The options of a `TonicGrpcServer`. -/
structure GrpcServerSettings where
  bind : String
  streamingKinds : List (String × StreamingKind) := []
  tls : Option Platform.PemTlsConfig := none
  interceptors : List Platform.GrpcInterceptor := []
  allowUnauthenticated : Bool := false

/-- `TonicGrpcServer`, as configured. -/
structure GrpcServer (σ α : Type) extends GrpcServerSettings where
  handler : GrpcIngress σ α

/-- What comes back from dispatching a gRPC call. -/
inductive GrpcReply
  | unary (r : Except GrpcIngressError GrpcResponse)
  | stream (r : Except GrpcIngressError Platform.StreamResponse)
  | undeclared

/-- How the server dispatches a call it accepts: a method without a declared
streaming kind is answered `Unimplemented`. -/
def GrpcServer.dispatch {σ α : Type} (server : GrpcServer σ α) : GrpcInbound → Exec σ α GrpcReply
  | .unary req =>
    if (server.streamingKinds.lookup req.request.method).isSome then
      .unary <$> server.handler.handleUnary req
    else pure .undeclared
  | .stream req =>
    if (server.streamingKinds.lookup req.method).isSome then
      .stream <$> server.handler.handleStream req
    else pure .undeclared

end EdgeBootstrap
