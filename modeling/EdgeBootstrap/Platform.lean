/-! What the composition root takes from other crates without looking inside:
the enumerations it matches on, the types it only passes along, and the
functions it calls. Nothing is assumed about the functions here; the results
that need a law of one name it. -/
namespace EdgeBootstrap

/-- `HttpIngressError`, with the variants this repository names. -/
inductive HttpIngressError
  | invalidInput (msg : String)
  | notFound (msg : String)
  | methodNotAllowed (msg : String)
  | permissionDenied (msg : String)
  | internal (msg : String)
  | unavailable (msg : String)
  | other (variant msg : String)
  deriving DecidableEq, Repr

/-- `GrpcIngressError`, with the variants this repository names. -/
inductive GrpcIngressError
  | invalidArgument (msg : String)
  | unimplemented (msg : String)
  | permissionDenied (msg : String)
  | internal (msg : String)
  | unavailable (msg : String)
  | other (variant msg : String)
  deriving DecidableEq, Repr

/-- `HandlerError`, with the variants this repository names. -/
inductive HandlerError
  | invalidRequest (msg : String)
  | executionFailed (msg : String)
  | other (variant msg : String)
  deriving DecidableEq, Repr

inductive RoutingError
  | noMatch
  | other (variant msg : String)
  deriving DecidableEq, Repr

/-- `JobError`: `map_job_error` matches exactly these, with no wildcard. -/
inductive JobError
  | handlerUnavailable (id : String)
  | routing (e : RoutingError)
  | handler (msg : String)
  | cancelled
  deriving DecidableEq, Repr

/-- An IP address. -/
inductive IpAddr
  | v4 (bits : BitVec 32)
  | v6 (bits : BitVec 128)
  deriving DecidableEq, Repr

/-- A socket address. -/
structure SocketAddr where
  ip : IpAddr
  port : UInt16
  deriving DecidableEq, Repr

/-- `HttpMethod`: only `Get` is ever compared against. -/
inductive HttpMethod
  | get
  | other (name : String)
  deriving DecidableEq, Repr

def HttpMethod.toString : HttpMethod → String
  | .get => "GET"
  | .other name => name

/-- A parsed JSON document. -/
inductive Json
  | null
  | bool (b : Bool)
  | num (n : Int)
  | str (s : String)
  | arr (items : List Json)
  | obj (members : List (String × Json))

/-- `HttpBody`: JSON, raw bytes, or one of the kinds no codec here reads. -/
inductive HttpBody
  | json (v : Json)
  | raw (bytes : List UInt8)
  | other (kind : String)

structure HttpRequest where
  method : HttpMethod
  url : String
  headers : List (String × String)
  body : Option HttpBody

structure HttpResponse where
  status : Nat
  headers : List (String × String)
  body : List UInt8
  deriving DecidableEq, Repr

def HttpResponse.new (status : Nat) (body : List UInt8) : HttpResponse := ⟨status, [], body⟩

structure HttpHealthCheck where
  healthy : Bool
  message : Option String
  deriving DecidableEq, Repr

structure GrpcHealthCheck where
  healthy : Bool
  message : Option String
  deriving DecidableEq, Repr

/-- The headers of a gRPC call. -/
structure GrpcMetadata where
  headers : List (String × String)
  deriving DecidableEq, Repr

structure GrpcRequest where
  method : String
  body : List UInt8
  metadata : GrpcMetadata
  deriving DecidableEq, Repr

structure GrpcResponse where
  body : List UInt8
  metadata : GrpcMetadata
  deriving DecidableEq, Repr

/-- The types and functions of other crates. -/
class Platform where
  /-- `edge_application::SecurityContext`. -/
  SecurityContext : Type
  /-- `swe_edge_ingress_http::RequestContext`. -/
  RequestContext : Type
  /-- `RequestContext::into_security_context`. -/
  intoSecurityContext : RequestContext → SecurityContext
  /-- `edge_application_observer::ObserverContext`. -/
  ObserverContext : Type
  /-- `edge_security_runtime_tls::PemTlsConfig`. -/
  PemTlsConfig : Type
  /-- `swe_edge_ingress_verifier::JwtConfig`. -/
  JwtConfig : Type
  /-- `swe_edge_egress_http::HttpConfig`. -/
  HttpConfig : Type
  /-- `swe_edge_egress_grpc::GrpcChannelConfig`. -/
  GrpcChannelConfig : Type
  /-- `swe_edge_loadbalancer::LoadbalancerConfig`. -/
  LoadbalancerConfig : Type
  /-- `swe_edge_observ_config::ObservabilityConfig`. -/
  ObservabilityConfig : Type
  /-- `edge_intrusion::config::Config`. -/
  IntrusionConfig : Type
  /-- `dyn TokenVerifier`. -/
  TokenVerifier : Type
  /-- `dyn TracerProvider`. -/
  TracerProvider : Type
  /-- `dyn LoggerProvider`. -/
  LoggerProvider : Type
  /-- `swe_edge_observ_config::TracingConfig`. -/
  TracingConfig : Type
  /-- The tracing section of the observability settings. -/
  observabilityTracing : ObservabilityConfig → TracingConfig
  /-- `dyn GrpcIngressInterceptor`. -/
  GrpcInterceptor : Type
  /-- The message stream of a streaming gRPC call. -/
  GrpcMessageStream : Type
  /-- `StreamResponse` of the gRPC transport. -/
  StreamResponse : Type
  /-- `SseUpgradeResponse`. -/
  SseUpgradeResponse : Type
  /-- The channel of an upgraded WebSocket. -/
  WebsocketChannel : Type
  /-- `GrpcIngress::handle_stream` as the trait provides it. -/
  defaultHandleStream : String → Except GrpcIngressError StreamResponse
  /-- `GrpcMetadataInner::default_metadata`. -/
  defaultMetadata : GrpcMetadata
  /-- `http::Uri` parsing followed by `path`, absent when the text is no URI. -/
  uriPath : String → Option String
  /-- `HttpRequest::header`. -/
  header : HttpRequest → String → Option String
  /-- `Display` of `HttpIngressError`. -/
  httpErrorText : HttpIngressError → String
  /-- `Display` of `GrpcIngressError`. -/
  grpcErrorText : GrpcIngressError → String
  /-- `Display` of `HandlerError`. -/
  handlerErrorText : HandlerError → String
  /-- `Display` of `RoutingError`. -/
  routingErrorText : RoutingError → String
  /-- `serde_json::to_vec` on a document. -/
  jsonToVec : Json → List UInt8
  /-- `Debug` of a string slice. -/
  debugText : String → String

/-- A reference environment for evaluating the model: every foreign type has one
value, a URI is its own path, and no display text is distinguished. -/
@[reducible] def Platform.reference : Platform where
  SecurityContext := Unit
  RequestContext := Unit
  intoSecurityContext := fun _ => ()
  ObserverContext := Unit
  PemTlsConfig := Unit
  JwtConfig := Unit
  HttpConfig := Unit
  GrpcChannelConfig := Unit
  LoadbalancerConfig := Unit
  ObservabilityConfig := Unit
  IntrusionConfig := Unit
  TokenVerifier := Unit
  TracerProvider := Unit
  LoggerProvider := Unit
  TracingConfig := Unit
  observabilityTracing := fun _ => ()
  GrpcInterceptor := Unit
  GrpcMessageStream := Unit
  StreamResponse := Unit
  SseUpgradeResponse := Unit
  WebsocketChannel := Unit
  defaultHandleStream := fun _ => .error (.unimplemented "")
  defaultMetadata := ⟨[]⟩
  uriPath := some
  header := fun req name => (req.headers.find? fun entry => entry.1 == name).map Prod.snd
  httpErrorText := fun _ => ""
  grpcErrorText := fun _ => ""
  handlerErrorText := fun _ => ""
  routingErrorText := fun _ => ""
  jsonToVec := fun _ => []
  debugText := fun s => s

end EdgeBootstrap
