import EdgeBootstrap.Config.Loader
import EdgeBootstrap.Dispatch.HttpJob
import EdgeBootstrap.Dispatch.GrpcJob
import EdgeBootstrap.Intrusion.Guard
import EdgeBootstrap.Metrics.Handler
import EdgeBootstrap.Runtime.Manager
import EdgeBootstrap.Transport.CompositeGrpc

/-! `RuntimeBuilder` and the host it is served on. The host is everything the
assembly calls and may be refused by: the features the crate was built with, the
environment, and the constructors of other crates. -/
namespace EdgeBootstrap

variable [Platform]

/-- The cargo features that change the assembly. -/
structure Features where
  observability : Bool
  messageBroker : Bool
  scheduler : Bool
  intrusion : Bool
  deriving DecidableEq, Repr

/-- The constructors of the metrics backends. -/
structure MetricsBackends where
  localBackend : MetricsProvider
  file : String → MetricsProvider
  prometheus : MetricsProvider
  otel : String → MetricsProvider

/-- The constructors of the tracer backends. -/
structure TracerBackends where
  default : Platform.TracerProvider
  file : String → Platform.TracerProvider
  jaeger : String → String → Platform.TracerProvider
  otel : String → Platform.TracerProvider

/-- The constructors of the log backends. -/
structure LogBackends where
  localBackend : Platform.LoggerProvider
  file : String → UInt64 → Platform.LoggerProvider
  elk : String → Platform.LoggerProvider
  otel : String → Platform.LoggerProvider

/-- When `TonicGrpcServer` refuses an option, given those it has, with the text of
the refusal. -/
structure GrpcServerManage where
  streamingKindError : GrpcServerSettings → String → StreamingKind → Option String
  tlsError : GrpcServerSettings → Platform.PemTlsConfig → Option String
  interceptorsError : GrpcServerSettings → List Platform.GrpcInterceptor → Option String
  allowUnauthenticatedError : GrpcServerSettings → Option String

/-- What a reflection service over a list of route ids answers. -/
structure ReflectionAnswers where
  unary : UnaryRequest → Except GrpcIngressError GrpcResponse
  stream : StreamRequest → Except GrpcIngressError Platform.StreamResponse
  health : Except GrpcIngressError GrpcHealthCheck

/-- What the assembly runs on. Errors of other crates are their texts. -/
structure Host (σ α : Type) where
  features : Features
  loader : LoaderDeps
  env : Env
  httpJob : HttpJobDeps σ α
  grpcRegistry : RegistryBehaviour (GrpcPipeline σ α)
  jwtVerifier : Platform.JwtConfig → Except String Platform.TokenVerifier
  metrics : MetricsBackends
  tracers : TracerBackends
  loggers : LogBackends
  observerContext : Platform.TracerProvider → Platform.LoggerProvider → Option MetricsProvider →
    Platform.ObserverContext
  noopObserver : Platform.ObserverContext
  httpEgressWithConfig : Platform.HttpConfig → Except String (Except String Unit)
  defaultHttpEgress : Except String (Except String Unit)
  grpcTransport : Platform.GrpcChannelConfig → Except String (Except String Unit)
  nullLifecycle : LifecycleMonitor
  buildIntrusion : Platform.IntrusionConfig → Except String (Wired σ)
  grpcServer : GrpcServerManage
  reflection : List String → ReflectionAnswers
  reflectionInfoMethod : String
  spawnSchedulerThread : Except String Unit
  startedAt : UInt64
  shutdownTimesOut : UInt64 → Bool

/-- `RuntimeBuilder`. An egress client and the broker are what their health
checks answer; of a scheduled job only its presence matters. -/
structure RuntimeBuilder (σ α : Type) where
  config : Option RuntimeConfig := none
  appName : Option String := none
  httpHandler : Option (AppHttpIngress α) := none
  grpcHandler : Option (AppGrpcIngress α) := none
  httpJob : Option (DefaultHttpJob σ α) := none
  grpcJob : Option (DefaultGrpcJob σ α) := none
  httpTls : Option Platform.PemTlsConfig := none
  grpcTls : Option Platform.PemTlsConfig := none
  httpBearerVerifier : Option Platform.TokenVerifier := none
  grpcInterceptors : List Platform.GrpcInterceptor := []
  grpcAllowUnauthenticated : Bool := false
  egressHttp : Option (Except String Unit) := none
  egressGrpc : Option (Except String Unit) := none
  lifecycle : Option LifecycleMonitor := none
  tracingConfig : Option Platform.TracingConfig := none
  streamHandler : Option (AppHttpStream α) := none
  metricsProvider : Option MetricsProvider := none
  tracerProvider : Option Platform.TracerProvider := none
  logDrainBackend : Option Platform.LoggerProvider := none
  observerContextOverride : Option Platform.ObserverContext := none
  messageBroker : Option (Except String Unit) := none
  intrusion : Option (Wired σ) := none
  scheduler : Option Unit := none

namespace RuntimeBuilder

variable {σ α : Type} (self : RuntimeBuilder σ α)

/-- `http_route_with`; nothing when it panics on a refused registration. -/
def httpRouteWith (deps : HttpJobDeps σ α) (route : HttpRoute α) : Option (RuntimeBuilder σ α) :=
  match (self.httpJob.getD .new).registerRoute deps route with
  | (.ok (), job) => some { self with httpJob := some job }
  | (.error _, _) => none

/-- `grpc_route_with`; nothing when it panics on a refused registration. -/
def grpcRouteWith (behaviour : RegistryBehaviour (GrpcPipeline σ α)) (route : GrpcRoute α) :
    Option (RuntimeBuilder σ α) :=
  match (self.grpcJob.getD .new).registerRoute behaviour route with
  | (.ok (), job) => some { self with grpcJob := some job }
  | (.error _, _) => none

end RuntimeBuilder

/-- A task that `serve` or `run` leaves behind it while it waits. -/
inductive Task
  | http | grpc | metrics | scheduler
  deriving DecidableEq, Repr

/-- What the assembly does to the outside. -/
inductive RuntimeEvent (σ α : Type)
  | tracingInitialised (config : Platform.TracingConfig)
  | samplerSpawned (policy : Option AutoscalePolicy)
  | httpSpawned (server : HttpServer σ α)
  | grpcSpawned (server : GrpcServer σ α)
  | metricsSpawned (server : HttpServer σ α)
  | schedulerSpawned
  | managerStarted (result : Except RuntimeError Unit)
  | signalled
  | managerShutDown (result : Except RuntimeError Unit)
  | stopSent (task : Task)
  | joined (task : Task)

/-- The event spawns a server. -/
def RuntimeEvent.SpawnsServer {σ α : Type} : RuntimeEvent σ α → Prop
  | .httpSpawned _ | .grpcSpawned _ | .metricsSpawned _ => True
  | _ => False

end EdgeBootstrap
