import EdgeBootstrap.Monitor.LoadMonitor
import EdgeBootstrap.Runtime.Runner

/-! `RuntimeBuilder::serve`, in the order of the source: `assemble` resolves every
component, `spawnServers` spawns the servers over them, and `supervise` runs the
manager until the signal. -/
namespace EdgeBootstrap

variable [Platform] {σ α : Type}

namespace RuntimeBuilder

variable (host : Host σ α) (self : RuntimeBuilder σ α)

/-- The error of a step that another crate refuses. -/
def startFailed {β : Type} (r : Except String β) : Except RuntimeError β := r.mapError .startFailed

/-- A setting that must be there for the active backend. -/
def required {β : Type} (setting : Option β) (text : String) : Except RuntimeError β :=
  match setting with
  | some value => .ok value
  | none => .error (.startFailed text)

/-- A metrics backend that only the `observability` feature has. -/
def gatedBackend {β : Type} (name : String) (build : Except RuntimeError β) :
    Except RuntimeError β :=
  if host.features.observability then build
  else .error (.startFailed
    ("metrics_backend = \"" ++ name ++ "\" requires the \"observability\" feature"))

/-- The text that refuses an SQLite backend. -/
def sqliteUnsupported (setting method : String) : String :=
  setting ++ " = \"sqlite\" is not supported yet — requires async pool initialisation this " ++
    "composition root doesn't perform. Use RuntimeBuilder::" ++ method ++
    "() to supply a pre-initialised backend instead."

def buildMetricsProvider (cfg : Option MetricsBackendConfig) : Except RuntimeError MetricsProvider :=
  match cfg with
  | none => .ok host.metrics.localBackend
  | some cfg =>
    match cfg.active with
    | .memory => .ok host.metrics.localBackend
    | .file => gatedBackend host "file" do
      let path ← required cfg.file
        "[metrics_backend.file] path is required when active = \"file\""
      return host.metrics.file path
    | .prometheus => gatedBackend host "prometheus" do
      required cfg.prometheus
        "[metrics_backend.prometheus] is required when active = \"prometheus\""
      return host.metrics.prometheus
    | .otel => gatedBackend host "otel" do
      let serviceName ← required cfg.otel
        "[metrics_backend.otel] service_name is required when active = \"otel\""
      return host.metrics.otel serviceName
    | .sqlite => .error (.startFailed (sqliteUnsupported "metrics_backend" "with_metrics_provider"))

def buildTracerProvider (cfg : Option TracerBackendConfig) :
    Except RuntimeError Platform.TracerProvider :=
  match cfg with
  | none => .ok host.tracers.default
  | some cfg =>
    match cfg.active with
    | .memory => .ok host.tracers.default
    | .file => do
      let path ← required cfg.file "[tracer_backend.file] path is required when active = \"file\""
      return host.tracers.file path
    | .jaeger => do
      let settings ← required cfg.jaeger
        "[tracer_backend.jaeger] endpoint is required when active = \"jaeger\""
      return host.tracers.jaeger settings.1 settings.2
    | .otel => do
      let serviceName ← required cfg.otel
        "[tracer_backend.otel] service_name is required when active = \"otel\""
      return host.tracers.otel serviceName
    | .sqlite => .error (.startFailed (sqliteUnsupported "tracer_backend" "with_tracer_provider"))

def buildLogBackend (cfg : Option LogBackendConfig) : Except RuntimeError Platform.LoggerProvider :=
  match cfg with
  | none => .ok host.loggers.localBackend
  | some cfg =>
    match cfg.active with
    | .memory => .ok host.loggers.localBackend
    | .file => do
      let settings ← required cfg.file "[log_backend.file] path is required when active = \"file\""
      return host.loggers.file settings.1 settings.2
    | .elk => do
      let index ← required cfg.elk
        "[log_backend.elk] endpoint/index is required when active = \"elk\""
      return host.loggers.elk index
    | .otel => do
      let serviceName ← required cfg.otel
        "[log_backend.otel] service_name is required when active = \"otel\""
      return host.loggers.otel serviceName
    | .sqlite => .error (.startFailed (sqliteUnsupported "log_backend" "with_log_drain_backend"))

/-- The configuration: the builder's own, or else the one the loader finds. -/
def resolveConfig : Except RuntimeError RuntimeConfig :=
  match self.config with
  | some c => .ok c
  | none =>
    ((ApplicationConfigLoader.xdg host.env (self.appName.getD "swe-edge")).load host.loader
      host.env).mapError fun e => .startFailed e.text

variable (config : RuntimeConfig)

/-- The tracing settings: the builder's own, or else those of the configuration. -/
def resolveTracing : Option Platform.TracingConfig :=
  if host.features.observability then
    self.tracingConfig.or (config.observability.map Platform.observabilityTracing)
  else none

/-- The verifier of a configuration. -/
def verifierOfConfig : Except RuntimeError (Option Platform.TokenVerifier) :=
  match config.httpAuth with
  | some auth => startFailed ((host.jwtVerifier auth).map some)
  | none => .ok none

/-- The bearer verifier: the builder's own, or else that of the configuration. -/
def resolveVerifier : Except RuntimeError (Option Platform.TokenVerifier) :=
  match self.httpBearerVerifier with
  | some v => .ok (some v)
  | none => verifierOfConfig host config

/-- The metrics provider, if the scrape endpoint is configured. -/
def resolveMetrics : Except RuntimeError (Option MetricsProvider) :=
  match config.metrics with
  | none => .ok none
  | some _ =>
    match self.metricsProvider with
    | some p => .ok (some p)
    | none => (buildMetricsProvider host config.metricsBackend).map some

/-- The tracer: the builder's own, or else that of the configuration. -/
def resolveTracer : Except RuntimeError Platform.TracerProvider :=
  match self.tracerProvider with
  | some p => .ok p
  | none => buildTracerProvider host config.tracerBackend

/-- The log backend: the builder's own, or else that of the configuration. -/
def resolveLog : Except RuntimeError Platform.LoggerProvider :=
  match self.logDrainBackend with
  | some b => .ok b
  | none => buildLogBackend host config.logBackend

/-- The observer of every dispatched request. Both backends are built even when
an override of the observer makes them pointless. -/
def resolveObserver (metrics : Option MetricsProvider) :
    Except RuntimeError Platform.ObserverContext :=
  if host.features.observability then do
    let tracer ← self.resolveTracer host config
    let log ← self.resolveLog host config
    return self.observerContextOverride.getD (host.observerContext tracer log metrics)
  else .ok host.noopObserver

/-- The ingress: a job wins over a handler of its transport. -/
def assembleIngress (observer : Platform.ObserverContext) : Ingress σ α where
  http := match self.httpJob with
    | some job => some (HttpIngressJob.ingress host.httpJob ⟨job, observer⟩)
    | none => self.httpHandler.map (·.ingress σ)
  grpc := match self.grpcJob with
    | some job => some (GrpcIngressJob.ingress host.grpcRegistry ⟨job, observer⟩)
    | none => self.grpcHandler.map (·.ingress σ)

/-- The HTTP client: the builder's own, or else that of the configuration, or
else the default one. -/
def resolveEgressHttp : Except RuntimeError (Except String Unit) :=
  match self.egressHttp with
  | some h => .ok h
  | none =>
    match config.egressHttp with
    | some cfg => startFailed (host.httpEgressWithConfig cfg)
    | none => startFailed host.defaultHttpEgress

/-- The gRPC client, if the builder or the configuration has one. -/
def resolveEgressGrpc : Except RuntimeError (Option (Except String Unit)) :=
  match self.egressGrpc with
  | some g => .ok (some g)
  | none =>
    match config.egressGrpc with
    | some cfg => startFailed ((host.grpcTransport cfg).map some)
    | none => .ok none

/-- The intrusion wiring: the builder's own, or else that of the configuration. -/
def resolveIntrusion : Except RuntimeError (Option (Wired σ)) :=
  if host.features.intrusion then
    match self.intrusion with
    | some wired => .ok (some wired)
    | none =>
      match config.intrusion with
      | some cfg => startFailed ((host.buildIntrusion cfg).map some)
      | none => .ok none
  else .ok none

/-- The ids the reflection service lists, when reflection is enabled and there is
a gRPC job to list. -/
def reflectionRouteLister : Option (List String) :=
  if config.grpcReflection then self.grpcJob.map (·.listRouteIds host.grpcRegistry) else none

/-- The methods declared with a streaming kind. -/
def grpcRouteIds : List String :=
  match self.grpcJob with
  | some job => job.listRouteIds host.grpcRegistry
  | none => []

/-- What `serve` has resolved before it spawns a server. -/
structure Assembly (σ α : Type) where
  config : RuntimeConfig
  verifier : Option Platform.TokenVerifier
  metrics : Option MetricsProvider
  ingress : Ingress σ α
  egress : Egress
  intrusion : Option (Wired σ)

/-- The text of an assembly without any ingress. -/
def noHandler : String := "Runtime: no handler registered — call .http_route() or .grpc_route()"

/-- `serve`, up to the servers. -/
def assemble : Assembling σ α (Assembly σ α) := do
  let config ← Effects.ofExcept (self.resolveConfig host)
  Effects.tellAll ((self.resolveTracing host config).map .tracingInitialised).toList
  let verifier ← Effects.ofExcept (self.resolveVerifier host config)
  let metrics ← Effects.ofExcept (self.resolveMetrics host config)
  Effects.tellAll (metrics.map fun _ => .samplerSpawned config.autoscale).toList
  let observer ← Effects.ofExcept (self.resolveObserver host config metrics)
  let ingress := self.assembleIngress host observer
  Effects.ofExcept (if ingress.hasAny then .ok () else .error (.startFailed noHandler))
  let http ← Effects.ofExcept (self.resolveEgressHttp host config)
  let grpc ← Effects.ofExcept (self.resolveEgressGrpc host config)
  let intrusion ← Effects.ofExcept (self.resolveIntrusion host config)
  return { config, verifier, metrics, ingress, egress := ⟨http, grpc⟩, intrusion }

/-- An option of the gRPC server, unless the transport refuses it. -/
def option (refused : Option String) (settings : GrpcServerSettings) :
    Except RuntimeError GrpcServerSettings :=
  match refused with
  | some e => .error (.startFailed e)
  | none => .ok settings

def withStreamingKind (server : GrpcServerSettings) (method : String) (kind : StreamingKind) :
    Except RuntimeError GrpcServerSettings :=
  option (host.grpcServer.streamingKindError server method kind)
    { server with streamingKinds := (method, kind) :: server.streamingKinds }

/-- `with_tls`, if there is a certificate. -/
def withTls (server : GrpcServerSettings) (tls : Option Platform.PemTlsConfig) :
    Except RuntimeError GrpcServerSettings :=
  match tls with
  | some tls => option (host.grpcServer.tlsError server tls) { server with tls := some tls }
  | none => .ok server

/-- `with_interceptors`, if there are any. -/
def withInterceptors (server : GrpcServerSettings) (chain : List Platform.GrpcInterceptor) :
    Except RuntimeError GrpcServerSettings :=
  if chain.isEmpty then .ok server
  else option (host.grpcServer.interceptorsError server chain) { server with interceptors := chain }

/-- `allow_unauthenticated`, if it is asked for. -/
def allowUnauthenticated (server : GrpcServerSettings) (allow : Bool) :
    Except RuntimeError GrpcServerSettings :=
  if allow then
    option (host.grpcServer.allowUnauthenticatedError server)
      { server with allowUnauthenticated := true }
  else .ok server

/-- The options of the gRPC server, in the order they are set. -/
def grpcSettings : Except RuntimeError GrpcServerSettings := do
  let server ← (self.grpcRouteIds host).foldlM (withStreamingKind host · · .unary)
    { bind := config.grpcBind }
  let server ← if (self.reflectionRouteLister host config).isSome then
      withStreamingKind host server host.reflectionInfoMethod .bidiStream
    else .ok server
  let server ← withTls host server (self.grpcTls.or config.grpcTls)
  let server ← withInterceptors host server self.grpcInterceptors
  allowUnauthenticated host server
    (self.grpcAllowUnauthenticated || config.grpcAllowUnauthenticated)

variable [Clock α] (a : Assembly σ α)

/-- The HTTP handler inside its wrappers: the guard is outermost, so a request it
rejects is not counted. -/
def httpStack (handler : HttpIngress σ α) : HttpIngress σ α :=
  let handler := if a.metrics.isSome then HttpLoadMonitor handler else handler
  match a.intrusion with
  | some wired => HttpIntrusionGuard handler wired
  | none => handler

/-- The HTTP server. The stream handler is attached as it is. -/
def httpServer (handler : HttpIngress σ α) : HttpServer σ α where
  bind := a.config.httpBind
  handler := httpStack a handler
  tls := self.httpTls.or a.config.httpTls
  bearerAuth := a.verifier
  streamHandler := self.streamHandler.map (·.stream σ)

/-- The reflection service over a list of ids. -/
def reflectionService (ids : List String) : GrpcIngress σ α :=
  GrpcIngress.reflectionService σ α (host.reflection ids).unary (host.reflection ids).stream
    (host.reflection ids).health

/-- The gRPC handler inside its wrappers: the guard covers reflection too. -/
def grpcStack (handler : GrpcIngress σ α) : GrpcIngress σ α :=
  let handler := if a.metrics.isSome then GrpcLoadMonitor handler else handler
  let handler := match self.reflectionRouteLister host a.config with
    | some ids => CompositeGrpcIngress.ingress ⟨handler, reflectionService host ids⟩
    | none => handler
  match a.intrusion with
  | some wired => GrpcIntrusionGuard handler wired
  | none => handler

/-- The gRPC server, unless the transport refuses one of its options. -/
def grpcServer (handler : GrpcIngress σ α) : Except RuntimeError (GrpcServer σ α) :=
  (self.grpcSettings host a.config).map fun settings => ⟨settings, self.grpcStack host a handler⟩

/-- The metrics server, if the scrape endpoint is configured. -/
def metricsServer : Option (HttpServer σ α) :=
  match a.config.metrics, a.metrics with
  | some m, some provider => some { bind := m.bind, handler := MetricsHandler.ingress ⟨provider, m.path⟩ }
  | _, _ => none

/-- The manager; it is given the ingress without its wrappers. -/
def manager : DefaultRuntimeManager σ α where
  config := a.config
  ingress := a.ingress
  egress := a.egress
  lifecycle := self.lifecycle.getD host.nullLifecycle
  messageBroker := if host.features.messageBroker then self.messageBroker else none

/-- Whether a scheduler runs. -/
def hasScheduler : Bool := host.features.scheduler && self.scheduler.isSome

/-- The spawned tasks that are joined. -/
def joined : List Task :=
  (if a.ingress.http.isSome then [.http] else []) ++ (if a.ingress.grpc.isSome then [.grpc] else []) ++
    (if (metricsServer a).isSome then [.metrics] else [])

/-- `serve`, from the scheduler on. -/
def supervise : Assembling σ α Unit := do
  if self.hasScheduler host then
    Effects.ofExcept (startFailed (host.spawnSchedulerThread.mapError
      ("spawn scheduler thread: " ++ ·)))
    Effects.tell .schedulerSpawned
  let result ← Effects.attempt
    (DaemonRunner.runUntilSignal host (self.manager host a) a.config.shutdownTimeoutSecs)
  stop ([.http, .grpc] ++ if (metricsServer a).isSome then [.metrics] else [])
  join (joined a)
  if self.hasScheduler host then
    stop [.scheduler]
    join [.scheduler]
  Effects.ofExcept result

def serve : Assembling σ α Unit := do
  let a ← self.assemble host
  spawnServers (a.ingress.http.map (self.httpServer a)) (a.ingress.grpc.map (self.grpcServer host a))
    (metricsServer a)
  self.supervise host a

end RuntimeBuilder

end EdgeBootstrap
