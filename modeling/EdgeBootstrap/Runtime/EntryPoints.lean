import EdgeBootstrap.Runtime.MethodCoverage

/-! The two entry points over one configuration. `serve` wraps the ingress it is
given and `run` does not, so their servers agree as far as the wrappers change
nothing; and `serve` has steps to fail in that `run` does not make. -/
namespace EdgeBootstrap

section
variable [Platform] {σ α : Type}

/-- The servers are configured alike, and answer and count every request alike. -/
structure HttpServer.Agrees (s t : HttpServer σ α) : Prop where
  bind : s.bind = t.bind
  tls : s.tls = t.tls
  bearerAuth : s.bearerAuth = t.bearerAuth
  reply : ∀ inbound w, (s.dispatch inbound).value w = (t.dispatch inbound).value w
  counters : ∀ inbound w,
    ((s.dispatch inbound).state w).counters = ((t.dispatch inbound).state w).counters

/-- The servers are configured alike, and answer and count every call alike. -/
structure GrpcServer.Agrees (s t : GrpcServer σ α) : Prop where
  bind : s.bind = t.bind
  tls : s.tls = t.tls
  interceptors : s.interceptors = t.interceptors
  allowUnauthenticated : s.allowUnauthenticated = t.allowUnauthenticated
  reply : ∀ inbound w, (s.dispatch inbound).value w = (t.dispatch inbound).value w
  counters : ∀ inbound w,
    ((s.dispatch inbound).state w).counters = ((t.dispatch inbound).state w).counters

/-- Every server of one assembly agrees with one of the other, of the same kind. -/
structure SameServers (served ran : List (RuntimeEvent σ α)) : Prop where
  http_served : ∀ s, .httpSpawned s ∈ served → ∃ t, .httpSpawned t ∈ ran ∧ s.Agrees t
  http_ran : ∀ t, .httpSpawned t ∈ ran → ∃ s, .httpSpawned s ∈ served ∧ s.Agrees t
  grpc_served : ∀ s, .grpcSpawned s ∈ served → ∃ t, .grpcSpawned t ∈ ran ∧ s.Agrees t
  grpc_ran : ∀ t, .grpcSpawned t ∈ ran → ∃ s, .grpcSpawned s ∈ served ∧ s.Agrees t
  metrics_served : ∀ s, .metricsSpawned s ∈ served → ∃ t, .metricsSpawned t ∈ ran ∧ s.Agrees t
  metrics_ran : ∀ t, .metricsSpawned t ∈ ran → ∃ s, .metricsSpawned s ∈ served ∧ s.Agrees t

/-- Entry points that spawn nothing agree. -/
theorem SameServers.of_unspawned {served ran : List (RuntimeEvent σ α)}
    (unserved : ∀ event, event.SpawnsServer → event ∉ served)
    (unran : ∀ event, event.SpawnsServer → event ∉ ran) : SameServers served ran where
  http_served _ spawned := absurd spawned (unserved _ trivial)
  http_ran _ spawned := absurd spawned (unran _ trivial)
  grpc_served _ spawned := absurd spawned (unserved _ trivial)
  grpc_ran _ spawned := absurd spawned (unran _ trivial)
  metrics_served _ spawned := absurd spawned (unserved _ trivial)
  metrics_ran _ spawned := absurd spawned (unran _ trivial)

/-- A server without a stream handler dispatches every request to its handler. -/
theorem HttpServer.dispatch_of_no_stream (server : HttpServer σ α)
    (unset : server.streamHandler = none) (inbound : HttpInbound) :
    server.dispatch inbound = HttpReply.response <$> server.handler.handle inbound.request := by
  cases inbound with
  | plain req => rfl
  | sse req => simp only [dispatch, unset, HttpInbound.request]
  | websocket req channel => simp only [dispatch, unset, HttpInbound.request]

/-- A call of an undeclared method does nothing. -/
theorem GrpcServer.dispatch_of_undeclared {server : GrpcServer σ α} {inbound : GrpcInbound}
    (undeclared : ¬ server.Declares inbound.method) :
    server.dispatch inbound = pure .undeclared := by
  cases inbound with
  | unary req => exact if_neg undeclared
  | stream req => exact if_neg undeclared

omit [Platform] in
/-- A request that is recorded changes the counters. -/
theorem TrafficCounters.withRequest_ne (c : TrafficCounters) (latencyUs : UInt64) (isError : Bool) :
    c.withRequest latencyUs isError ≠ c := by
  intro same
  have counted : c.requestsSinceTick + 1 = c.requestsSinceTick :=
    congrArg TrafficCounters.requestsSinceTick same
  simp at counted

section Agreeing
variable [Clock α] (host : Host σ α) (config : RuntimeConfig) (h : AppHttpIngress α)
  (g : AppGrpcIngress α) (egress : Egress) (lifecycle : LifecycleMonitor)

/-- The builder that hands to `serve` what `run` is given. -/
def RuntimeBuilder.ofParts : RuntimeBuilder σ α where
  config := some config
  httpHandler := some h
  grpcHandler := some g
  egressHttp := some egress.http
  egressGrpc := egress.grpc
  lifecycle := some lifecycle

/-- The entry points spawn servers that agree. -/
def EntryPointsAgree : Prop :=
  SameServers ((RuntimeBuilder.ofParts config h g egress lifecycle).serve host).events
    (Runtime.run host config ⟨some (h.ingress σ), some (g.ingress σ)⟩ egress lifecycle).events

/-- The intrusion detection of the configuration is built, and rejects the request. -/
def ConfigRejects (req : InboundRequest) (w : World σ α) (verdict : Verdict) : Prop :=
  host.features.intrusion = true ∧ ∃ cfg wired, config.intrusion = some cfg ∧
    host.buildIntrusion cfg = .ok wired ∧
    (wired.guard (wired.httpEvent req (Clock.micros w.app)) w.enforcer).1 = .reject verdict

/-- No request shows that it is guarded or counted: whatever is rejected, the
ingress would have rejected with the same text, and if there are metrics to record
then everything is rejected. -/
def Unnoticed : Prop :=
  ∀ req w, (∀ verdict, ConfigRejects host config req w verdict →
      (h.handle req w.app).1 = .error (.permissionDenied verdict.blocked)) ∧
    (config.metrics ≠ none → ∃ verdict, ConfigRejects host config req w verdict)

/-- A metrics server, which only `serve` has, is not set up; or both are refused for
a gRPC option before it is. -/
def NoMetricsServer : Prop :=
  config.metrics ≠ none → host.grpcServer.Refuses config.grpcBind (Runtime.grpcOptions config)

/-- One of the steps that only `serve` makes fails. -/
def ServeStops : Prop :=
  let builder : RuntimeBuilder σ α := .ofParts config h g egress lifecycle
  builder.MetricsFails host config ∨ builder.ObserverFails host config ∨
    builder.EgressGrpcFails host config ∨ builder.IntrusionFails host config

variable {host config h g egress lifecycle}

/-- What the guard of an assembly of these parts rejects is what the configuration
rejects. -/
theorem configRejects_iff {a : RuntimeBuilder.Assembly σ α}
    (assembled : (RuntimeBuilder.ofParts config h g egress lifecycle).Resolved host a)
    (req : InboundRequest) (w : World σ α) (verdict : Verdict) :
    ConfigRejects host config req w verdict ↔
      (screen a.intrusion (·.httpEvent req) w).1 = .reject verdict := by
  have resolved := assembled.intrusion
  rw [assembled.config_eq rfl] at resolved
  unfold RuntimeBuilder.resolveIntrusion at resolved
  unfold ConfigRejects
  cases enabled : host.features.intrusion with
  | false =>
    rw [enabled] at resolved
    rw [← Except.ok.inj resolved]
    simp [screen]
  | true =>
    rw [enabled] at resolved
    cases present : config.intrusion with
    | none =>
      simp only [if_true, RuntimeBuilder.ofParts, present] at resolved
      rw [← Except.ok.inj resolved]
      simp [screen]
    | some cfg =>
      simp only [if_true, RuntimeBuilder.ofParts, present] at resolved
      cases built : host.buildIntrusion cfg with
      | error e =>
        rw [built] at resolved
        cases resolved
      | ok wired =>
        rw [built] at resolved
        rw [← Except.ok.inj resolved]
        simp [screen, built]

/-- The stack of an assembly of these parts treats a request as the bare ingress
does exactly when it shows neither guard nor monitor. -/
theorem request_alike_iff {a : RuntimeBuilder.Assembly σ α}
    (assembled : (RuntimeBuilder.ofParts config h g egress lifecycle).Resolved host a)
    (req : InboundRequest) (w : World σ α) :
    (((RuntimeBuilder.httpStack a (h.ingress σ)).handle req).value w = (h.handle req w.app).1 ∧
      (((RuntimeBuilder.httpStack a (h.ingress σ)).handle req).state w).counters = w.counters) ↔
    (∀ verdict, ConfigRejects host config req w verdict →
        (h.handle req w.app).1 = .error (.permissionDenied verdict.blocked)) ∧
      (config.metrics ≠ none → ∃ verdict, ConfigRejects host config req w verdict) := by
  have stack := RuntimeBuilder.httpStack_transparent a (h.ingress σ) req
  have metrics : a.metrics.isSome = config.metrics.isSome := by
    rw [assembled.metrics_isSome, assembled.config_eq rfl]
  simp only [configRejects_iff assembled]
  rcases decided : screen a.intrusion (·.httpEvent req) w with ⟨decision, enforcer, consulted⟩
  cases decision with
  | reject verdict =>
    obtain ⟨value, _, state⟩ := stack.rejected w verdict enforcer consulted decided
    rw [value, state]
    simp [eq_comm]
  | allow =>
    obtain ⟨_, latencyUs, counters⟩ :=
      stack.recorded (h.staysInApp req) w enforcer consulted decided
    have value : ((RuntimeBuilder.httpStack a (h.ingress σ)).handle req).value w =
        (h.handle req w.app).1 := (stack.allowed w enforcer consulted decided).value
    rw [counters, metrics]
    cases config.metrics with
    | none => simp [value]
    | some m => simp [TrafficCounters.withRequest_ne]

/-- The HTTP servers agree exactly when no request shows guard or monitor. -/
theorem http_agrees_iff {a : RuntimeBuilder.Assembly σ α}
    (assembled : (RuntimeBuilder.ofParts config h g egress lifecycle).Resolved host a) :
    ((RuntimeBuilder.ofParts config h g egress lifecycle).httpServer a (h.ingress σ)).Agrees
        (Runtime.httpServer config a.verifier (h.ingress σ)) ↔ Unnoticed host config h := by
  have served := HttpServer.dispatch_of_no_stream
    ((RuntimeBuilder.ofParts config h g egress lifecycle).httpServer a (h.ingress σ)) rfl
  have ran := HttpServer.dispatch_of_no_stream
    (Runtime.httpServer config a.verifier (h.ingress σ)) rfl
  have same : a.config = config := assembled.config_eq rfl
  constructor
  · intro agrees req w
    have reply := agrees.reply (.plain req) w
    have counters := agrees.counters (.plain req) w
    rw [served, ran] at reply counters
    exact (request_alike_iff assembled req w).mp ⟨HttpReply.response.inj reply, counters⟩
  · intro unnoticed
    have alike : ∀ req w, _ := fun req w => (request_alike_iff assembled req w).mpr (unnoticed req w)
    constructor
    · exact congrArg RuntimeConfig.httpBind same
    · exact congrArg RuntimeConfig.httpTls same
    · rfl
    · intro inbound w
      rw [served, ran]
      exact congrArg HttpReply.response (alike inbound.request w).1
    · intro inbound w
      rw [served, ran]
      exact (alike inbound.request w).2

omit [Clock α] in
/-- Without a job the two entry points set the same gRPC options. -/
theorem grpcSettings_ofParts :
    (RuntimeBuilder.ofParts config h g egress lifecycle).grpcSettings host config =
      Runtime.grpcSettings host config := by
  have unlisted :
      (RuntimeBuilder.ofParts config h g egress lifecycle).reflectionRouteLister host config =
        none := by
    unfold RuntimeBuilder.reflectionRouteLister
    split
    · rfl
    · rfl
  unfold RuntimeBuilder.grpcSettings
  rw [unlisted]
  rfl

/-- The gRPC servers agree: neither declares a method, so both answer every call
`Unimplemented`. -/
theorem grpc_agrees {a : RuntimeBuilder.Assembly σ α} {settings : GrpcServerSettings}
    (set : Runtime.grpcSettings host config = .ok settings) :
    GrpcServer.Agrees
      ⟨settings, (RuntimeBuilder.ofParts config h g egress lifecycle).grpcStack host a (g.ingress σ)⟩
      ⟨settings, g.ingress σ⟩ := by
  have undeclared : ∀ inbound : GrpcInbound, ¬ settings.Declares inbound.method :=
    fun inbound => Runtime.not_declares set inbound.method
  constructor
  · rfl
  · rfl
  · rfl
  · rfl
  · intro inbound w
    rw [GrpcServer.dispatch_of_undeclared (undeclared inbound),
      GrpcServer.dispatch_of_undeclared (undeclared inbound)]
  · intro inbound w
    rw [GrpcServer.dispatch_of_undeclared (undeclared inbound),
      GrpcServer.dispatch_of_undeclared (undeclared inbound)]

section Spawned
variable {a : RuntimeBuilder.Assembly σ α} {verifier : Option Platform.TokenVerifier}

omit [Clock α] in
/-- A metrics server is set up when the scrape endpoint is configured. -/
theorem metricsServer_iff
    (assembled : (RuntimeBuilder.ofParts config h g egress lifecycle).Resolved host a) :
    (∃ s, RuntimeBuilder.metricsServer a = some s) ↔ config.metrics ≠ none := by
  have same : a.config = config := assembled.config_eq rfl
  have isSome := assembled.metrics_isSome
  rw [same] at isSome
  unfold RuntimeBuilder.metricsServer
  rw [same]
  cases present : config.metrics with
  | none => simp
  | some m =>
    rw [present] at isSome
    obtain ⟨provider, provides⟩ := Option.isSome_iff_exists.mp isSome
    simp [provides]

omit [Clock α] in
/-- The ingress of an assembly of these parts. -/
theorem ingress_ofParts
    (assembled : (RuntimeBuilder.ofParts config h g egress lifecycle).Resolved host a) :
    a.ingress = ⟨some (h.ingress σ), some (g.ingress σ)⟩ := by
  obtain ⟨observer, ingress⟩ := assembled.ingress
  exact ingress

/-- The gRPC server is built unless one of its options is refused. -/
theorem grpcServer_built_iff
    (assembled : (RuntimeBuilder.ofParts config h g egress lifecycle).Resolved host a) :
    (∀ e, a.ingress.grpc.map
      ((RuntimeBuilder.ofParts config h g egress lifecycle).grpcServer host a) ≠ some (.error e)) ↔
      ¬ host.grpcServer.Refuses config.grpcBind (Runtime.grpcOptions config) := by
  have same : a.config = config := assembled.config_eq rfl
  have exact := Runtime.grpcSettings_exactly host config
  rw [ingress_ofParts assembled, Option.map_some, RuntimeBuilder.grpcServer, same,
    grpcSettings_ofParts]
  cases set : Runtime.grpcSettings host config with
  | error e =>
    rw [set] at exact
    simp [Except.map, exact.1]
  | ok settings =>
    rw [set] at exact
    have accepted : ¬ _ := exact
    simp [Except.map, accepted]

/-- The HTTP server that `serve` spawns. -/
theorem http_served_iff {s : HttpServer σ α}
    (assembled : ((RuntimeBuilder.ofParts config h g egress lifecycle).assemble host).result = .ok a) :
    .httpSpawned s ∈ ((RuntimeBuilder.ofParts config h g egress lifecycle).serve host).events ↔
      (RuntimeBuilder.ofParts config h g egress lifecycle).httpServer a (h.ingress σ) = s := by
  rw [RuntimeBuilder.mem_serve_iff (by trivial), assembled]
  simp [http_mem_spawnServers, ingress_ofParts (RuntimeBuilder.assemble_resolved assembled)]

/-- The gRPC server that `serve` spawns has the options that `run` sets. -/
theorem grpc_served_iff {s : GrpcServer σ α}
    (assembled : ((RuntimeBuilder.ofParts config h g egress lifecycle).assemble host).result = .ok a) :
    .grpcSpawned s ∈ ((RuntimeBuilder.ofParts config h g egress lifecycle).serve host).events ↔
      ∃ settings, Runtime.grpcSettings host config = .ok settings ∧ ⟨settings,
        (RuntimeBuilder.ofParts config h g egress lifecycle).grpcStack host a (g.ingress σ)⟩ = s := by
  have resolved := RuntimeBuilder.assemble_resolved assembled
  have same : a.config = config := resolved.config_eq rfl
  have options : (RuntimeBuilder.ofParts config h g egress lifecycle).grpcSettings host config =
      Runtime.grpcSettings host config := grpcSettings_ofParts
  rw [RuntimeBuilder.mem_serve_iff (by trivial), assembled]
  simp [grpc_mem_spawnServers, ingress_ofParts resolved, RuntimeBuilder.grpcServer,
    Except.map_eq_ok, same, options]

/-- A metrics server is spawned when it is set up and the gRPC server was built. -/
theorem metrics_spawned_iff
    (assembled : ((RuntimeBuilder.ofParts config h g egress lifecycle).assemble host).result = .ok a) :
    (∃ s, .metricsSpawned s ∈
      ((RuntimeBuilder.ofParts config h g egress lifecycle).serve host).events) ↔
      ¬ NoMetricsServer host config := by
  have resolved := RuntimeBuilder.assemble_resolved assembled
  unfold NoMetricsServer
  rw [Classical.not_imp, ← metricsServer_iff resolved, ← grpcServer_built_iff resolved]
  constructor
  · rintro ⟨s, emitted⟩
    obtain ⟨b, other, spawned⟩ := (RuntimeBuilder.mem_serve_iff (by trivial)).mp emitted
    cases assembled.symm.trans other
    exact ⟨⟨s, (metrics_mem_spawnServers.mp spawned).1⟩, (metrics_mem_spawnServers.mp spawned).2⟩
  · rintro ⟨⟨s, present⟩, accepted⟩
    exact ⟨s, (RuntimeBuilder.mem_serve_iff (by trivial)).mpr
      ⟨a, assembled, metrics_mem_spawnServers.mpr ⟨present, accepted⟩⟩⟩

omit [Clock α] in
/-- The HTTP server that `run` spawns. -/
theorem http_ran_iff {t : HttpServer σ α}
    (verified : RuntimeBuilder.verifierOfConfig host config = .ok verifier) :
    .httpSpawned t ∈
      (Runtime.run host config ⟨some (h.ingress σ), some (g.ingress σ)⟩ egress lifecycle).events ↔
      Runtime.httpServer config verifier (h.ingress σ) = t := by
  rw [Runtime.mem_run_iff (by trivial), verified]
  simp [http_mem_spawnServers]

omit [Clock α] in
/-- The gRPC server that `run` spawns. -/
theorem grpc_ran_iff {t : GrpcServer σ α}
    (verified : RuntimeBuilder.verifierOfConfig host config = .ok verifier) :
    .grpcSpawned t ∈
      (Runtime.run host config ⟨some (h.ingress σ), some (g.ingress σ)⟩ egress lifecycle).events ↔
      ∃ settings, Runtime.grpcSettings host config = .ok settings ∧
        ⟨settings, g.ingress σ⟩ = t := by
  rw [Runtime.mem_run_iff (by trivial), verified]
  simp [grpc_mem_spawnServers, Runtime.grpcServer, Except.map_eq_ok]

omit [Clock α] in
/-- `run` spawns no metrics server. -/
theorem metrics_not_ran (t : HttpServer σ α) : .metricsSpawned t ∉
    (Runtime.run host config ⟨some (h.ingress σ), some (g.ingress σ)⟩ egress lifecycle).events := by
  intro spawned
  obtain ⟨_, _, spawned⟩ := (Runtime.mem_run_iff (by trivial)).mp spawned
  cases (metrics_mem_spawnServers.mp spawned).1

end Spawned

/-- An assembly of these parts spawns the servers of `run`, inside their stacks. -/
theorem sameServers_iff {a : RuntimeBuilder.Assembly σ α}
    (assembled : ((RuntimeBuilder.ofParts config h g egress lifecycle).assemble host).result = .ok a) :
    EntryPointsAgree host config h g egress lifecycle ↔
      Unnoticed host config h ∧ NoMetricsServer host config := by
  have resolved := RuntimeBuilder.assemble_resolved assembled
  have verified : RuntimeBuilder.verifierOfConfig host config = .ok a.verifier := by
    have verifier := resolved.verifier
    rw [show a.config = config from resolved.config_eq rfl] at verifier
    exact verifier
  rw [← http_agrees_iff resolved]
  constructor
  · intro agree
    constructor
    · obtain ⟨t, spawned, agrees⟩ := agree.http_served _ ((http_served_iff assembled).mpr rfl)
      cases (http_ran_iff verified).mp spawned
      exact agrees
    · by_contra scraped
      obtain ⟨s, spawned⟩ := (metrics_spawned_iff assembled).mpr scraped
      obtain ⟨t, ran, _⟩ := agree.metrics_served s spawned
      exact metrics_not_ran t ran
  · rintro ⟨agrees, unscraped⟩
    constructor
    · intro s spawned
      cases (http_served_iff assembled).mp spawned
      exact ⟨_, (http_ran_iff verified).mpr rfl, agrees⟩
    · intro t spawned
      cases (http_ran_iff verified).mp spawned
      exact ⟨_, (http_served_iff assembled).mpr rfl, agrees⟩
    · intro s spawned
      obtain ⟨settings, set, rfl⟩ := (grpc_served_iff assembled).mp spawned
      exact ⟨_, (grpc_ran_iff verified).mpr ⟨settings, set, rfl⟩, grpc_agrees set⟩
    · intro t spawned
      obtain ⟨settings, set, rfl⟩ := (grpc_ran_iff verified).mp spawned
      exact ⟨_, (grpc_served_iff assembled).mpr ⟨settings, set, rfl⟩, grpc_agrees set⟩
    · intro s spawned
      exact absurd unscraped ((metrics_spawned_iff assembled).mp ⟨s, spawned⟩)
    · intro t ran
      exact absurd ran (metrics_not_ran t)

omit [Clock α] in
/-- The assembly of these parts stops for the verifier, or in a step that only
`serve` makes. -/
theorem assemblyStops_ofParts :
    (RuntimeBuilder.ofParts config h g egress lifecycle).AssemblyStops host config ↔
      RuntimeBuilder.VerifierFails host config ∨
        ServeStops host config h g egress lifecycle := by
  have handled : ¬ ((RuntimeBuilder.ofParts config h g egress lifecycle : RuntimeBuilder σ α).NoHttp ∧
      (RuntimeBuilder.ofParts config h g egress lifecycle : RuntimeBuilder σ α).NoGrpc) := by
    rintro ⟨⟨_, absent⟩, _⟩
    cases absent
  have client : ¬ (RuntimeBuilder.ofParts config h g egress lifecycle).EgressHttpFails host config := by
    rintro ⟨absent, _⟩
    cases absent
  have verifier : ((RuntimeBuilder.ofParts config h g egress lifecycle :
      RuntimeBuilder σ α).httpBearerVerifier = none ∧ RuntimeBuilder.VerifierFails host config) ↔
      RuntimeBuilder.VerifierFails host config := and_iff_right rfl
  unfold RuntimeBuilder.AssemblyStops ServeStops
  simp only [handled, client, verifier, false_or]

/-- The entry points agree exactly when both are refused for the bearer verifier,
or when no step that only `serve` makes fails, no HTTP request shows the guard or
the monitor that only `serve` puts around the ingress, and there is no metrics
server. -/
theorem entry_points_agree_iff :
    EntryPointsAgree host config h g egress lifecycle ↔
      RuntimeBuilder.VerifierFails host config ∨
        (¬ ServeStops host config h g egress lifecycle ∧ Unnoticed host config h ∧
          NoMetricsServer host config) := by
  have exact := RuntimeBuilder.assemble_exactly
    (show (RuntimeBuilder.ofParts config h g egress lifecycle).resolveConfig host = .ok config from rfl)
  have verified := RuntimeBuilder.verifierOfConfig_exactly host config
  cases finished : ((RuntimeBuilder.ofParts config h g egress lifecycle).assemble host).result with
  | ok a =>
    rw [finished] at exact
    have going : ¬ _ := exact
    rw [assemblyStops_ofParts, not_or] at going
    rw [sameServers_iff finished]
    simp [going.1, going.2]
  | error e =>
    rw [finished] at exact
    have stopped := assemblyStops_ofParts.mp exact.1
    have unspawned : ∀ event, event.SpawnsServer →
        event ∉ ((RuntimeBuilder.ofParts config h g egress lifecycle).serve host).events := by
      intro event spawns emitted
      obtain ⟨a, assembled, _⟩ := (RuntimeBuilder.mem_serve_iff spawns).mp emitted
      rw [finished] at assembled
      cases assembled
    constructor
    · intro agree
      cases built : RuntimeBuilder.verifierOfConfig host config with
      | error e =>
        rw [built] at verified
        exact .inl verified.1
      | ok verifier =>
        obtain ⟨s, served, _⟩ := agree.http_ran _ ((http_ran_iff built).mpr rfl)
        exact absurd served (unspawned _ (by trivial))
    · intro refused
      have fails : RuntimeBuilder.VerifierFails host config := by
        rcases refused with fails | ⟨going, _⟩
        · exact fails
        · exact stopped.resolve_right going
      have unran : ∀ event, event.SpawnsServer → event ∉
          (Runtime.run host config ⟨some (h.ingress σ), some (g.ingress σ)⟩ egress
            lifecycle).events := by
        intro event spawns emitted
        obtain ⟨verifier, built, _⟩ := (Runtime.mem_run_iff spawns).mp emitted
        rw [built] at verified
        exact verified fails
      exact .of_unspawned unspawned unran

end Agreeing

end

section
attribute [local instance] Platform.reference

/-- A host whose intrusion detection rejects every request. -/
private def denying : Host Unit Unit :=
  { Host.obliging with
    buildIntrusion := fun _ => .ok
      { extractIp := fun peer _ => peer
        guard := fun _ enforcer => (.reject ⟨"deny-all", "every request is refused"⟩, enforcer) } }

/-- With intrusion detection configured, `serve` rejects a request that `run`
answers. -/
theorem run_ignores_intrusion :
    let config : RuntimeConfig := { RuntimeConfig.default with intrusion := some () }
    let served := ((RuntimeBuilder.ofParts config .empty .empty ⟨.ok (), none⟩
      Host.obliging.nullLifecycle).serve denying).events
    let ran := (Runtime.run denying config ⟨some (AppHttpIngress.empty.ingress Unit),
      some (AppGrpcIngress.empty.ingress Unit)⟩ ⟨.ok (), none⟩ Host.obliging.nullLifecycle).events
    let req : InboundRequest := ⟨⟨.get, "/users", [], none⟩, (), ⟨.v4 0, 0⟩⟩
    (∃ s, .httpSpawned s ∈ served ∧ (s.dispatch (.plain req)).value ⟨(), .new, ()⟩ =
        .response (.error (.permissionDenied
          "blocked by edge-intrusion rule 'deny-all': every request is refused"))) ∧
      (∃ t, .httpSpawned t ∈ ran ∧ (t.dispatch (.plain req)).value ⟨(), .new, ()⟩ =
        .response (.ok (.new 200 []))) ∧
      ¬ EntryPointsAgree denying config .empty .empty ⟨.ok (), none⟩ Host.obliging.nullLifecycle := by
  refine ⟨⟨_, .head _, rfl⟩, ⟨_, .head _, rfl⟩, ?_⟩
  intro agree
  obtain ⟨t, spawned, agrees⟩ := agree.http_served _ (.head _)
  obtain ⟨verifier, built, spawned⟩ := (Runtime.mem_run_iff (by trivial)).mp spawned
  cases http_mem_spawnServers.mp spawned
  have reply := agrees.reply (.plain ⟨⟨.get, "/users", [], none⟩, (), ⟨.v4 0, 0⟩⟩) ⟨(), .new, ()⟩
  cases reply

end

end EdgeBootstrap
