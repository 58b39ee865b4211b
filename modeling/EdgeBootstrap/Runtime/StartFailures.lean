import EdgeBootstrap.Library.Fallible
import EdgeBootstrap.Runtime.Run

/-! When an assembly stops. Each step before the servers fails exactly in the
situation that its lemma names, and only with `StartFailed`; so `assemble` fails
exactly when one of the situations holds, and before it spawned a server. -/
namespace EdgeBootstrap

/-- The error is `StartFailed`. -/
def RuntimeError.IsStartFailed (e : RuntimeError) : Prop := ∃ msg, e = .startFailed msg

@[simp] theorem RuntimeError.isStartFailed (msg : String) : (startFailed msg).IsStartFailed :=
  ⟨msg, rfl⟩

/-- The event sets something up that no server needs. -/
def RuntimeEvent.SetsUp [Platform] {σ α : Type} : RuntimeEvent σ α → Prop
  | .tracingInitialised _ | .samplerSpawned _ => True
  | _ => False

/-- A metrics backend that cannot be built from its settings. -/
def MetricsBackendConfig.Unusable (observability : Bool) (cfg : MetricsBackendConfig) : Prop :=
  match cfg.active with
  | .memory => False
  | .file => observability = false ∨ cfg.file = none
  | .prometheus => observability = false ∨ cfg.prometheus = none
  | .otel => observability = false ∨ cfg.otel = none
  | .sqlite => True

/-- A tracer backend that cannot be built from its settings. -/
def TracerBackendConfig.Unusable (cfg : TracerBackendConfig) : Prop :=
  match cfg.active with
  | .memory => False
  | .file => cfg.file = none
  | .jaeger => cfg.jaeger = none
  | .otel => cfg.otel = none
  | .sqlite => True

/-- A log backend that cannot be built from its settings. -/
def LogBackendConfig.Unusable (cfg : LogBackendConfig) : Prop :=
  match cfg.active with
  | .memory => False
  | .file => cfg.file = none
  | .elk => cfg.elk = none
  | .otel => cfg.otel = none
  | .sqlite => True

/-- Failing exactly when a condition holds, and then with `StartFailed`. -/
abbrev StartFails {β : Type} (Q : Prop) (r : Except RuntimeError β) : Prop :=
  FailsExactly RuntimeError.IsStartFailed Q r

namespace RuntimeBuilder

theorem startFailed_exactly {β : Type} (r : Except String β) :
    StartFails (∃ e, r = .error e) (startFailed r) :=
  .of_mapError RuntimeError.isStartFailed

theorem startFailed_map_exactly {β γ : Type} (f : β → γ) (r : Except String β) :
    StartFails (∃ e, r = .error e) (startFailed (r.map f)) := by
  cases r with
  | error e => exact ⟨⟨e, rfl⟩, ⟨e, rfl⟩⟩
  | ok b => rintro ⟨e, failed⟩; cases failed

theorem required_exactly {β : Type} (setting : Option β) (text : String) :
    StartFails (setting = none) (required setting text) := by
  cases setting with
  | none => exact ⟨rfl, ⟨text, rfl⟩⟩
  | some value => simp [StartFails, required]

variable [Platform] {σ α : Type} (host : Host σ α) (self : RuntimeBuilder σ α)
  (config : RuntimeConfig)

/-- The verifier of the configuration cannot be built. -/
def VerifierFails : Prop :=
  ∃ auth e, config.httpAuth = some auth ∧ host.jwtVerifier auth = .error e

/-- The metrics backend of the configuration is needed and cannot be built. -/
def MetricsFails : Prop :=
  config.metrics ≠ none ∧ self.metricsProvider = none ∧
    ∃ cfg, config.metricsBackend = some cfg ∧ cfg.Unusable host.features.observability

/-- A backend of the observer is needed from the configuration and cannot be
built. -/
def ObserverFails : Prop :=
  host.features.observability = true ∧
    ((self.tracerProvider = none ∧ ∃ cfg, config.tracerBackend = some cfg ∧ cfg.Unusable) ∨
      (self.logDrainBackend = none ∧ ∃ cfg, config.logBackend = some cfg ∧ cfg.Unusable))

/-- Nothing is registered for HTTP. -/
def NoHttp : Prop := self.httpJob = none ∧ self.httpHandler = none

/-- Nothing is registered for gRPC. -/
def NoGrpc : Prop := self.grpcJob = none ∧ self.grpcHandler = none

/-- The HTTP client cannot be built. -/
def EgressHttpFails : Prop :=
  self.egressHttp = none ∧ match config.egressHttp with
    | some cfg => ∃ e, host.httpEgressWithConfig cfg = .error e
    | none => ∃ e, host.defaultHttpEgress = .error e

/-- The gRPC client of the configuration cannot be built. -/
def EgressGrpcFails : Prop :=
  self.egressGrpc = none ∧
    ∃ cfg e, config.egressGrpc = some cfg ∧ host.grpcTransport cfg = .error e

/-- The intrusion wiring of the configuration cannot be built. -/
def IntrusionFails : Prop :=
  host.features.intrusion = true ∧ self.intrusion = none ∧
    ∃ cfg e, config.intrusion = some cfg ∧ host.buildIntrusion cfg = .error e

/-- One of the steps of `assemble` cannot be made. -/
def AssemblyStops : Prop :=
  (self.httpBearerVerifier = none ∧ VerifierFails host config) ∨ self.MetricsFails host config ∨
    self.ObserverFails host config ∨ (self.NoHttp ∧ self.NoGrpc) ∨
    self.EgressHttpFails host config ∨ self.EgressGrpcFails host config ∨
    self.IntrusionFails host config

section Steps

theorem gatedBackend_exactly {β : Type} {Q : Prop} {build : Except RuntimeError β} (name : String)
    (exact : StartFails Q build) :
    StartFails (host.features.observability = false ∨ Q) (gatedBackend host name build) := by
  unfold gatedBackend
  cases on : host.features.observability with
  | true => exact exact.congr (by simp)
  | false => exact ⟨.inl rfl, ⟨_, rfl⟩⟩

theorem buildMetricsProvider_exactly (cfg : Option MetricsBackendConfig) :
    StartFails (∃ c, cfg = some c ∧ c.Unusable host.features.observability)
      (buildMetricsProvider host cfg) := by
  cases cfg with
  | none => simp [StartFails, buildMetricsProvider]
  | some c =>
    have exact : StartFails (c.Unusable host.features.observability)
        (buildMetricsProvider host (some c)) := by
      obtain ⟨active, _⟩ := c
      cases active with
      | memory => exact id
      | file => exact gatedBackend_exactly host "file" ((required_exactly _ _).bind_pure _)
      | prometheus =>
        exact gatedBackend_exactly host "prometheus" ((required_exactly _ _).bind_pure _)
      | otel => exact gatedBackend_exactly host "otel" ((required_exactly _ _).bind_pure _)
      | sqlite => exact ⟨trivial, ⟨_, rfl⟩⟩
    exact exact.congr (by simp)

theorem buildTracerProvider_exactly (cfg : Option TracerBackendConfig) :
    StartFails (∃ c, cfg = some c ∧ c.Unusable) (buildTracerProvider host cfg) := by
  cases cfg with
  | none => simp [StartFails, buildTracerProvider]
  | some c =>
    have exact : StartFails c.Unusable (buildTracerProvider host (some c)) := by
      obtain ⟨active, _⟩ := c
      cases active with
      | memory => exact id
      | file => exact (required_exactly _ _).bind_pure _
      | jaeger => exact (required_exactly _ _).bind_pure _
      | otel => exact (required_exactly _ _).bind_pure _
      | sqlite => exact ⟨trivial, ⟨_, rfl⟩⟩
    exact exact.congr (by simp)

theorem buildLogBackend_exactly (cfg : Option LogBackendConfig) :
    StartFails (∃ c, cfg = some c ∧ c.Unusable) (buildLogBackend host cfg) := by
  cases cfg with
  | none => simp [StartFails, buildLogBackend]
  | some c =>
    have exact : StartFails c.Unusable (buildLogBackend host (some c)) := by
      obtain ⟨active, _⟩ := c
      cases active with
      | memory => exact id
      | file => exact (required_exactly _ _).bind_pure _
      | elk => exact (required_exactly _ _).bind_pure _
      | otel => exact (required_exactly _ _).bind_pure _
      | sqlite => exact ⟨trivial, ⟨_, rfl⟩⟩
    exact exact.congr (by simp)

theorem verifierOfConfig_exactly :
    StartFails (VerifierFails host config) (verifierOfConfig host config) := by
  unfold verifierOfConfig VerifierFails
  cases config.httpAuth with
  | none => simp [StartFails]
  | some auth => exact (startFailed_map_exactly some _).congr (by simp)

theorem resolveVerifier_exactly :
    StartFails (self.httpBearerVerifier = none ∧ VerifierFails host config)
      (self.resolveVerifier host config) := by
  unfold resolveVerifier
  cases self.httpBearerVerifier with
  | none => exact (verifierOfConfig_exactly host config).congr (by simp)
  | some v => simp [StartFails]

theorem resolveMetrics_exactly :
    StartFails (self.MetricsFails host config) (self.resolveMetrics host config) := by
  unfold resolveMetrics MetricsFails
  cases config.metrics with
  | none => simp [StartFails]
  | some m =>
    cases self.metricsProvider with
    | none =>
      exact ((buildMetricsProvider_exactly host config.metricsBackend).map some).congr (by simp)
    | some p => simp [StartFails]

theorem resolveObserver_exactly (metrics : Option MetricsProvider) :
    StartFails (self.ObserverFails host config) (self.resolveObserver host config metrics) := by
  have tracer : StartFails (self.tracerProvider = none ∧
      ∃ cfg, config.tracerBackend = some cfg ∧ cfg.Unusable) (self.resolveTracer host config) := by
    unfold resolveTracer
    cases self.tracerProvider with
    | none => exact (buildTracerProvider_exactly host config.tracerBackend).congr (by simp)
    | some p => simp [StartFails]
  have log : StartFails (self.logDrainBackend = none ∧
      ∃ cfg, config.logBackend = some cfg ∧ cfg.Unusable) (self.resolveLog host config) := by
    unfold resolveLog
    cases self.logDrainBackend with
    | none => exact (buildLogBackend_exactly host config.logBackend).congr (by simp)
    | some b => simp [StartFails]
  unfold resolveObserver ObserverFails
  cases host.features.observability with
  | true => exact (tracer.bind fun _ _ => log.bind_pure _).congr (by simp)
  | false => simp [StartFails]

theorem hasAny_assembleIngress (observer : Platform.ObserverContext) :
    (self.assembleIngress host observer).hasAny = false ↔ self.NoHttp ∧ self.NoGrpc := by
  unfold assembleIngress Ingress.hasAny NoHttp NoGrpc
  cases self.httpJob <;> cases self.httpHandler <;> cases self.grpcJob <;>
    cases self.grpcHandler <;> simp

theorem resolveEgressHttp_exactly :
    StartFails (self.EgressHttpFails host config) (self.resolveEgressHttp host config) := by
  unfold resolveEgressHttp EgressHttpFails
  cases self.egressHttp with
  | some h => simp [StartFails]
  | none =>
    cases config.egressHttp with
    | some cfg => exact (startFailed_exactly (host.httpEgressWithConfig cfg)).congr (by simp)
    | none => exact (startFailed_exactly host.defaultHttpEgress).congr (by simp)

theorem resolveEgressGrpc_exactly :
    StartFails (self.EgressGrpcFails host config) (self.resolveEgressGrpc host config) := by
  unfold resolveEgressGrpc EgressGrpcFails
  cases self.egressGrpc with
  | some g => simp [StartFails]
  | none =>
    cases config.egressGrpc with
    | some cfg => exact (startFailed_map_exactly some _).congr (by simp)
    | none => simp [StartFails]

theorem resolveIntrusion_exactly :
    StartFails (self.IntrusionFails host config) (self.resolveIntrusion host config) := by
  unfold resolveIntrusion IntrusionFails
  cases host.features.intrusion with
  | false => simp [StartFails]
  | true =>
    cases self.intrusion with
    | some wired => simp [StartFails]
    | none =>
      cases config.intrusion with
      | some cfg => exact (startFailed_map_exactly some _).congr (by simp)
      | none => simp [StartFails]

end Steps

variable {host self config}

/-- Once the configuration is resolved, `assemble` fails exactly when one of its
steps cannot be made, and with `StartFailed`. -/
theorem assemble_exactly (resolved : self.resolveConfig host = .ok config) :
    StartFails (self.AssemblyStops host config) (self.assemble host).result := by
  have handlers : ∀ observer, StartFails (self.NoHttp ∧ self.NoGrpc)
      (if (self.assembleIngress host observer).hasAny = true then .ok ()
        else .error (.startFailed noHandler) : Except RuntimeError Unit) := by
    intro observer
    rw [← self.hasAny_assembleIngress host observer]
    cases (self.assembleIngress host observer).hasAny with
    | true => simp [StartFails]
    | false => simp [StartFails]
  unfold assemble AssemblyStops
  simp only [Effects.result_bind, Effects.result_ofExcept, Effects.result_tellAll, resolved]
  exact (self.resolveVerifier_exactly host config).bind fun verifier _ =>
    (self.resolveMetrics_exactly host config).bind fun metrics _ =>
    (self.resolveObserver_exactly host config metrics).bind fun observer _ =>
    (handlers observer).bind fun _ _ =>
    (self.resolveEgressHttp_exactly host config).bind fun http _ =>
    (self.resolveEgressGrpc_exactly host config).bind fun grpc _ =>
    (self.resolveIntrusion_exactly host config).bind_pure _

/-- `assemble` sets up tracing and the sampler, and does nothing else to the outside. -/
theorem assemble_setsUp : (self.assemble host).Avoids fun event => ¬ event.SetsUp := by
  have tracing : ∀ cfg : Option Platform.TracingConfig,
      (Effects.tellAll (cfg.map .tracingInitialised).toList : Assembling σ α Unit).Avoids
        fun event => ¬ event.SetsUp := by
    intro cfg
    cases cfg <;> simp [RuntimeEvent.SetsUp]
  have sampler : ∀ (metrics : Option MetricsProvider) (policy : Option AutoscalePolicy),
      (Effects.tellAll (metrics.map fun _ => .samplerSpawned policy).toList :
        Assembling σ α Unit).Avoids fun event => ¬ event.SetsUp := by
    intro metrics policy
    cases metrics <;> simp [RuntimeEvent.SetsUp]
  unfold assemble
  refine .bind (by simp) fun config _ => .bind (tracing _) fun _ _ => ?_
  refine .bind (by simp) fun verifier _ => .bind (by simp) fun metrics _ => ?_
  refine .bind (sampler _ _) fun _ _ => .bind (by simp) fun observer _ => ?_
  refine .bind (by simp) fun _ _ => .bind (by simp) fun http _ => ?_
  refine .bind (by simp) fun grpc _ => .bind (by simp) fun intrusion _ => by simp

/-- `assemble` spawns no server. -/
theorem assemble_avoids : (self.assemble host).Avoids RuntimeEvent.SpawnsServer := by
  refine assemble_setsUp.mono fun event spawns => ?_
  cases event with
  | httpSpawned _ | grpcSpawned _ | metricsSpawned _ => exact id
  | tracingInitialised _ | samplerSpawned _ | schedulerSpawned | managerStarted _ | signalled
  | managerShutDown _ | stopSent _ | joined _ => exact spawns.elim

/-- What `assemble` returned was resolved from the configuration. -/
structure Resolved (host : Host σ α) (builder : RuntimeBuilder σ α) (a : Assembly σ α) : Prop where
  config : builder.resolveConfig host = .ok a.config
  verifier : builder.resolveVerifier host a.config = .ok a.verifier
  metrics : builder.resolveMetrics host a.config = .ok a.metrics
  ingress : ∃ observer, a.ingress = builder.assembleIngress host observer
  hasAny : a.ingress.hasAny = true
  intrusion : builder.resolveIntrusion host a.config = .ok a.intrusion

/-- A configuration is resolved to one value. -/
theorem Resolved.config_eq {a : Assembly σ α} (assembled : Resolved host self a)
    (resolved : self.resolveConfig host = .ok config) : a.config = config := by
  have twice := assembled.config
  rw [resolved] at twice
  exact (Except.ok.inj twice).symm

/-- There is a metrics provider exactly when the scrape endpoint is configured. -/
theorem resolveMetrics_isSome {metrics : Option MetricsProvider}
    (resolved : self.resolveMetrics host config = .ok metrics) :
    metrics.isSome = config.metrics.isSome := by
  unfold resolveMetrics at resolved
  split at resolved
  · rename_i off
    rw [off, ← Except.ok.inj resolved]
    rfl
  · rename_i on
    split at resolved
    · rw [on, ← Except.ok.inj resolved]
      rfl
    · obtain ⟨provider, _, rfl⟩ := Except.map_eq_ok.mp resolved
      rw [on]
      rfl

theorem Resolved.metrics_isSome {a : Assembly σ α} (assembled : Resolved host self a) :
    a.metrics.isSome = a.config.metrics.isSome :=
  resolveMetrics_isSome assembled.metrics

theorem assemble_resolved {a : Assembly σ α} (assembled : (self.assemble host).result = .ok a) :
    Resolved host self a := by
  unfold assemble at assembled
  obtain ⟨config, hconfig, assembled, _⟩ := Effects.bind_ok assembled
  obtain ⟨_, _, assembled, _⟩ := Effects.bind_ok assembled
  obtain ⟨verifier, hverifier, assembled, _⟩ := Effects.bind_ok assembled
  obtain ⟨metrics, hmetrics, assembled, _⟩ := Effects.bind_ok assembled
  obtain ⟨_, _, assembled, _⟩ := Effects.bind_ok assembled
  obtain ⟨observer, _, assembled, _⟩ := Effects.bind_ok assembled
  obtain ⟨_, handlers, assembled, _⟩ := Effects.bind_ok assembled
  obtain ⟨http, _, assembled, _⟩ := Effects.bind_ok assembled
  obtain ⟨grpc, _, assembled, _⟩ := Effects.bind_ok assembled
  obtain ⟨intrusion, hintrusion, assembled, _⟩ := Effects.bind_ok assembled
  cases assembled
  refine ⟨hconfig, hverifier, hmetrics, ⟨observer, rfl⟩, ?_, hintrusion⟩
  cases hasAny : (self.assembleIngress host observer).hasAny with
  | true => rfl
  | false =>
    rw [hasAny] at handlers
    cases handlers

end RuntimeBuilder

end EdgeBootstrap
