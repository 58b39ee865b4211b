import EdgeBootstrap.Config.Validator
import EdgeBootstrap.Runtime.GrpcOptions
import EdgeBootstrap.Runtime.Spawning

/-! Whether an invalid configuration is kept from a socket. Neither `serve` nor
`run` asks `ConfigValidator`, so an invalid configuration is refused before a
server is spawned just when something else refuses the assembly. -/
namespace EdgeBootstrap

section
variable [Platform] {σ α : Type} {host : Host σ α} {config : RuntimeConfig}

namespace RuntimeBuilder
variable {self : RuntimeBuilder σ α}

theorem assembleIngress_http (observer : Platform.ObserverContext) :
    (self.assembleIngress host observer).http = none ↔ self.NoHttp := by
  unfold assembleIngress NoHttp
  cases self.httpJob <;> simp

/-- `serve` is refused before it spawned a server when a step of `assemble` cannot
be made, or when there is nothing for HTTP and the gRPC server cannot be built. -/
theorem serve_refused_iff [Clock α] (resolved : self.resolveConfig host = .ok config) :
    RefusedUnspawned (self.serve host) ↔ self.AssemblyStops host config ∨
      (self.NoHttp ∧
        host.grpcServer.Refuses config.grpcBind (self.grpcOptions host config)) := by
  unfold serve
  refine refused_bind (assemble_exactly resolved) assemble_avoids fun a returned => ?_
  have assembled := assemble_resolved returned
  obtain ⟨observer, ingress⟩ := assembled.ingress
  have http : a.ingress.http = none ↔ self.NoHttp := by
    rw [ingress]
    exact assembleIngress_http observer
  rw [refused_spawnServers (supervise_avoids a), Option.map_eq_none_iff, http]
  refine and_congr_right fun noHttp => ?_
  -- without HTTP there is a gRPC handler, for `assemble` wants one of the two
  obtain ⟨handler, grpc⟩ : ∃ handler, a.ingress.grpc = some handler := by
    have hasAny := assembled.hasAny
    unfold Ingress.hasAny at hasAny
    rw [http.mpr noHttp] at hasAny
    exact Option.isSome_iff_exists.mp hasAny
  have built := (self.grpcSettings_exactly host config).map fun settings =>
    (⟨settings, self.grpcStack host a handler⟩ : GrpcServer σ α)
  rw [← built.iff_failed, grpc, ← assembled.config_eq resolved]
  simp [grpcServer]

end RuntimeBuilder

namespace Runtime
variable {ingress : Ingress σ α} {egress : Egress} {lifecycle : LifecycleMonitor}

/-- Without any ingress the manager refuses to start. -/
theorem supervise_of_empty (host : Host σ α) (config : RuntimeConfig) (egress : Egress)
    (lifecycle : LifecycleMonitor) (empty : ingress.hasAny = false) :
    ∃ e, (supervise host config ingress egress lifecycle).result = .error e ∧
      e.IsStartFailed := by
  let text := "no ingress transport configured — add http or grpc"
  have refused : ((runtimeManager config ingress egress lifecycle).start host.startedAt).1 =
      .error (.startFailed text) := by
    simp [DefaultRuntimeManager.start, runtimeManager, empty, text]
  have stopped : (DaemonRunner.runUntilSignal host (runtimeManager config ingress egress lifecycle)
      config.shutdownTimeoutSecs).result = .error (.startFailed text) := by
    unfold DaemonRunner.runUntilSignal
    simp only [Effects.result_bind, Effects.result_ofExcept, refused]
    rfl
  refine ⟨.startFailed text, ?_, RuntimeError.isStartFailed text⟩
  unfold supervise
  simp only [Effects.result_bind, Effects.result_attempt, Effects.result_ofExcept, stopped]
  rfl

/-- `run` is refused before it spawned a server when the verifier cannot be built,
or when there is nothing for HTTP and nothing for gRPC either or the gRPC server
cannot be built. -/
theorem run_refused_iff :
    RefusedUnspawned (run host config ingress egress lifecycle) ↔
      RuntimeBuilder.VerifierFails host config ∨ (ingress.http = none ∧
        (ingress.grpc = none ∨
          host.grpcServer.Refuses config.grpcBind (grpcOptions config))) := by
  unfold run
  refine refused_bind (RuntimeBuilder.verifierOfConfig_exactly host config)
    (Effects.avoids_ofExcept _) fun verifier _ => ?_
  rw [refused_spawnServers (supervise_avoids host config ingress egress lifecycle), Option.map_eq_none_iff]
  refine and_congr_right fun noHttp => ?_
  cases grpc : ingress.grpc with
  | none =>
    have empty : ingress.hasAny = false := by simp [Ingress.hasAny, noHttp, grpc]
    have refused := supervise_of_empty host config egress lifecycle empty
    exact iff_of_true (.inr ⟨rfl, rfl, refused⟩) (.inl rfl)
  | some handler =>
    have built := (grpcSettings_exactly host config).map fun settings =>
      (⟨settings, handler⟩ : GrpcServer σ α)
    rw [← built.iff_failed]
    simp [grpcServer]

end Runtime

/-- An invalid configuration is refused before a server is spawned exactly when
there is no need to, for the configuration is valid, or when the assembly is
refused for a reason of its own. -/
theorem invalid_refused_iff [Clock α] (host : Host σ α) (config : RuntimeConfig) :
    (∀ self : RuntimeBuilder σ α, self.resolveConfig host = .ok config →
      (((∃ e, ConfigValidator.validate config = .error e) → RefusedUnspawned (self.serve host)) ↔
        ConfigValidator.validate config = .ok () ∨ self.AssemblyStops host config ∨
          (self.NoHttp ∧
            host.grpcServer.Refuses config.grpcBind (self.grpcOptions host config)))) ∧
    ∀ (ingress : Ingress σ α) (egress : Egress) (lifecycle : LifecycleMonitor),
      (((∃ e, ConfigValidator.validate config = .error e) →
          RefusedUnspawned (Runtime.run host config ingress egress lifecycle)) ↔
        ConfigValidator.validate config = .ok () ∨ RuntimeBuilder.VerifierFails host config ∨
          (ingress.http = none ∧ (ingress.grpc = none ∨
            host.grpcServer.Refuses config.grpcBind (Runtime.grpcOptions config)))) := by
  have invalid : ∀ P : Prop, ((∃ e, ConfigValidator.validate config = .error e) → P) ↔
      ConfigValidator.validate config = .ok () ∨ P := by
    intro P
    cases ConfigValidator.validate config with
    | error e => simp
    | ok u => simp
  constructor
  · intro self resolved
    rw [invalid, RuntimeBuilder.serve_refused_iff resolved]
  · intro ingress egress lifecycle
    rw [invalid, Runtime.run_refused_iff]

end

section
attribute [local instance] Platform.reference

/-- The defaults but for a shutdown timeout of zero. -/
def zeroTimeout : RuntimeConfig := { shutdownTimeoutSecs := 0 }

/-- A builder that is given the configuration and an ingress. -/
private def withZeroTimeout : RuntimeBuilder Unit Unit where
  config := some zeroTimeout
  httpHandler := some .empty

/-- Without an ingress the invalid configuration is refused. -/
theorem invalid_refused_iff_bare :
    RefusedUnspawned
      (({ config := some zeroTimeout } : RuntimeBuilder Unit Unit).serve .obliging) := by
  have exact := (invalid_refused_iff .obliging zeroTimeout).1 { config := some zeroTimeout } rfl
  refine exact.mpr (.inr (.inl ?_)) ⟨_, rfl⟩
  exact .inr (.inr (.inr (.inl ⟨⟨rfl, rfl⟩, rfl, rfl⟩)))

/-- With an ingress, `serve` and `run` both spawn the HTTP server on an invalid
configuration. -/
theorem zero_timeout_served :
    ConfigValidator.validate zeroTimeout =
        .error (.startFailed "shutdown_timeout_secs must be > 0") ∧
      withZeroTimeout.resolveConfig .obliging = .ok zeroTimeout ∧
      ¬ RefusedUnspawned (withZeroTimeout.serve .obliging) ∧
      ¬ RefusedUnspawned (Runtime.run .obliging zeroTimeout
        { http := some (AppHttpIngress.empty.ingress Unit) } ⟨.ok (), none⟩
        Host.obliging.nullLifecycle) := by
  refine ⟨by rfl, rfl, ?_, ?_⟩
  · rintro ⟨_, avoids⟩
    exact avoids _ (.head _) trivial
  · rintro ⟨_, avoids⟩
    exact avoids _ (.head _) trivial

end

end EdgeBootstrap
