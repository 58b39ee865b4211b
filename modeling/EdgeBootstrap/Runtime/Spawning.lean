import EdgeBootstrap.Config.RoundTrip
import EdgeBootstrap.Runtime.StartFailures

/-! Which servers an assembly spawns, and when it is refused before it spawned
one. Everything after `spawnServers` only supervises what was spawned. -/
namespace EdgeBootstrap

section
variable [Platform] {σ α : Type}

/-- The assembly returned `StartFailed` without having spawned a server. -/
def RefusedUnspawned {β : Type} (m : Assembling σ α β) : Prop :=
  (∃ e, m.result = .error e ∧ e.IsStartFailed) ∧ m.Avoids RuntimeEvent.SpawnsServer

/-- A sequence whose first part spawns no server and fails only with `StartFailed`
is refused unspawned when its first part fails, or when the rest is. -/
theorem refused_bind {β γ : Type} {m : Assembling σ α β} {f : β → Assembling σ α γ} {Q R : Prop}
    (exact : StartFails Q m.result) (avoids : m.Avoids RuntimeEvent.SpawnsServer)
    (rest : ∀ b, m.result = .ok b → (RefusedUnspawned (f b) ↔ R)) :
    RefusedUnspawned (m >>= f) ↔ Q ∨ R := by
  cases finished : m.result with
  | error e =>
    rw [finished] at exact
    unfold RefusedUnspawned
    rw [(Effects.bind_of_error finished).2, Effects.avoids_bind_of_error finished]
    exact iff_of_true ⟨⟨e, rfl, exact.2⟩, avoids⟩ (.inl exact.1)
  | ok b =>
    rw [finished] at exact
    have passed : ¬ Q := exact
    have same : RefusedUnspawned (m >>= f) ↔ RefusedUnspawned (f b) := by
      unfold RefusedUnspawned
      rw [(Effects.bind_of_ok finished).2, Effects.avoids_bind_of_ok finished]
      simp only [avoids, true_and]
    rw [same, rest b finished]
    simp [passed]

section Servers

variable (http : Option (HttpServer σ α)) (metrics : Option (HttpServer σ α))

/-- The events of spawning some servers. -/
def spawnEvents (grpc : Option (GrpcServer σ α)) : List (RuntimeEvent σ α) :=
  (http.map .httpSpawned).toList ++ (grpc.map .grpcSpawned).toList ++
    (metrics.map .metricsSpawned).toList

theorem mem_spawnEvents {grpc : Option (GrpcServer σ α)} {event : RuntimeEvent σ α} :
    event ∈ spawnEvents http metrics grpc ↔ (∃ s, http = some s ∧ .httpSpawned s = event) ∨
      (∃ s, grpc = some s ∧ .grpcSpawned s = event) ∨
      ∃ s, metrics = some s ∧ .metricsSpawned s = event := by
  simp [spawnEvents]

theorem spawnEvents_avoids (grpc : Option (GrpcServer σ α)) :
    (Effects.tellAll (spawnEvents http metrics grpc) : Assembling σ α Unit).Avoids
      RuntimeEvent.SpawnsServer ↔ http = none ∧ grpc = none ∧ metrics = none := by
  cases http <;> cases grpc <;> cases metrics <;> simp [spawnEvents, RuntimeEvent.SpawnsServer]

/-- When no option of the gRPC server is refused, all servers are spawned. -/
theorem spawnServers_of_ok (grpc : Option (GrpcServer σ α)) :
    spawnServers http (grpc.map .ok) metrics = Effects.tellAll (spawnEvents http metrics grpc) := by
  cases http <;> cases grpc <;> cases metrics <;> rfl

/-- When one is refused, the HTTP server is already spawned. -/
theorem spawnServers_of_error (e : RuntimeError) :
    spawnServers http (some (.error e)) metrics =
      ((http.map .httpSpawned).toList, .error e) := by
  cases http <;> rfl

variable {http metrics} {grpc : Option (Except RuntimeError (GrpcServer σ α))}
  {rest : Assembling σ α Unit}

/-- A spawned server is one of those that were asked for. -/
theorem mem_spawnServers {event : RuntimeEvent σ α}
    (spawned : event ∈ (spawnServers http grpc metrics).events) :
    (∃ s, http = some s ∧ .httpSpawned s = event) ∨
      (∃ s, grpc = some (.ok s) ∧ .grpcSpawned s = event) ∨
      ∃ s, metrics = some s ∧ .metricsSpawned s = event := by
  match grpc with
  | none =>
    have all := spawnServers_of_ok http metrics none
    rw [Option.map_none] at all
    rw [all] at spawned
    simpa using (mem_spawnEvents http metrics).mp spawned
  | some (.ok server) =>
    have all := spawnServers_of_ok http metrics (some server)
    rw [Option.map_some] at all
    rw [all] at spawned
    simpa using (mem_spawnEvents http metrics).mp spawned
  | some (.error e) =>
    rw [spawnServers_of_error http metrics e] at spawned
    refine .inl ?_
    simpa [Effects.events] using spawned

/-- Spawning servers does nothing else. -/
theorem spawnServers_spawns :
    (spawnServers http grpc metrics).Avoids fun event => ¬ event.SpawnsServer := by
  intro event spawned
  rcases mem_spawnServers spawned with ⟨_, _, rfl⟩ | ⟨_, _, rfl⟩ | ⟨_, _, rfl⟩
  · exact not_not.mpr trivial
  · exact not_not.mpr trivial
  · exact not_not.mpr trivial

theorem http_mem_spawnServers {s : HttpServer σ α} :
    .httpSpawned s ∈ (spawnServers http grpc metrics).events ↔ http = some s := by
  constructor
  · intro spawned
    rcases mem_spawnServers spawned with ⟨_, asked, same⟩ | ⟨_, _, other⟩ | ⟨_, _, other⟩
    · cases same
      exact asked
    · cases other
    · cases other
  · rintro rfl
    exact Effects.mem_events_bind.mpr (.inl (.head _))

theorem grpc_mem_spawnServers {s : GrpcServer σ α} :
    .grpcSpawned s ∈ (spawnServers http grpc metrics).events ↔ grpc = some (.ok s) := by
  constructor
  · intro spawned
    rcases mem_spawnServers spawned with ⟨_, _, other⟩ | ⟨_, asked, same⟩ | ⟨_, _, other⟩
    · cases other
    · cases same
      exact asked
    · cases other
  · rintro rfl
    have all := spawnServers_of_ok http metrics (some s)
    rw [Option.map_some] at all
    rw [all]
    exact (mem_spawnEvents http metrics).mpr (.inr (.inl ⟨s, rfl, rfl⟩))

/-- The metrics server is spawned last, once the gRPC server was built. -/
theorem metrics_mem_spawnServers {s : HttpServer σ α} :
    .metricsSpawned s ∈ (spawnServers http grpc metrics).events ↔
      metrics = some s ∧ ∀ e, grpc ≠ some (.error e) := by
  have built : ∀ server : Option (GrpcServer σ α),
      .metricsSpawned s ∈ (spawnServers http (server.map .ok) metrics).events ↔
        metrics = some s := by
    intro server
    rw [spawnServers_of_ok, Effects.events_tellAll, mem_spawnEvents]
    simp
  match grpc with
  | none => simpa using built none
  | some (.ok server) => simpa using built (some server)
  | some (.error e) =>
    rw [spawnServers_of_error]
    simp [Effects.events]

/-- An assembly that spawns servers and then only supervises them is refused
unspawned in two situations: there is no HTTP server and the gRPC server cannot
be built, or there is no server at all and the rest fails. -/
theorem refused_spawnServers (supervises : rest.Avoids RuntimeEvent.SpawnsServer) :
    RefusedUnspawned (spawnServers http grpc metrics >>= fun _ => rest) ↔
      http = none ∧ ((∃ e, grpc = some (.error e) ∧ e.IsStartFailed) ∨
        grpc = none ∧ metrics = none ∧ ∃ e, rest.result = .error e ∧ e.IsStartFailed) := by
  match grpc with
  | some (.error e) =>
    have failed : (spawnServers http (some (.error e)) metrics).result = .error e := by
      rw [spawnServers_of_error]
      rfl
    have spawned : (spawnServers http (some (.error e)) metrics).Avoids
        RuntimeEvent.SpawnsServer ↔ http = none := by
      rw [spawnServers_of_error]
      cases http <;> simp [Effects.Avoids, Effects.events, RuntimeEvent.SpawnsServer]
    unfold RefusedUnspawned
    rw [(Effects.bind_of_error failed).2, Effects.avoids_bind_of_error failed, spawned]
    simp [and_comm]
  | some (.ok server) =>
    have all : spawnServers http (some (.ok server)) metrics = _ :=
      spawnServers_of_ok http metrics (some server)
    unfold RefusedUnspawned
    rw [all, Effects.avoids_bind_of_ok (Effects.result_tellAll _), spawnEvents_avoids]
    simp
  | none =>
    have all : spawnServers http none metrics = _ := spawnServers_of_ok http metrics none
    unfold RefusedUnspawned
    rw [all, Effects.avoids_bind_of_ok (Effects.result_tellAll _), spawnEvents_avoids,
      (Effects.bind_of_ok (Effects.result_tellAll _)).2]
    simp only [supervises, and_true, true_and]
    tauto

end Servers

section Supervising

/-- The event is one of supervising what was spawned. -/
def RuntimeEvent.Supervises : RuntimeEvent σ α → Prop
  | .managerStarted _ | .signalled | .managerShutDown _ | .stopSent _ | .joined _ => True
  | _ => False

theorem RuntimeEvent.SetsUp.not_supervises {event : RuntimeEvent σ α} (setsUp : event.SetsUp) :
    ¬ event.Supervises := by
  cases event with
  | tracingInitialised _ | samplerSpawned _ => exact id
  | httpSpawned _ | grpcSpawned _ | metricsSpawned _ | schedulerSpawned | managerStarted _
  | signalled | managerShutDown _ | stopSent _ | joined _ => exact setsUp.elim

theorem RuntimeEvent.SpawnsServer.not_supervises {event : RuntimeEvent σ α}
    (spawns : event.SpawnsServer) : ¬ event.Supervises := by
  cases event with
  | httpSpawned _ | grpcSpawned _ | metricsSpawned _ => exact id
  | tracingInitialised _ | samplerSpawned _ | schedulerSpawned | managerStarted _ | signalled
  | managerShutDown _ | stopSent _ | joined _ => exact spawns.elim

theorem runUntilSignal_supervises (host : Host σ α) (manager : DefaultRuntimeManager σ α)
    (timeout : UInt64) :
    (DaemonRunner.runUntilSignal host manager timeout).Avoids fun event => ¬ event.Supervises := by
  have emits : ∀ event : RuntimeEvent σ α, event.Supervises →
      (Effects.tell event : Assembling σ α Unit).Avoids fun event => ¬ event.Supervises :=
    fun _ supervises => Effects.avoids_tell.mpr (not_not.mpr supervises)
  unfold DaemonRunner.runUntilSignal
  refine .bind (emits _ trivial) fun _ _ => .bind (by simp) fun _ _ =>
    .bind (emits _ trivial) fun _ _ => ?_
  split
  · exact Effects.avoids_fail
  · exact .bind (emits _ trivial) fun _ _ => by simp

theorem stop_supervises (tasks : List Task) :
    (stop tasks : Assembling σ α Unit).Avoids fun event => ¬ event.Supervises := by
  simp [stop, RuntimeEvent.Supervises]

theorem join_supervises (tasks : List Task) :
    (join tasks : Assembling σ α Unit).Avoids fun event => ¬ event.Supervises := by
  simp [join, RuntimeEvent.Supervises]

/-- `run` spawns nothing once it supervises. -/
theorem Runtime.supervise_avoids (host : Host σ α) (config : RuntimeConfig) (ingress : Ingress σ α)
    (egress : Egress) (lifecycle : LifecycleMonitor) :
    (supervise host config ingress egress lifecycle).Avoids RuntimeEvent.SpawnsServer := by
  suffices supervises : (supervise host config ingress egress lifecycle).Avoids
      fun event => ¬ event.Supervises from
    supervises.mono fun _ spawns => spawns.not_supervises
  unfold supervise
  refine .bind (Effects.avoids_attempt.mpr (runUntilSignal_supervises host _ _)) fun _ _ => ?_
  refine .bind (stop_supervises _) fun _ _ => .bind (join_supervises _) fun _ _ => ?_
  exact Effects.avoids_ofExcept _

/-- The servers of `run` are bare, if its verifier can be built. -/
theorem Runtime.mem_run_iff {host : Host σ α} {config : RuntimeConfig} {ingress : Ingress σ α}
    {egress : Egress} {lifecycle : LifecycleMonitor} {event : RuntimeEvent σ α}
    (spawns : event.SpawnsServer) :
    event ∈ (run host config ingress egress lifecycle).events ↔
      ∃ verifier, RuntimeBuilder.verifierOfConfig host config = .ok verifier ∧
        event ∈ (spawnServers (ingress.http.map (httpServer config verifier))
          (ingress.grpc.map (grpcServer host config)) none).events := by
  constructor
  · intro emitted
    unfold run at emitted
    rcases Effects.mem_events_bind.mp emitted with early | ⟨verifier, verified, emitted⟩
    · cases early
    · rcases Effects.mem_events_bind.mp emitted with spawned | ⟨_, _, late⟩
      · exact ⟨verifier, verified, spawned⟩
      · exact absurd spawns (supervise_avoids host config ingress egress lifecycle event late)
  · rintro ⟨verifier, verified, spawned⟩
    exact Effects.mem_events_bind.mpr
      (.inr ⟨verifier, verified, Effects.mem_events_bind.mpr (.inl spawned)⟩)

/-- A gRPC server that `run` spawned is bare, with the options that were set. -/
theorem Runtime.grpc_spawned {host : Host σ α} {config : RuntimeConfig} {ingress : Ingress σ α}
    {egress : Egress} {lifecycle : LifecycleMonitor} {server : GrpcServer σ α}
    (emitted : .grpcSpawned server ∈ (run host config ingress egress lifecycle).events) :
    ∃ handler, ingress.grpc = some handler ∧
      ∃ settings, grpcSettings host config = .ok settings ∧ server = ⟨settings, handler⟩ := by
  obtain ⟨_, _, spawned⟩ := (mem_run_iff (by trivial)).mp emitted
  obtain ⟨handler, present, built⟩ := Option.map_eq_some_iff.mp (grpc_mem_spawnServers.mp spawned)
  obtain ⟨settings, set, rfl⟩ := Except.map_eq_ok.mp built
  exact ⟨handler, present, settings, set, rfl⟩

variable {host : Host σ α} {self : RuntimeBuilder σ α}

/-- What `serve` emits at its end. -/
def RuntimeBuilder.endEvents (host : Host σ α) (self : RuntimeBuilder σ α) (a : Assembly σ α) :
    List (RuntimeEvent σ α) :=
  ([Task.http, .grpc] ++ if (metricsServer a).isSome then [Task.metrics] else []).map .stopSent ++
    ((joined a).map .joined ++
      if self.hasScheduler host then [.stopSent .scheduler, .joined .scheduler] else [])

/-- Without its thread the scheduler ends `serve`; otherwise the runner comes, and
then the end. -/
theorem RuntimeBuilder.events_supervise (a : Assembly σ α) :
    (self.supervise host a).events =
      if self.hasScheduler host ∧ host.spawnSchedulerThread.isOk = false then []
      else (if self.hasScheduler host then [.schedulerSpawned] else []) ++
        ((DaemonRunner.runUntilSignal host (self.manager host a)
          a.config.shutdownTimeoutSecs).events ++ self.endEvents host a) := by
  unfold supervise endEvents
  cases scheduled : self.hasScheduler host with
  | false => simp [stop, join]
  | true =>
    cases host.spawnSchedulerThread with
    | error e => rfl
    | ok _ => simp [stop, join, startFailed, Except.mapError, Except.isOk, Except.toBool]

/-- Once the servers are spawned, `serve` spawns the scheduler and supervises. -/
theorem RuntimeBuilder.supervise_supervises (a : Assembly σ α) :
    (self.supervise host a).Avoids fun event =>
      ¬ (event = .schedulerSpawned ∨ event.Supervises) := by
  have later : ∀ {β : Type} {m : Assembling σ α β}, (m.Avoids fun event => ¬ event.Supervises) →
      m.Avoids fun event => ¬ (event = .schedulerSpawned ∨ event.Supervises) :=
    fun supervises => supervises.mono fun _ other now => other (.inr now)
  have supervised := later (Effects.avoids_attempt.mpr
    (runUntilSignal_supervises host (self.manager host a) a.config.shutdownTimeoutSecs))
  have spawned : (Effects.tell .schedulerSpawned : Assembling σ α Unit).Avoids fun event =>
      ¬ (event = .schedulerSpawned ∨ event.Supervises) :=
    Effects.avoids_tell.mpr (not_not.mpr (.inl rfl))
  have stops := fun tasks => later (m := stop tasks) (stop_supervises tasks)
  have joins := fun tasks => later (m := join tasks) (join_supervises tasks)
  unfold supervise
  cases self.hasScheduler host with
  | true =>
    refine .bind (Effects.avoids_ofExcept _) fun _ _ => .bind spawned fun _ _ => ?_
    refine .bind supervised fun _ _ => .bind (stops _) fun _ _ => .bind (joins _) fun _ _ => ?_
    exact .bind (stops _) fun _ _ => .bind (joins _) fun _ _ => Effects.avoids_ofExcept _
  | false =>
    refine .bind supervised fun _ _ => .bind (stops _) fun _ _ => .bind (joins _) fun _ _ => ?_
    exact Effects.avoids_ofExcept _

/-- `serve` spawns no server once it supervises. -/
theorem RuntimeBuilder.supervise_avoids (a : Assembly σ α) :
    (self.supervise host a).Avoids RuntimeEvent.SpawnsServer := by
  refine (supervise_supervises a).mono fun event spawns => ?_
  rintro (rfl | supervises)
  · exact spawns
  · exact spawns.not_supervises supervises

variable [Clock α]

/-- The servers of `serve` are those of its assembly, if it comes to one. -/
theorem RuntimeBuilder.mem_serve_iff {event : RuntimeEvent σ α} (spawns : event.SpawnsServer) :
    event ∈ (self.serve host).events ↔ ∃ a, (self.assemble host).result = .ok a ∧
      event ∈ (spawnServers (a.ingress.http.map (self.httpServer a))
        (a.ingress.grpc.map (self.grpcServer host a)) (metricsServer a)).events := by
  constructor
  · intro emitted
    unfold serve at emitted
    rcases Effects.mem_events_bind.mp emitted with early | ⟨a, assembled, emitted⟩
    · exact absurd spawns (assemble_avoids event early)
    · rcases Effects.mem_events_bind.mp emitted with spawned | ⟨_, _, late⟩
      · exact ⟨a, assembled, spawned⟩
      · exact absurd spawns (supervise_avoids a event late)
  · rintro ⟨a, assembled, spawned⟩
    exact Effects.mem_events_bind.mpr
      (.inr ⟨a, assembled, Effects.mem_events_bind.mpr (.inl spawned)⟩)

/-- An HTTP server that `serve` spawned is the one of an assembly. -/
theorem RuntimeBuilder.http_spawned {server : HttpServer σ α}
    (emitted : .httpSpawned server ∈ (self.serve host).events) :
    ∃ a inner, Resolved host self a ∧ a.ingress.http = some inner ∧
      server = self.httpServer a inner := by
  obtain ⟨a, assembled, spawned⟩ := (mem_serve_iff (by trivial)).mp emitted
  obtain ⟨inner, present, built⟩ := Option.map_eq_some_iff.mp (http_mem_spawnServers.mp spawned)
  exact ⟨a, inner, assemble_resolved assembled, present, built.symm⟩

/-- A gRPC server that `serve` spawned is the one of an assembly, with the options
that were set. -/
theorem RuntimeBuilder.grpc_spawned {server : GrpcServer σ α}
    (emitted : .grpcSpawned server ∈ (self.serve host).events) :
    ∃ a inner, Resolved host self a ∧ a.ingress.grpc = some inner ∧
      ∃ settings, self.grpcSettings host a.config = .ok settings ∧
        server = ⟨settings, self.grpcStack host a inner⟩ := by
  obtain ⟨a, assembled, spawned⟩ := (mem_serve_iff (by trivial)).mp emitted
  obtain ⟨inner, present, built⟩ := Option.map_eq_some_iff.mp (grpc_mem_spawnServers.mp spawned)
  obtain ⟨settings, set, rfl⟩ := Except.map_eq_ok.mp built
  exact ⟨a, inner, assemble_resolved assembled, present, settings, set, rfl⟩

end Supervising

end

section
attribute [local instance] Platform.reference

/-- A host with intrusion detection that refuses nothing, and where shutdown never
times out. -/
def Host.obliging : Host Unit Unit where
  features := ⟨false, false, false, true⟩
  loader := .reading defaultDocument .default
  env := .single "config/application.toml" defaultDocument
  httpJob := ⟨.infallible, .exact⟩
  grpcRegistry := .infallible
  jwtVerifier _ := .ok ()
  metrics := ⟨⟨fun _ => []⟩, fun _ => ⟨fun _ => []⟩, ⟨fun _ => []⟩, fun _ => ⟨fun _ => []⟩⟩
  tracers := ⟨(), fun _ => (), fun _ _ => (), fun _ => ()⟩
  loggers := ⟨⟨⟩, fun _ _ => (), fun _ => (), fun _ => ()⟩
  observerContext _ _ _ := ()
  noopObserver := ()
  httpEgressWithConfig _ := .ok (.ok ())
  defaultHttpEgress := .ok (.ok ())
  grpcTransport _ := .ok (.ok ())
  nullLifecycle := ⟨.ok (), .ok ⟨.healthy, []⟩, .ok ()⟩
  buildIntrusion _ := .ok ⟨fun peer _ => peer, fun _ enforcer => (.allow, enforcer)⟩
  grpcServer := ⟨fun _ _ _ => none, fun _ _ => none, fun _ _ => none, fun _ => none⟩
  reflection _ := ⟨fun _ => .error (.unimplemented ""), fun _ => .ok (), .ok ⟨true, none⟩⟩
  reflectionInfoMethod := "/grpc.reflection.v1.ServerReflection/ServerReflectionInfo"
  spawnSchedulerThread := .ok ()
  startedAt := 0
  shutdownTimesOut _ := false

/-- An ingress that answers every request with an empty body. -/
def AppHttpIngress.empty : AppHttpIngress Unit where
  handle _ app := (.ok (.new 200 []), app)
  healthCheck := .ok ⟨true, none⟩

end

end EdgeBootstrap
