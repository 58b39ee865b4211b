import EdgeBootstrap.Runtime.GrpcOptions
import EdgeBootstrap.Runtime.Spawning

/-! How `serve` and `run` end. Every step before the manager is started can fail, and
only with `StartFailed`; what the manager's hooks and the timeout do afterwards is told
by the other errors. So the error says how far an entry point came. -/
namespace EdgeBootstrap

section
variable [Platform] {σ α : Type}

/-- The event is a report of the manager. -/
def RuntimeEvent.ReportsManager : RuntimeEvent σ α → Prop
  | .managerStarted _ | .managerShutDown _ => True
  | _ => False

theorem RuntimeEvent.ReportsManager.supervises {event : RuntimeEvent σ α}
    (reports : event.ReportsManager) : event.Supervises := by
  cases event with
  | managerStarted _ | managerShutDown _ => trivial
  | tracingInitialised _ | samplerSpawned _ | httpSpawned _ | grpcSpawned _ | metricsSpawned _
  | schedulerSpawned | signalled | stopSent _ | joined _ => exact reports.elim

/-- How an entry point ends that starts its manager in the situation `started`, with this
shutdown timeout and this lifecycle monitor. -/
structure EndsAs (host : Host σ α) (started : Prop) (secs : UInt64) (lifecycle : LifecycleMonitor)
    (m : Assembling σ α Unit) : Prop where
  ok : m.result = .ok () ↔
    started ∧ host.shutdownTimesOut secs = false ∧ lifecycle.shutdown = .ok ()
  startFailed : (∃ e, m.result = .error e ∧ e.IsStartFailed) ↔ ¬ started
  timeout : ∀ limit, m.result = .error (.shutdownTimeout limit) ↔
    started ∧ host.shutdownTimesOut secs = true ∧ limit = secs
  shutdownFailed : ∀ e, m.result = .error (.shutdownFailed e) ↔
    started ∧ host.shutdownTimesOut secs = false ∧ lifecycle.shutdown = .error e
  starts : .managerStarted (.ok ()) ∈ m.events ↔ started
  shutsDown : (∃ result, .managerShutDown result ∈ m.events) ↔
    started ∧ host.shutdownTimesOut secs = false

namespace EndsAs

variable {host : Host σ α} {started : Prop} {secs : UInt64} {lifecycle : LifecycleMonitor}

/-- A step before the manager, which fails in the situation `Q`. -/
theorem bind {β : Type} {m : Assembling σ α β} {f : β → Assembling σ α Unit} {Q : Prop}
    (exact : StartFails Q m.result) (quiet : m.Avoids RuntimeEvent.ReportsManager)
    (rest : ∀ b, m.result = .ok b → EndsAs host started secs lifecycle (f b)) :
    EndsAs host (¬ Q ∧ started) secs lifecycle (m >>= f) := by
  cases finished : m.result with
  | error e =>
    rw [finished] at exact
    obtain ⟨stops, msg, rfl⟩ := exact
    obtain ⟨events, result⟩ := Effects.bind_of_error (f := f) finished
    constructor
    · simp [result, stops]
    · simp [result, stops]
    · simp [result, stops]
    · simp [result, stops]
    · rw [events]
      exact iff_of_false (fun emitted => quiet _ emitted trivial) (fun began => began.1 stops)
    · rw [events]
      refine iff_of_false ?_ (fun began => began.1.1 stops)
      rintro ⟨result, emitted⟩
      exact quiet _ emitted trivial
  | ok b =>
    rw [finished] at exact
    have passed : ¬ Q := exact
    obtain ⟨events, result⟩ := Effects.bind_of_ok (f := f) finished
    obtain ⟨ok, startFailed, timeout, shutdownFailed, starts, shutsDown⟩ := rest b finished
    have later : ∀ event : RuntimeEvent σ α, event.ReportsManager →
        (event ∈ (m >>= f).events ↔ event ∈ (f b).events) := by
      intro event reports
      rw [events, List.mem_append]
      exact or_iff_right fun emitted => quiet _ emitted reports
    constructor
    · simp only [result, passed, not_false_iff, true_and, ok]
    · simp only [result, passed, not_false_iff, true_and, startFailed]
    · simp only [result, passed, not_false_iff, true_and, timeout, implies_true]
    · simp only [result, passed, not_false_iff, true_and, shutdownFailed, implies_true]
    · rw [later (.managerStarted (.ok ())) trivial, starts]
      simp [passed]
    · have reported : ∀ result, .managerShutDown result ∈ (m >>= f).events ↔
          .managerShutDown result ∈ (f b).events := fun result => later _ trivial
      simp only [reported, shutsDown, passed, not_false_iff, true_and]

theorem congr {started' : Prop} {m : Assembling σ α Unit}
    (ends : EndsAs host started secs lifecycle m) (same : started ↔ started') :
    EndsAs host started' secs lifecycle m := by
  rwa [propext same] at ends

/-- What emits no report of the manager and returns nothing of its own may follow. -/
theorem followed {m tail : Assembling σ α Unit}
    (ends : EndsAs host started secs lifecycle m) (result : tail.result = m.result)
    (events : ∀ event : RuntimeEvent σ α, event.ReportsManager →
      (event ∈ tail.events ↔ event ∈ m.events)) : EndsAs host started secs lifecycle tail := by
  obtain ⟨ok, startFailed, timeout, shutdownFailed, starts, shutsDown⟩ := ends
  constructor
  · rw [result, ok]
  · rw [result, startFailed]
  · simp only [result, timeout, implies_true]
  · simp only [result, shutdownFailed, implies_true]
  · rw [events (.managerStarted (.ok ())) trivial, starts]
  · rw [← shutsDown]
    exact exists_congr fun result => events (.managerShutDown result) trivial

end EndsAs

/-- The runner ends as its manager's hooks and the timeout say. -/
theorem runUntilSignal_endsAs (host : Host σ α) {manager : DefaultRuntimeManager σ α}
    {started : Prop} (secs : UInt64) (idle : manager.status = .stopped)
    (starts : started ↔ manager.ingress.hasAny = true ∧
      manager.lifecycle.startBackgroundTasks = .ok ()) :
    EndsAs host started secs manager.lifecycle
      (DaemonRunner.runUntilSignal host manager secs) := by
  -- a start that fails is all there is
  have refused : ∀ msg, ¬ started → (manager.start host.startedAt).1 = .error (.startFailed msg) →
      EndsAs host started secs manager.lifecycle
        (DaemonRunner.runUntilSignal host manager secs) := by
    intro msg unstarted failed
    have ran : DaemonRunner.runUntilSignal host manager secs =
        ([.managerStarted (.error (.startFailed msg))], .error (.startFailed msg)) := by
      simp only [DaemonRunner.runUntilSignal, failed]
      rfl
    rw [ran]
    constructor <;> simp [unstarted, Effects.result, Effects.events]
  cases hasAny : manager.ingress.hasAny with
  | false =>
    refine refused "no ingress transport configured — add http or grpc" (by simp [starts, hasAny]) ?_
    simp [DefaultRuntimeManager.start, idle, hasAny]
  | true =>
    cases hook : manager.lifecycle.startBackgroundTasks with
    | error e =>
      refine refused e (by simp [starts, hook]) ?_
      simp [DefaultRuntimeManager.start, idle, hasAny, hook]
    | ok done =>
      have began : started := starts.mpr ⟨hasAny, hook⟩
      let running := { manager with status := .running, startedAt := some host.startedAt }
      have answer : manager.start host.startedAt = (.ok (), running) := by
        simp [DefaultRuntimeManager.start, idle, hasAny, hook, running]
      have stopped : running.shutdown.1 = manager.lifecycle.shutdown.mapError .shutdownFailed := by
        simp only [DefaultRuntimeManager.shutdown, running]
        cases manager.lifecycle.shutdown <;> rfl
      have ran : DaemonRunner.runUntilSignal host manager secs =
          if host.shutdownTimesOut secs then
            ([.managerStarted (.ok ()), .signalled], .error (.shutdownTimeout secs))
          else ([.managerStarted (.ok ()), .signalled, .managerShutDown running.shutdown.1],
            running.shutdown.1) := by
        simp only [DaemonRunner.runUntilSignal, answer]
        cases host.shutdownTimesOut secs with
        | true => rfl
        | false =>
          simp only [Bool.false_eq_true, if_false]
          cases running.shutdown.1 <;> rfl
      rw [ran, stopped]
      cases late : host.shutdownTimesOut secs with
      | true =>
        constructor <;> simp [began, late, Effects.result, Effects.events,
          RuntimeError.IsStartFailed, eq_comm]
      | false =>
        cases shut : manager.lifecycle.shutdown with
        | ok done =>
          constructor <;> simp [began, late, shut, Effects.result, Effects.events, Except.mapError]
        | error e =>
          constructor <;> simp [began, late, shut, Effects.result, Effects.events, Except.mapError,
            RuntimeError.IsStartFailed]

/-- Spawning servers fails exactly when there is a gRPC server and it cannot be built. -/
theorem spawnServers_exactly {Q : Prop} {http metrics : Option (HttpServer σ α)}
    {grpc : Option (Except RuntimeError (GrpcServer σ α))}
    (exact : ∀ server, grpc = some server → StartFails Q server) :
    StartFails (grpc ≠ none ∧ Q) (spawnServers http grpc metrics).result := by
  cases grpc with
  | none =>
    have all : spawnServers http none metrics = _ := spawnServers_of_ok http metrics none
    rw [all]
    simp [StartFails]
  | some server =>
    have built := exact server rfl
    cases server with
    | error e =>
      rw [spawnServers_of_error]
      exact ⟨⟨by simp, built.1⟩, built.2⟩
    | ok server =>
      have all : spawnServers http (some (.ok server)) metrics = _ :=
        spawnServers_of_ok http metrics (some server)
      rw [all]
      simpa [StartFails] using built

namespace RuntimeBuilder
variable (host : Host σ α) (self : RuntimeBuilder σ α) (config : RuntimeConfig)

/-- The thread of a scheduled job cannot be spawned. -/
def SchedulerFails : Prop :=
  self.hasScheduler host = true ∧ ∃ e, host.spawnSchedulerThread = .error e

/-- Nothing keeps `serve` from starting the manager, and its hook succeeds. -/
structure Starts : Prop where
  assembles : ¬ self.AssemblyStops host config
  options : ¬ (¬ self.NoGrpc ∧ host.grpcServer.Refuses config.grpcBind (self.grpcOptions host config))
  scheduler : ¬ self.SchedulerFails host
  hook : (self.lifecycle.getD host.nullLifecycle).startBackgroundTasks = .ok ()

variable {host self config}

theorem assembleIngress_grpc (observer : Platform.ObserverContext) :
    (self.assembleIngress host observer).grpc = none ↔ self.NoGrpc := by
  unfold assembleIngress NoGrpc
  cases self.grpcJob <;> simp

/-- A thread that could be spawned takes nothing from what the runner returns. -/
theorem result_supervise (a : Assembly σ α) (spawned : ¬ self.SchedulerFails host) :
    (self.supervise host a).result =
      (DaemonRunner.runUntilSignal host (self.manager host a) a.config.shutdownTimeoutSecs).result := by
  have succeeds : ∀ {β γ : Type} (b : β) (f : β → Except RuntimeError γ),
      (Except.ok b >>= f) = f b := fun _ _ => rfl
  unfold supervise
  cases scheduled : self.hasScheduler host with
  | false =>
    simp only [Bool.false_eq_true, if_false, Effects.result_bind, Effects.result_attempt,
      Effects.result_ofExcept, stop, join, Effects.result_tellAll, succeeds]
  | true =>
    cases thread : host.spawnSchedulerThread with
    | error e => exact absurd ⟨scheduled, e, thread⟩ spawned
    | ok done =>
      simp only [if_true, startFailed, Except.mapError, Effects.result_bind, Effects.result_attempt,
        Effects.result_ofExcept, stop, join, Effects.result_tell, Effects.result_tellAll, succeeds]

/-- From the scheduler on, `serve` ends as the runner does, unless the thread cannot be
spawned. -/
theorem supervise_endsAs (a : Assembly σ α) (present : a.ingress.hasAny = true) :
    EndsAs host (¬ self.SchedulerFails host ∧
        (self.lifecycle.getD host.nullLifecycle).startBackgroundTasks = .ok ())
      a.config.shutdownTimeoutSecs (self.lifecycle.getD host.nullLifecycle)
      (self.supervise host a) := by
  by_cases fails : self.SchedulerFails host
  · obtain ⟨scheduled, e, thread⟩ := fails
    have events : (self.supervise host a).events = [] := by
      rw [events_supervise, if_pos]
      exact ⟨scheduled, by simp [thread, Except.isOk, Except.toBool]⟩
    have result : (self.supervise host a).result =
        .error (.startFailed ("spawn scheduler thread: " ++ e)) := by
      simp only [supervise, scheduled, thread]
      rfl
    have fails : self.SchedulerFails host := ⟨scheduled, e, thread⟩
    constructor <;> simp [events, result, fails]
  · have starts : (¬ self.SchedulerFails host ∧
        (self.lifecycle.getD host.nullLifecycle).startBackgroundTasks = .ok ()) ↔
        (self.manager host a).ingress.hasAny = true ∧
          (self.manager host a).lifecycle.startBackgroundTasks = .ok () := by
      simp [manager, present, fails]
    have runner := runUntilSignal_endsAs host a.config.shutdownTimeoutSecs
      (rfl : (self.manager host a).status = .stopped) starts
    refine runner.followed (result_supervise a fails) fun event reports => ?_
    have thread : ¬ (self.hasScheduler host = true ∧ host.spawnSchedulerThread.isOk = false) := by
      rintro ⟨scheduled, refused⟩
      cases spawned : host.spawnSchedulerThread with
      | error e => exact fails ⟨scheduled, e, spawned⟩
      | ok done => simp [spawned, Except.isOk, Except.toBool] at refused
    have scheduler : event ∉ (if self.hasScheduler host then [.schedulerSpawned] else [] :
        List (RuntimeEvent σ α)) := by
      split
      · rintro (_ | ⟨_, ⟨⟩⟩)
        exact reports
      · exact List.not_mem_nil
    have ending : event ∉ self.endEvents host a := by
      unfold endEvents
      simp only [List.mem_append, List.mem_map]
      rintro (⟨_, _, rfl⟩ | ⟨_, _, rfl⟩ | ended)
      · exact reports
      · exact reports
      · split at ended
        · simp only [List.mem_cons, List.not_mem_nil, or_false] at ended
          rcases ended with rfl | rfl
          · exact reports
          · exact reports
        · cases ended
    rw [events_supervise, if_neg thread]
    simp only [List.mem_append, scheduler, ending, false_or, or_false]

variable [Clock α]

/-- `serve` with a configuration ends as the situation says. -/
theorem serve_endsAs (resolved : self.resolveConfig host = .ok config) :
    EndsAs host (self.Starts host config) config.shutdownTimeoutSecs
      (self.lifecycle.getD host.nullLifecycle) (self.serve host) := by
  have setsUp : (self.assemble host).Avoids RuntimeEvent.ReportsManager := by
    refine assemble_setsUp.mono fun event reports setsUp => ?_
    exact setsUp.not_supervises reports.supervises
  have rest : ∀ a, (self.assemble host).result = .ok a →
      EndsAs host (¬ (¬ self.NoGrpc ∧
          host.grpcServer.Refuses config.grpcBind (self.grpcOptions host config)) ∧
        ¬ self.SchedulerFails host ∧
          (self.lifecycle.getD host.nullLifecycle).startBackgroundTasks = .ok ())
        config.shutdownTimeoutSecs (self.lifecycle.getD host.nullLifecycle)
        (spawnServers (a.ingress.http.map (self.httpServer a))
          (a.ingress.grpc.map (self.grpcServer host a)) (metricsServer a) >>= fun _ =>
            self.supervise host a) := by
    intro a returned
    have assembled := assemble_resolved returned
    obtain ⟨observer, ingress⟩ := assembled.ingress
    have grpc : a.ingress.grpc.map (self.grpcServer host a) ≠ none ↔ ¬ self.NoGrpc := by
      rw [ne_eq, Option.map_eq_none_iff, ingress, assembleIngress_grpc]
    have built : StartFails (¬ self.NoGrpc ∧
        host.grpcServer.Refuses config.grpcBind (self.grpcOptions host config))
        (spawnServers (a.ingress.http.map (self.httpServer a))
          (a.ingress.grpc.map (self.grpcServer host a)) (metricsServer a)).result := by
      rw [← grpc]
      refine spawnServers_exactly fun server asked => ?_
      obtain ⟨handler, _, rfl⟩ := Option.map_eq_some_iff.mp asked
      rw [← assembled.config_eq resolved]
      exact (self.grpcSettings_exactly host a.config).map _
    have spawning : (spawnServers (a.ingress.http.map (self.httpServer a))
        (a.ingress.grpc.map (self.grpcServer host a))
        (metricsServer a)).Avoids RuntimeEvent.ReportsManager := by
      refine spawnServers_spawns.mono fun event reports spawns => ?_
      exact spawns.not_supervises reports.supervises
    rw [← assembled.config_eq resolved] at built ⊢
    exact .bind built spawning fun _ _ => supervise_endsAs a assembled.hasAny
  refine (EndsAs.bind (assemble_exactly resolved) setsUp rest).congr ⟨?_, ?_⟩
  · rintro ⟨assembles, options, scheduler, hook⟩
    exact ⟨assembles, options, scheduler, hook⟩
  · rintro ⟨assembles, options, scheduler, hook⟩
    exact ⟨assembles, options, scheduler, hook⟩

omit [Clock α] in
/-- A configuration that cannot be resolved is a start that failed. -/
theorem resolveConfig_fails {e : RuntimeError} (failed : self.resolveConfig host = .error e) :
    e.IsStartFailed := by
  unfold resolveConfig at failed
  split at failed
  · cases failed
  · rename_i loaded
    cases load : (ApplicationConfigLoader.xdg host.env (self.appName.getD "swe-edge")).load
        host.loader host.env with
    | ok config =>
      rw [load] at failed
      cases failed
    | error cause =>
      rw [load] at failed
      cases failed
      exact RuntimeError.isStartFailed _

end RuntimeBuilder

namespace Runtime
variable (host : Host σ α) (config : RuntimeConfig) (ingress : Ingress σ α)
  (egress : Egress) (lifecycle : LifecycleMonitor)

/-- Nothing keeps `run` from starting the manager, and its hook succeeds. -/
structure Starts : Prop where
  verifier : ¬ RuntimeBuilder.VerifierFails host config
  options : ¬ (ingress.grpc ≠ none ∧ host.grpcServer.Refuses config.grpcBind (grpcOptions config))
  ingress : ingress.hasAny = true
  hook : lifecycle.startBackgroundTasks = .ok ()

/-- `run` ends as the situation says. -/
theorem run_endsAs :
    EndsAs host (Starts host config ingress lifecycle) config.shutdownTimeoutSecs lifecycle
      (run host config ingress egress lifecycle) := by
  have supervised : EndsAs host
      (ingress.hasAny = true ∧ lifecycle.startBackgroundTasks = .ok ())
      config.shutdownTimeoutSecs lifecycle (supervise host config ingress egress lifecycle) := by
    have runner := runUntilSignal_endsAs host config.shutdownTimeoutSecs
      (rfl : (runtimeManager config ingress egress lifecycle).status = .stopped) Iff.rfl
    refine runner.followed ?_ fun event reports => ?_
    · simp only [supervise, Effects.result_bind, Effects.result_attempt, Effects.result_ofExcept,
        stop, join, Effects.result_tellAll]
      rfl
    · have stopped : ∀ tasks : List Task, event ∉ tasks.map .stopSent := by
        intro tasks member
        obtain ⟨_, _, rfl⟩ := List.mem_map.mp member
        exact reports
      have joined : ∀ tasks : List Task, event ∉ tasks.map .joined := by
        intro tasks member
        obtain ⟨_, _, rfl⟩ := List.mem_map.mp member
        exact reports
      simp only [supervise, stop, join, Effects.events_attempt_bind, Effects.events_tellAll_bind,
        Effects.events_ofExcept, List.append_nil, List.mem_append, stopped, joined, or_false]
  have rest : ∀ verifier, RuntimeBuilder.verifierOfConfig host config = .ok verifier →
      EndsAs host (¬ (ingress.grpc ≠ none ∧
          host.grpcServer.Refuses config.grpcBind (grpcOptions config)) ∧
        ingress.hasAny = true ∧ lifecycle.startBackgroundTasks = .ok ())
        config.shutdownTimeoutSecs lifecycle
        (spawnServers (ingress.http.map (httpServer config verifier))
          (ingress.grpc.map (grpcServer host config)) none >>= fun _ =>
            supervise host config ingress egress lifecycle) := by
    intro verifier _
    have grpc : ingress.grpc.map (grpcServer host config) ≠ none ↔ ingress.grpc ≠ none := by simp
    rw [← grpc]
    refine .bind (spawnServers_exactly fun server asked => ?_) ?_ fun _ _ => supervised
    · obtain ⟨handler, _, rfl⟩ := Option.map_eq_some_iff.mp asked
      exact (grpcSettings_exactly host config).map _
    · refine spawnServers_spawns.mono fun event reports spawns => ?_
      exact spawns.not_supervises reports.supervises
  have verified := RuntimeBuilder.verifierOfConfig_exactly host config
  refine (EndsAs.bind verified (Effects.avoids_ofExcept _) rest).congr ⟨?_, ?_⟩
  · rintro ⟨verifier, options, present, hook⟩
    exact ⟨verifier, options, present, hook⟩
  · rintro ⟨verifier, options, present, hook⟩
    exact ⟨verifier, options, present, hook⟩

end Runtime

/-- Both entry points end as the situation they start in says. They return `Ok` exactly
when nothing keeps them from starting the manager, its shutdown is in time and both hooks
succeed; and the error tells how far they came: `StartFailed` that the manager never ran,
`ShutdownTimeout` that its shutdown was given up, `ShutdownFailed` that its hook failed. -/
theorem entry_points_end_as [Clock α] (host : Host σ α) :
    (∀ self : RuntimeBuilder σ α,
      (∀ config, self.resolveConfig host = .ok config →
        EndsAs host (self.Starts host config) config.shutdownTimeoutSecs
          (self.lifecycle.getD host.nullLifecycle) (self.serve host)) ∧
      ∀ e, self.resolveConfig host = .error e →
        e.IsStartFailed ∧ self.serve host = ([], .error e)) ∧
    ∀ config ingress egress lifecycle,
      EndsAs host (Runtime.Starts host config ingress lifecycle) config.shutdownTimeoutSecs
        lifecycle (Runtime.run host config ingress egress lifecycle) := by
  constructor
  · intro self
    constructor
    · exact fun _ resolved => RuntimeBuilder.serve_endsAs resolved
    · intro e failed
      refine ⟨RuntimeBuilder.resolveConfig_fails failed, ?_⟩
      simp only [RuntimeBuilder.serve, RuntimeBuilder.assemble, failed]
      rfl
  · exact Runtime.run_endsAs host

end

section
attribute [local instance] Platform.reference

/-- A builder with an ingress, whose lifecycle monitor does not shut down. -/
private def lingering : RuntimeBuilder Unit Unit where
  config := some .default
  httpHandler := some .empty
  lifecycle := some ⟨.ok (), .ok ⟨.healthy, []⟩, .error "busy"⟩

/-- It is started, and the refusal of its hook is what `serve` returns. -/
theorem entry_points_end_as_lingering :
    lingering.Starts .obliging .default ∧
      (lingering.serve .obliging).result = .error (.shutdownFailed "busy") := by
  have ends := ((entry_points_end_as .obliging).1 lingering).1 .default rfl
  have returned : (lingering.serve .obliging).result = .error (.shutdownFailed "busy") := rfl
  exact ⟨((ends.shutdownFailed "busy").mp returned).1, returned⟩

end

end EdgeBootstrap
