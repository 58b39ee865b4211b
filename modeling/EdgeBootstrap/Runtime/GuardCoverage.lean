import EdgeBootstrap.Runtime.Spawning

/-! Intrusion guard coverage. A guard mediates every request that passes through
the handler it wraps; the stream handler of the HTTP server is attached beside
the wrapped handler, so a request for it passes no guard. -/
namespace EdgeBootstrap

section
variable [Platform] {σ α : Type}

/-- The request asks for an event stream or an upgrade. -/
def HttpInbound.IsUpgrade : HttpInbound → Prop
  | .plain _ => False
  | .sse _ | .websocket _ _ => True

/-- The event of a gRPC call of either kind. -/
def Wired.callEvent (wired : Wired σ) : GrpcInbound → UInt64 → RequestEvent
  | .unary req =>
    wired.grpcEvent req.request.method req.peerAddr req.request.metadata.headers
  | .stream req => wired.grpcEvent req.method req.peerAddr req.metadata.headers

section Dispatching

/-- All requests but those for a stream handler go to the handler. -/
theorem HttpServer.events_dispatch {server : HttpServer σ α} {inbound : HttpInbound}
    (handled : ¬ (inbound.IsUpgrade ∧ server.streamHandler ≠ none)) (w : World σ α) :
    (server.dispatch inbound).events w = (server.handler.handle inbound.request).events w := by
  cases inbound with
  | plain req => exact Traced.events_map ..
  | sse req =>
    have unset : server.streamHandler = none := by
      by_contra set
      exact handled ⟨trivial, set⟩
    simp only [HttpServer.dispatch, unset]
    exact Traced.events_map ..
  | websocket req channel =>
    have unset : server.streamHandler = none := by
      by_contra set
      exact handled ⟨trivial, set⟩
    simp only [HttpServer.dispatch, unset]
    exact Traced.events_map ..

/-- A request for a stream handler enters it, and nothing else. -/
theorem HttpServer.events_dispatch_stream {server : HttpServer σ α} {inbound : HttpInbound}
    {app : AppHttpStream α} (upgrade : inbound.IsUpgrade)
    (attached : server.streamHandler = some (app.stream σ)) (w : World σ α) :
    (server.dispatch inbound).events w = [.entered .httpStream] := by
  cases inbound with
  | plain req => cases upgrade
  | sse req =>
    simp only [HttpServer.dispatch, attached]
    exact Traced.events_map ..
  | websocket req channel =>
    simp only [HttpServer.dispatch, attached]
    exact Traced.events_map ..

variable [Clock α] (wired : Wired σ)

/-- Behind a guard, a server mediates exactly the requests that it does not send
to a stream handler. -/
theorem guarded_http_iff {server : HttpServer σ α} {inner : HttpIngress σ α}
    {app : Option (AppHttpStream α)} (guard : server.handler = HttpIntrusionGuard inner wired)
    (attached : server.streamHandler = app.map (·.stream σ)) (inbound : HttpInbound)
    (w : World σ α) :
    Mediated (Event.Allows (wired.httpEvent inbound.request)) Event.IsEntry
        ((server.dispatch inbound).events w) ↔
      ¬ (inbound.IsUpgrade ∧ app ≠ none) := by
  have same : server.streamHandler ≠ none ↔ app ≠ none := by simp [attached]
  constructor
  · rintro mediated ⟨upgrade, set⟩
    obtain ⟨stream, rfl⟩ := Option.ne_none_iff_exists'.mp set
    rw [HttpServer.events_dispatch_stream upgrade attached] at mediated
    exact Mediated.not_first trivial mediated
  · intro handled
    rw [← same] at handled
    rw [HttpServer.events_dispatch handled, guard]
    exact mediated_guarded wired _ _ _ w

/-- Behind a guard, a server mediates every call, those of reflection too. -/
theorem guarded_grpc {server : GrpcServer σ α} {inner : GrpcIngress σ α}
    (guard : server.handler = GrpcIntrusionGuard inner wired) (inbound : GrpcInbound)
    (w : World σ α) :
    Mediated (Event.Allows (wired.callEvent inbound)) Event.IsEntry
      ((server.dispatch inbound).events w) := by
  have undeclared : Mediated (Event.Allows (wired.callEvent inbound)) Event.IsEntry [] :=
    Mediated.of_forall_not nofun
  cases inbound with
  | unary req =>
    by_cases declared : (server.streamingKinds.lookup req.request.method).isSome
    · simp only [GrpcServer.dispatch, if_pos declared, Traced.events_map, guard]
      exact mediated_guarded wired _ _ _ w
    · simp only [GrpcServer.dispatch, if_neg declared]
      exact undeclared
  | stream req =>
    by_cases declared : (server.streamingKinds.lookup req.method).isSome
    · simp only [GrpcServer.dispatch, if_pos declared, Traced.events_map, guard]
      exact mediated_guarded wired _ _ _ w
    · simp only [GrpcServer.dispatch, if_neg declared]
      exact undeclared

end Dispatching

namespace RuntimeBuilder
variable [Clock α] {host : Host σ α} {self : RuntimeBuilder σ α} {config : RuntimeConfig}
  {wired : Wired σ}

omit [Clock α] in
/-- The wiring of an assembly is the one that was resolved. -/
private theorem intrusion_eq {a : Assembly σ α} (assembled : Resolved host self a)
    (resolved : self.resolveConfig host = .ok config)
    (wires : self.resolveIntrusion host config = .ok (some wired)) : a.intrusion = some wired := by
  have guard := assembled.intrusion
  rw [assembled.config_eq resolved, wires] at guard
  exact (Except.ok.inj guard).symm

/-- The HTTP server is one whose handler is wrapped in the guard, with the stream
handler of the builder as it is. -/
private theorem guarded_http_spawned {server : HttpServer σ α}
    (resolved : self.resolveConfig host = .ok config)
    (wires : self.resolveIntrusion host config = .ok (some wired))
    (emitted : .httpSpawned server ∈ (self.serve host).events) :
    (∃ inner, server.handler = HttpIntrusionGuard inner wired) ∧
      server.streamHandler = self.streamHandler.map (·.stream σ) := by
  obtain ⟨a, handler, assembled, _, rfl⟩ := http_spawned emitted
  have guard := intrusion_eq assembled resolved wires
  refine ⟨⟨if a.metrics.isSome then HttpLoadMonitor handler else handler, ?_⟩, rfl⟩
  simp only [httpServer, httpStack, guard]

/-- The gRPC server is one whose handler is wrapped in the guard. -/
private theorem guarded_grpc_spawned {server : GrpcServer σ α}
    (resolved : self.resolveConfig host = .ok config)
    (wires : self.resolveIntrusion host config = .ok (some wired))
    (emitted : .grpcSpawned server ∈ (self.serve host).events) :
    ∃ inner, server.handler = GrpcIntrusionGuard inner wired := by
  obtain ⟨a, handler, assembled, _, settings, _, rfl⟩ := grpc_spawned emitted
  have guard := intrusion_eq assembled resolved wires
  simp only [grpcStack, guard]
  exact ⟨_, rfl⟩

/-- The metrics server serves the metrics page and nothing else. -/
private theorem metrics_spawned {server : HttpServer σ α}
    (emitted : .metricsSpawned server ∈ (self.serve host).events) :
    (∃ page : MetricsHandler, server.handler = page.ingress) ∧ server.streamHandler = none := by
  obtain ⟨a, _, spawned⟩ := (mem_serve_iff (by trivial)).mp emitted
  rcases mem_spawnServers spawned with ⟨_, _, other⟩ | ⟨_, _, other⟩ | ⟨_, asked, same⟩
  · cases other
  · cases other
  · cases same
    unfold metricsServer at asked
    split at asked
    · cases asked
      exact ⟨⟨_, rfl⟩, rfl⟩
    · cases asked

/-- Once an intrusion wiring is resolved, the HTTP server mediates a request
exactly when it does not go to a stream handler, the gRPC server mediates every
call, and the metrics server enters no application code. -/
theorem intrusion_coverage_iff (host : Host σ α) (self : RuntimeBuilder σ α)
    (config : RuntimeConfig) (wired : Wired σ) (resolved : self.resolveConfig host = .ok config)
    (wires : self.resolveIntrusion host config = .ok (some wired)) :
    (∀ server, .httpSpawned server ∈ (self.serve host).events → ∀ inbound w,
      (Mediated (Event.Allows (wired.httpEvent inbound.request)) Event.IsEntry
          ((server.dispatch inbound).events w) ↔
        ¬ (inbound.IsUpgrade ∧ self.streamHandler ≠ none))) ∧
    (∀ server, .grpcSpawned server ∈ (self.serve host).events → ∀ inbound w,
      Mediated (Event.Allows (wired.callEvent inbound)) Event.IsEntry
        ((server.dispatch inbound).events w)) ∧
    ∀ server, .metricsSpawned server ∈ (self.serve host).events → ∀ inbound w,
      ∀ e ∈ (server.dispatch inbound).events w, ¬ e.IsEntry := by
  refine ⟨?_, ?_, ?_⟩
  · intro server emitted inbound w
    obtain ⟨⟨inner, guard⟩, attached⟩ := guarded_http_spawned resolved wires emitted
    exact guarded_http_iff wired guard attached inbound w
  · intro server emitted inbound w
    obtain ⟨inner, guard⟩ := guarded_grpc_spawned resolved wires emitted
    exact guarded_grpc wired guard inbound w
  · intro server emitted inbound w e called
    obtain ⟨⟨page, serves⟩, unset⟩ := metrics_spawned emitted
    have handled : ¬ (inbound.IsUpgrade ∧ server.streamHandler ≠ none) := by simp [unset]
    rw [HttpServer.events_dispatch handled, serves, MetricsHandler.events_ingress] at called
    cases called

end RuntimeBuilder

end

section
attribute [local instance] Platform.reference

/-- Intrusion detection that rejects every request. -/
def Wired.rejecting : Wired Unit where
  extractIp peer _ := peer
  guard _ enforcer := (.reject ⟨"deny-all", "every request is refused"⟩, enforcer)

/-- A stream handler that accepts every request. -/
def AppHttpStream.accepting : AppHttpStream Unit where
  handleSse _ app := (.ok (), app)
  handleWebsocket _ _ app := (.ok (), app)

/-- A builder with an ingress, a stream handler and an enforcer that rejects
everything. -/
private def streaming : RuntimeBuilder Unit Unit where
  config := some .default
  httpHandler := some .empty
  streamHandler := some .accepting
  intrusion := some .rejecting

private theorem streaming_spawned :
    ∃ server, server.streamHandler = some (AppHttpStream.accepting.stream Unit) ∧
      .httpSpawned server ∈ (streaming.serve .obliging).events :=
  ⟨_, rfl, .head _⟩

/-- Its other requests are mediated. -/
theorem intrusion_coverage_iff_streaming :
    ∃ server, .httpSpawned server ∈ (streaming.serve .obliging).events ∧
      ∀ req w, Mediated (Event.Allows (Wired.rejecting.httpEvent req)) Event.IsEntry
        ((server.dispatch (.plain req)).events w) := by
  obtain ⟨server, _, emitted⟩ := streaming_spawned
  have coverage := RuntimeBuilder.intrusion_coverage_iff .obliging streaming .default .rejecting
    rfl rfl
  refine ⟨server, emitted, fun req w => (coverage.1 server emitted (.plain req) w).mpr ?_⟩
  rintro ⟨upgrade, _⟩
  exact upgrade

/-- A request for an event stream, from the network. -/
def eventStreamReq : InboundRequest :=
  ⟨⟨.get, "/events", [("accept", "text/event-stream")], none⟩, (), ⟨.v4 0, 0⟩⟩

/-- A request for an event stream enters the stream handler, and the enforcer,
which rejects everything, is not consulted. -/
theorem event_stream_passes_no_guard :
    streaming.resolveConfig .obliging = .ok .default ∧
      streaming.resolveIntrusion .obliging .default = .ok (some .rejecting) ∧
      ∃ server, .httpSpawned server ∈ (streaming.serve .obliging).events ∧
        (server.dispatch (.sse eventStreamReq)).events ⟨(), .new, ()⟩ = [.entered .httpStream] ∧
        ¬ Mediated (Event.Allows (Wired.rejecting.httpEvent eventStreamReq)) Event.IsEntry
          ((server.dispatch (.sse eventStreamReq)).events ⟨(), .new, ()⟩) := by
  obtain ⟨server, attached, emitted⟩ := streaming_spawned
  have calls : (server.dispatch (.sse eventStreamReq)).events ⟨(), .new, ()⟩ =
      [.entered .httpStream] := HttpServer.events_dispatch_stream (by trivial) attached _
  refine ⟨rfl, rfl, server, emitted, calls, ?_⟩
  rw [calls]
  exact Mediated.not_first trivial

end

end EdgeBootstrap
