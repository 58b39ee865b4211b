import EdgeBootstrap.Dispatch.AppState
import EdgeBootstrap.Runtime.Spawning

/-! The ingress stacks. A guard turns a request away before anything else saw it,
a monitor counts a request around what it wraps, and reflection calls leave the
stack between the two; each wrapper passes on the one call it was given. -/
namespace EdgeBootstrap

section Calls
variable {σ α β ε : Type}

/-- What a guard, if there is one, makes of a request: its decision, the enforcer
it leaves, and the consultation. -/
def screen [Clock α] (intrusion : Option (Wired σ)) (event : Wired σ → UInt64 → RequestEvent)
    (w : World σ α) : Decision × σ × List Event :=
  match intrusion with
  | some wired =>
    let asked := event wired (Clock.micros w.app)
    let (decision, enforcer) := wired.guard asked w.enforcer
    (decision, enforcer, [.consulted asked decision])
  | none => (.allow, w.enforcer, [])

/-- The call is answered with `reply`, and only the enforcer has seen it. -/
structure TurnedAway (stack : Exec σ α (Except ε β)) (reply : Except ε β) (consulted : List Event)
    (enforcer : σ) (w : World σ α) : Prop where
  value : stack.value w = reply
  events : stack.events w = consulted
  state : stack.state w = { w with enforcer }

/-- The world a call is passed on in. -/
def World.entering (w : World σ α) (enforcer : σ) (counts : Bool) : World σ α :=
  { w with enforcer, counters := if counts then w.counters.onStart else w.counters }

/-- The call is passed on once, and its answer is the answer. If the stack counts,
it counts the call out as it ended. -/
structure PassedOn (stack inner : Exec σ α (Except ε β)) (consulted : List Event) (enforcer : σ)
    (counts : Bool) (w : World σ α) : Prop where
  value : stack.value w = inner.value (w.entering enforcer counts)
  events : stack.events w = consulted ++ inner.events (w.entering enforcer counts)
  state : ∃ latencyUs, stack.state w =
    let left := inner.state (w.entering enforcer counts)
    if counts then
      { left with counters := left.counters.onEnd latencyUs !(stack.value w).isOk }
    else left

/-- Around a call that stays in the application, exactly one request is recorded,
and as an error exactly when it ended in one; or none, if the stack does not
count. -/
theorem PassedOn.recorded {stack inner : Exec σ α (Except ε β)} {consulted : List Event}
    {enforcer : σ} {counts : Bool} {w : World σ α}
    (passed : PassedOn stack inner consulted enforcer counts w) (stays : inner.StaysInApp) :
    (stack.state w).enforcer = enforcer ∧ ∃ latencyUs, (stack.state w).counters =
      if counts then w.counters.withRequest latencyUs !(stack.value w).isOk else w.counters := by
  obtain ⟨latencyUs, left⟩ := passed.state
  obtain ⟨app, inside⟩ := stays (w.entering enforcer counts)
  rw [left, inside]
  cases counts with
  | true => exact ⟨rfl, latencyUs, TrafficCounters.onEnd_onStart ..⟩
  | false => exact ⟨rfl, latencyUs, rfl⟩

/-- How a stack treats the calls of one request: the guard turns it away, or it is
passed on to `inner`; and one that is passed on is recorded once if the stack
counts. -/
structure Transparent [Clock α] (intrusion : Option (Wired σ))
    (event : Wired σ → UInt64 → RequestEvent) (denied : String → ε) (counts : Bool)
    (inner stack : Exec σ α (Except ε β)) : Prop where
  rejected : ∀ w verdict enforcer consulted,
    screen intrusion event w = (.reject verdict, enforcer, consulted) →
    TurnedAway stack (.error (denied verdict.blocked)) consulted enforcer w
  allowed : ∀ w enforcer consulted, screen intrusion event w = (.allow, enforcer, consulted) →
    PassedOn stack inner consulted enforcer counts w
  recorded : inner.StaysInApp → ∀ w enforcer consulted,
    screen intrusion event w = (.allow, enforcer, consulted) →
    (stack.state w).enforcer = enforcer ∧ ∃ latencyUs, (stack.state w).counters =
      if counts then w.counters.withRequest latencyUs !(stack.value w).isOk else w.counters

variable {counts : Bool} {inner stack : Exec σ α (Except ε β)}

theorem PassedOn.refl (inner : Exec σ α (Except ε β)) (w : World σ α) :
    PassedOn inner inner [] w.enforcer false w :=
  ⟨rfl, rfl, 0, rfl⟩

variable [Clock α] {event : Wired σ → UInt64 → RequestEvent} {denied : String → ε}

/-- A monitor passes every call on, and counts it. -/
theorem passedOn_monitored (inner : Exec σ α (Except ε β)) (w : World σ α) :
    PassedOn (monitored inner) inner [] w.enforcer true w :=
  ⟨value_monitored inner w, events_monitored inner w, _, rfl⟩

/-- What passes every call on is transparent without a guard. -/
theorem transparent_none
    (passed : ∀ w : World σ α, PassedOn stack inner [] w.enforcer counts w) :
    Transparent none event denied counts inner stack := by
  have allowed : ∀ (w : World σ α) enforcer consulted,
      screen none event w = (.allow, enforcer, consulted) →
      PassedOn stack inner consulted enforcer counts w := by
    intro w enforcer consulted decided
    cases decided
    exact passed w
  constructor
  · intro w verdict enforcer consulted decided
    cases decided
  · exact allowed
  · intro stays w enforcer consulted decided
    exact (allowed w enforcer consulted decided).recorded stays

/-- A guard around what passes every call on is transparent. -/
theorem transparent_guarded (wired : Wired σ)
    (passed : ∀ w : World σ α, PassedOn stack inner [] w.enforcer counts w) :
    Transparent (some wired) event denied counts inner
      (guarded wired (event wired) denied stack) := by
  have allowed : ∀ (w : World σ α) enforcer consulted,
      screen (some wired) event w = (.allow, enforcer, consulted) →
      PassedOn (guarded wired (event wired) denied stack) inner consulted enforcer counts w := by
    intro w enforcer consulted decided
    simp only [screen, Prod.mk.injEq] at decided
    obtain ⟨decision, rfl, rfl⟩ := decided
    obtain ⟨value, events, latencyUs, state⟩ := passed
      { w with enforcer := (wired.guard (event wired (Clock.micros w.app)) w.enforcer).2 }
    constructor
    · rw [Traced.value, guarded_of_allow decision]
      exact value
    · rw [Traced.events, guarded_of_allow decision, decision]
      exact congrArg (_ :: ·) events
    · refine ⟨latencyUs, ?_⟩
      rw [Traced.state, Traced.value, guarded_of_allow decision]
      exact state
  constructor
  · intro w verdict enforcer consulted decided
    simp only [screen, Prod.mk.injEq] at decided
    obtain ⟨decision, rfl, rfl⟩ := decided
    constructor
    · rw [Traced.value, guarded_of_reject decision]
    · rw [Traced.events, guarded_of_reject decision, decision]
    · rw [Traced.state, guarded_of_reject decision]
  · exact allowed
  · intro stays w enforcer consulted decided
    exact (allowed w enforcer consulted decided).recorded stays

end Calls

section
variable [Platform] {σ α : Type}

/-- The method starts with the prefix of reflection. -/
def IsReflection (method : String) : Prop := ∃ rest, method = reflectionPrefix ++ rest

/-- A composite routes the methods of reflection to the reflection service, and
all others to the primary ingress. -/
theorem CompositeGrpcIngress.route_spec (self : CompositeGrpcIngress σ α) (method : String) :
    (IsReflection method → self.route method = self.reflection) ∧
      (¬ IsReflection method → self.route method = self.primary) := by
  have starts : IsReflection method ↔
      reflectionPrefix.toList.isPrefixOf method.toList = true := by
    rw [List.isPrefixOf_iff_prefix]
    constructor
    · rintro ⟨rest, rfl⟩
      exact ⟨rest.toList, String.toList_append.symm⟩
    · rintro ⟨rest, split⟩
      refine ⟨.ofList rest, String.toList_inj.mp ?_⟩
      rw [String.toList_append, String.toList_ofList, split]
  unfold route
  constructor
  · intro reflects
    rw [if_pos (starts.mp reflects)]
  · intro other
    rw [if_neg (mt starts.mpr other)]

/-- The stack passes every call of the method on to `inner`. -/
structure GrpcIngress.PassesOn (stack inner : GrpcIngress σ α) (counts : Bool) (method : String) :
    Prop where
  unary : ∀ req : UnaryRequest, req.request.method = method → ∀ w,
    PassedOn (stack.handleUnary req) (inner.handleUnary req) [] w.enforcer counts w
  stream : ∀ req : StreamRequest, req.method = method → ∀ w,
    PassedOn (stack.handleStream req) (inner.handleStream req) [] w.enforcer counts w

variable [Clock α]

/-- The stack treats every call of the method so, unary or streaming. -/
structure GrpcIngress.TransparentFor (intrusion : Option (Wired σ)) (counts : Bool)
    (inner stack : GrpcIngress σ α) (method : String) : Prop where
  unary : ∀ req : UnaryRequest, req.request.method = method →
    Transparent intrusion
      (·.grpcEvent req.request.method req.peerAddr req.request.metadata.headers) .permissionDenied
      counts (inner.handleUnary req) (stack.handleUnary req)
  stream : ∀ req : StreamRequest, req.method = method →
    Transparent intrusion (·.grpcEvent req.method req.peerAddr req.metadata.headers)
      .permissionDenied counts (inner.handleStream req) (stack.handleStream req)

namespace RuntimeBuilder
variable (host : Host σ α) (self : RuntimeBuilder σ α) (a : Assembly σ α)

theorem httpStack_transparent (inner : HttpIngress σ α) (req : InboundRequest) :
    Transparent a.intrusion (·.httpEvent req) .permissionDenied a.metrics.isSome (inner.handle req)
      ((httpStack a inner).handle req) := by
  have passed : ∀ w : World σ α,
      PassedOn ((if a.metrics.isSome then HttpLoadMonitor inner else inner).handle req)
        (inner.handle req) [] w.enforcer a.metrics.isSome w := by
    intro w
    cases a.metrics.isSome with
    | true => exact passedOn_monitored (inner.handle req) w
    | false => exact PassedOn.refl (inner.handle req) w
  unfold httpStack
  cases a.intrusion with
  | some wired => exact transparent_guarded wired passed
  | none => exact transparent_none passed

/-- A guard around a stack that passes the calls of a method on, or none. -/
theorem transparentFor_guard {stack inner : GrpcIngress σ α} {counts : Bool} {method : String}
    (passes : stack.PassesOn inner counts method) (intrusion : Option (Wired σ)) :
    GrpcIngress.TransparentFor intrusion counts inner
      (match intrusion with
        | some wired => GrpcIntrusionGuard stack wired
        | none => stack) method := by
  cases intrusion with
  | some wired =>
    constructor
    · intro req called
      exact transparent_guarded wired (passes.unary req called)
    · intro req called
      exact transparent_guarded wired (passes.stream req called)
  | none =>
    constructor
    · intro req called
      exact transparent_none (passes.unary req called)
    · intro req called
      exact transparent_none (passes.stream req called)

/-- The monitor, if there is one, passes every call on. -/
theorem monitor_passesOn (inner : GrpcIngress σ α) (counts : Bool) (method : String) :
    (if counts then GrpcLoadMonitor inner else inner).PassesOn inner counts method := by
  cases counts with
  | true => exact ⟨fun req _ => passedOn_monitored (inner.handleUnary req),
      fun req _ => passedOn_monitored (inner.handleStream req)⟩
  | false => exact ⟨fun req _ => PassedOn.refl (inner.handleUnary req),
      fun req _ => PassedOn.refl (inner.handleStream req)⟩

/-- Calls of other methods than those of reflection reach the inner ingress, and
so do all calls when there is no reflection service. -/
theorem grpcStack_transparent (inner : GrpcIngress σ α) (method : String)
    (primary : IsReflection method → self.reflectionRouteLister host a.config = none) :
    GrpcIngress.TransparentFor a.intrusion a.metrics.isSome inner (self.grpcStack host a inner)
      method := by
  unfold grpcStack
  apply transparentFor_guard
  have monitored := monitor_passesOn inner a.metrics.isSome method
  cases lister : self.reflectionRouteLister host a.config with
  | none => exact monitored
  | some ids =>
    have other : ¬ IsReflection method := by
      intro reflects
      rw [primary reflects] at lister
      cases lister
    constructor
    · rintro req rfl
      simp only [CompositeGrpcIngress.ingress, (CompositeGrpcIngress.route_spec _ _).2 other]
      exact monitored.unary req rfl
    · rintro req rfl
      simp only [CompositeGrpcIngress.ingress, (CompositeGrpcIngress.route_spec _ _).2 other]
      exact monitored.stream req rfl

/-- Calls of reflection reach the reflection service, uncounted. -/
theorem grpcStack_reflects (inner : GrpcIngress σ α) {ids : List String}
    (lister : self.reflectionRouteLister host a.config = some ids) {method : String}
    (reflects : IsReflection method) :
    GrpcIngress.TransparentFor a.intrusion false (reflectionService host ids)
      (self.grpcStack host a inner) method := by
  unfold grpcStack
  simp only [lister]
  apply transparentFor_guard
  constructor
  · rintro req rfl
    simp only [CompositeGrpcIngress.ingress, (CompositeGrpcIngress.route_spec _ _).1 reflects]
    exact PassedOn.refl _
  · rintro req rfl
    simp only [CompositeGrpcIngress.ingress, (CompositeGrpcIngress.route_spec _ _).1 reflects]
    exact PassedOn.refl _

/-- The jobs of the builder were filled by registrations. -/
structure Registered (builder : RuntimeBuilder σ α) : Prop where
  http : ∀ job, builder.httpJob = some job →
    ∃ deps routes, job = DefaultHttpJob.registerAll deps .new routes
  grpc : ∀ job, builder.grpcJob = some job →
    ∃ behaviour routes, job = DefaultGrpcJob.registerAll behaviour .new routes

/-- Every call of the ingress stays in the application. -/
structure GrpcStaysInApp (inner : GrpcIngress σ α) : Prop where
  unary : ∀ req, (inner.handleUnary req).StaysInApp
  stream : ∀ req, (inner.handleStream req).StaysInApp

omit [Clock α] in
theorem reflectionService_staysInApp (ids : List String) :
    GrpcStaysInApp (reflectionService host ids) :=
  ⟨fun _ w => ⟨w.app, rfl⟩, fun _ w => ⟨w.app, rfl⟩⟩

variable {host self}

omit [Clock α] in
theorem http_staysInApp (registered : self.Registered) {observer : Platform.ObserverContext}
    {inner : HttpIngress σ α} (present : (self.assembleIngress host observer).http = some inner)
    (req : InboundRequest) : (inner.handle req).StaysInApp := by
  simp only [assembleIngress] at present
  cases stored : self.httpJob with
  | some job =>
    obtain ⟨deps, routes, rfl⟩ := registered.http job stored
    rw [stored] at present
    cases present
    exact (DefaultHttpJob.run_staysInApp _ _
      (DefaultHttpJob.storedStayInApp_registerAll deps routes) _ _).map _
  | none =>
    rw [stored] at present
    obtain ⟨app, _, rfl⟩ := Option.map_eq_some_iff.mp present
    exact app.staysInApp req

omit [Clock α] in
theorem grpc_staysInApp (registered : self.Registered) {observer : Platform.ObserverContext}
    {inner : GrpcIngress σ α} (present : (self.assembleIngress host observer).grpc = some inner) :
    GrpcStaysInApp inner := by
  simp only [assembleIngress] at present
  cases stored : self.grpcJob with
  | some job =>
    obtain ⟨behaviour, routes, rfl⟩ := registered.grpc job stored
    rw [stored] at present
    cases present
    constructor
    · intro req
      exact (DefaultGrpcJob.run_staysInApp _ _
        (DefaultGrpcJob.storedStayInApp_registerAll behaviour routes) _ _).map _
    · exact fun _ => Exec.staysInApp_pure _
  | none =>
    rw [stored] at present
    obtain ⟨app, _, rfl⟩ := Option.map_eq_some_iff.mp present
    exact ⟨app.handleUnary_staysInApp, app.handleStream_staysInApp⟩

/-- The enforcer in front of the servers is the builder's own, or else the one that the
configuration asks for; without the feature there is none. -/
structure Enforces (host : Host σ α) (builder : RuntimeBuilder σ α) (config : RuntimeConfig)
    (intrusion : Option (Wired σ)) : Prop where
  own : host.features.intrusion = true → ∀ wired, builder.intrusion = some wired →
    intrusion = some wired
  configured : host.features.intrusion = true → builder.intrusion = none →
    ∀ cfg, config.intrusion = some cfg →
      ∃ wired, host.buildIntrusion cfg = .ok wired ∧ intrusion = some wired
  unasked : builder.intrusion = none → config.intrusion = none → intrusion = none
  disabled : host.features.intrusion = false → intrusion = none

omit [Clock α] in
theorem enforces_of_resolved {config : RuntimeConfig} {intrusion : Option (Wired σ)}
    (resolved : self.resolveIntrusion host config = .ok intrusion) :
    self.Enforces host config intrusion := by
  unfold resolveIntrusion at resolved
  constructor
  · intro on wired held
    simp only [on, held, if_true] at resolved
    exact (Except.ok.inj resolved).symm
  · intro on none cfg asked
    simp only [on, none, asked, if_true] at resolved
    cases built : host.buildIntrusion cfg with
    | error e =>
      rw [built] at resolved
      cases resolved
    | ok wired =>
      rw [built] at resolved
      exact ⟨wired, rfl, (Except.ok.inj resolved).symm⟩
  · intro none unasked
    simp only [none, unasked, ite_self] at resolved
    exact (Except.ok.inj resolved).symm
  · intro off
    simp only [off] at resolved
    exact (Except.ok.inj resolved).symm

/-- The servers that `serve` spawns treat every request as their stacks should: one
the enforcer rejects is denied, unseen and uncounted; one it allows is passed on
once, to the inner ingress and counted, or to the reflection service uncounted.
What is passed on to changes nothing but the state of the application, and the
enforcer is the builder's own, or else that of the configuration. -/
theorem stacks_transparent (host : Host σ α) (self : RuntimeBuilder σ α) :
    (∀ server, .httpSpawned server ∈ (self.serve host).events →
      ∃ a inner, Resolved host self a ∧ self.Enforces host a.config a.intrusion ∧
        a.ingress.http = some inner ∧
        (self.Registered → ∀ req, (inner.handle req).StaysInApp) ∧
        ∀ req, Transparent a.intrusion (·.httpEvent req) .permissionDenied
          a.config.metrics.isSome (inner.handle req) (server.handler.handle req)) ∧
    ∀ server, .grpcSpawned server ∈ (self.serve host).events →
      ∃ a inner, Resolved host self a ∧ self.Enforces host a.config a.intrusion ∧
        a.ingress.grpc = some inner ∧
        (self.Registered → GrpcStaysInApp inner) ∧
        (∀ method, (IsReflection method → self.reflectionRouteLister host a.config = none) →
          GrpcIngress.TransparentFor a.intrusion a.config.metrics.isSome inner server.handler
            method) ∧
        ∀ ids, self.reflectionRouteLister host a.config = some ids →
          GrpcStaysInApp (reflectionService host ids) ∧
          ∀ method, IsReflection method →
            GrpcIngress.TransparentFor a.intrusion false (reflectionService host ids)
              server.handler method := by
  constructor
  · intro server emitted
    obtain ⟨a, inner, assembled, present, rfl⟩ := http_spawned emitted
    refine ⟨a, inner, assembled, enforces_of_resolved assembled.intrusion, present, ?_, ?_⟩
    · intro registered
      obtain ⟨observer, ingress⟩ := assembled.ingress
      rw [ingress] at present
      exact http_staysInApp registered present
    · intro req
      rw [← assembled.metrics_isSome]
      exact httpStack_transparent a inner req
  · intro server emitted
    obtain ⟨a, inner, assembled, present, settings, _, rfl⟩ := grpc_spawned emitted
    refine ⟨a, inner, assembled, enforces_of_resolved assembled.intrusion, present, ?_, ?_, ?_⟩
    · intro registered
      obtain ⟨observer, ingress⟩ := assembled.ingress
      rw [ingress] at present
      exact grpc_staysInApp registered present
    · intro method primary
      rw [← assembled.metrics_isSome]
      exact self.grpcStack_transparent host a inner method primary
    · intro ids lister
      refine ⟨reflectionService_staysInApp host ids, ?_⟩
      intro method reflects
      exact self.grpcStack_reflects host a inner lister reflects

end RuntimeBuilder

end

section
attribute [local instance] Platform.reference

/-- An enforcer that turns one peer away. -/
def Wired.blocking (peer : IpAddr) : Wired Unit where
  extractIp addr _ := addr
  guard event enforcer :=
    (if event.identity = .ip peer then .reject ⟨"peers", "blocked"⟩ else .allow, enforcer)

/-- It decides on a gRPC call by its peer. -/
private theorem screen_blocking (peer : IpAddr) (req : UnaryRequest) (w : World Unit Unit) :
    ∃ consulted, screen (some (.blocking peer))
      (·.grpcEvent req.request.method req.peerAddr req.request.metadata.headers) w =
        (if req.peerAddr.ip = peer then .reject ⟨"peers", "blocked"⟩ else .allow, w.enforcer,
          consulted) := by
  simp [screen, Wired.blocking, Wired.grpcEvent]

/-- A builder with a gRPC job, reflection, metrics and an enforcer that turns one peer
away. -/
private def reflecting : RuntimeBuilder Unit Unit where
  config := some { RuntimeConfig.default with
    grpcReflection := true
    metrics := some {} }
  grpcJob := some .new
  intrusion := some (.blocking (.v4 0))

/-- The reflection calls of other peers are allowed, and counted nowhere; every call of
that peer is denied, and leaves nothing behind. -/
theorem stacks_transparent_reflecting :
    ∃ server, .grpcSpawned server ∈ (reflecting.serve .obliging).events ∧
      (∀ req, IsReflection req.request.method → req.peerAddr.ip ≠ .v4 0 → ∀ w,
        ((server.handler.handleUnary req).state w).counters = w.counters) ∧
      ∀ req, req.peerAddr.ip = .v4 0 → ∀ w,
        (server.handler.handleUnary req).value w =
            .error (.permissionDenied "blocked by edge-intrusion rule 'peers': blocked") ∧
          (server.handler.handleUnary req).state w = w := by
  have emitted : ∃ server, .grpcSpawned server ∈ (reflecting.serve .obliging).events :=
    ⟨_, .tail _ (.head _)⟩
  obtain ⟨server, emitted⟩ := emitted
  obtain ⟨a, inner, assembled, enforces, _, _, primary, reflection⟩ :=
    (RuntimeBuilder.stacks_transparent .obliging reflecting).2 server emitted
  have intrusion : a.intrusion = some (.blocking (.v4 0)) := enforces.own rfl _ rfl
  obtain ⟨stays, reflects⟩ := reflection [] (by rw [assembled.config_eq rfl]; rfl)
  rw [intrusion] at primary reflects
  refine ⟨server, emitted, fun req method other w => ?_, fun req blocked w => ?_⟩
  · obtain ⟨consulted, decided⟩ := screen_blocking (.v4 0) req w
    rw [if_neg other] at decided
    obtain ⟨_, _, uncounted⟩ :=
      ((reflects _ method).unary req rfl).recorded (stays.unary req) w _ consulted decided
    exact uncounted
  · obtain ⟨consulted, decided⟩ := screen_blocking (.v4 0) req w
    rw [if_pos blocked] at decided
    have away : TurnedAway (server.handler.handleUnary req)
        (.error (.permissionDenied (Verdict.blocked ⟨"peers", "blocked"⟩))) consulted w.enforcer w := by
      by_cases method : IsReflection req.request.method
      · exact ((reflects _ method).unary req rfl).rejected w _ _ _ decided
      · exact ((primary _ fun reflects => absurd reflects method).unary req rfl).rejected w _ _ _ decided
    exact ⟨away.value, away.state⟩

end

end EdgeBootstrap
