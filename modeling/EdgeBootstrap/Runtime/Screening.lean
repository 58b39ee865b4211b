import EdgeBootstrap.Library.Noninterference
import EdgeBootstrap.Runtime.Stacks

/-! Whole traffic through the guarded servers. The enforcer goes by the events it is
consulted on and by nothing else, and the application and the counters by the requests
it lets pass: the ones it turned away might as well not have been sent. -/
namespace EdgeBootstrap

/-- The enforcer turned a request away. -/
def Event.rejects : Event → Bool
  | .consulted _ (.reject _) => true
  | _ => false

/-- The event is none of the enforcer's. -/
def Event.shows : Event → Bool
  | .consulted _ _ => false
  | _ => true

theorem Event.hidden_of_rejects (e : Event) (rejected : e.rejects = true) : e.shows = false := by
  cases e with
  | consulted event decision => rfl
  | entered code | reflected method => cases rejected

section Deciding
variable {σ α β γ ε : Type}

/-- The states agree, whatever the enforcer is in. -/
def World.Alike (w v : World σ α) : Prop := w.app = v.app ∧ w.counters = v.counters

/-- The enforcer after an event, if it decides as the event says. -/
def Wired.after (wired : Wired σ) (enforcer : σ) : Event → Option σ
  | .consulted event decision =>
    if (wired.guard event enforcer).1 = decision then some (wired.guard event enforcer).2 else none
  | _ => some enforcer

/-- The enforcer after some events, if it decides each as they say. -/
def Wired.replay (wired : Wired σ) (enforcer : σ) (events : List Event) : Option σ :=
  events.foldlM wired.after enforcer

theorem Wired.replay_append (wired : Wired σ) (enforcer : σ) (events later : List Event) :
    wired.replay enforcer (events ++ later) =
      (wired.replay enforcer events).bind (wired.replay · later) := List.foldlM_append

/-- Events that are none of its leave the enforcer alone. -/
theorem Wired.replay_of_shown (wired : Wired σ) (enforcer : σ) {events : List Event}
    (shown : ∀ e ∈ events, e.shows = true) : wired.replay enforcer events = some enforcer := by
  induction events with
  | nil => rfl
  | cons e rest ih =>
    have after : wired.after enforcer e = some enforcer := by
      cases e with
      | consulted event decision => cases shown _ List.mem_cons_self
      | entered code | reflected method => rfl
    simp only [replay, List.foldlM_cons, after]
    exact ih fun other member => shown other (List.mem_cons_of_mem _ member)

/-- The computation leaves the enforcer as the consultations among its events do. -/
def Exec.Follows (wired : Wired σ) (run : Exec σ α β) : Prop :=
  ∀ w, wired.replay w.enforcer (run.events w) = some (run.state w).enforcer

/-- The computation neither goes by the enforcer nor consults it. -/
structure Exec.Unaware (run : Exec σ α β) : Prop where
  blind : Traced.Blind World.Alike Event.shows run
  enforcer : ∀ w, (run.state w).enforcer = w.enforcer

namespace Exec.Unaware

theorem pure (b : β) : (Pure.pure b : Exec σ α β).Unaware := ⟨.pure b, fun _ => rfl⟩

theorem bind {run : Exec σ α β} {f : β → Exec σ α γ} (first : run.Unaware)
    (rest : ∀ b, (f b).Unaware) : Exec.Unaware (run >>= f) where
  blind := first.blind.bind fun b => (rest b).blind
  enforcer w := ((rest _).enforcer _).trans (first.enforcer w)

theorem map {run : Exec σ α β} (unaware : run.Unaware) (f : β → γ) : Exec.Unaware (f <$> run) :=
  ⟨unaware.blind.map f, unaware.enforcer⟩

theorem tell {e : Event} (shown : e.shows = true) : Exec.Unaware (Traced.tell e : Exec σ α Unit) :=
  ⟨.tell shown, fun _ => rfl⟩

theorem enter (code : AppCode) (run : α → β × α) : (Exec.enter code run : Exec σ α β).Unaware where
  blind := {
    value := fun alike => congrArg (fun app => (run app).1) alike.1.symm
    state := fun alike => ⟨congrArg (fun app => (run app).2) alike.1, alike.2⟩
    events := fun _ => rfl
    visible := fun w e member => by
      rw [events_enter, List.mem_singleton] at member
      rw [member]
      rfl }
  enforcer _ := rfl

theorem now [Clock α] : (Exec.now : Exec σ α UInt64).Unaware where
  blind := {
    value := fun alike => congrArg Clock.micros alike.1.symm
    state := fun alike => alike
    events := fun _ => rfl
    visible := fun _ _ member => absurd member List.not_mem_nil }
  enforcer _ := rfl

theorem count (f : TrafficCounters → TrafficCounters) : (Exec.count f : Exec σ α Unit).Unaware where
  blind := {
    value := fun _ => rfl
    state := fun alike => ⟨alike.1, congrArg f alike.2⟩
    events := fun _ => rfl
    visible := fun _ _ member => absurd member List.not_mem_nil }
  enforcer _ := rfl

theorem monitored [Clock α] {run : Exec σ α (Except ε β)} (unaware : run.Unaware) :
    (monitored run).Unaware :=
  (count _).bind fun _ => now.bind fun _ => unaware.bind fun result =>
    now.bind fun _ => (count _).bind fun _ => pure result

theorem follows {run : Exec σ α β} (unaware : run.Unaware) (wired : Wired σ) :
    run.Follows wired := by
  intro w
  rw [wired.replay_of_shown _ (unaware.blind.visible w), unaware.enforcer]

end Exec.Unaware

theorem Exec.Follows.bind {wired : Wired σ} {run : Exec σ α β} {f : β → Exec σ α γ}
    (first : run.Follows wired) (rest : ∀ b, (f b).Follows wired) :
    Exec.Follows wired (run >>= f) := by
  intro w
  rw [Traced.events_bind, wired.replay_append, first w]
  exact rest _ _

theorem Exec.Follows.map {wired : Wired σ} {run : Exec σ α β} (follows : run.Follows wired)
    (f : β → γ) : Exec.Follows wired (f <$> run) := by
  intro w
  rw [Traced.events_map]
  exact follows w

/-- The computations, one guarded and one not. -/
abbrev Screened (guarded bare : Exec σ α β) : Prop :=
  Traced.Screens World.Alike Event.shows Event.rejects guarded bare

theorem Exec.Unaware.screened {run : Exec σ α β} (unaware : run.Unaware) : Screened run run :=
  .refl unaware.blind Event.hidden_of_rejects

/-- The computations, one behind a guard if there is one; the enforcer is left as it
decided. -/
structure Shielded (intrusion : Option (Wired σ)) (served bare : Exec σ α β) : Prop where
  screened : Screened served bare
  follows : ∀ wired, intrusion = some wired → served.Follows wired

theorem Exec.Unaware.shielded {intrusion : Option (Wired σ)} {run : Exec σ α β}
    (unaware : run.Unaware) : Shielded intrusion run run :=
  ⟨unaware.screened, fun wired _ => unaware.follows wired⟩

theorem Shielded.map {intrusion : Option (Wired σ)} {served bare : Exec σ α β}
    (shielded : Shielded intrusion served bare) (f : β → γ) :
    Shielded intrusion (f <$> served) (f <$> bare) :=
  ⟨shielded.screened.map f, fun wired present => (shielded.follows wired present).map f⟩

variable [Clock α] (wired : Wired σ) (event : UInt64 → RequestEvent) (denied : String → ε)
  {run : Exec σ α (Except ε β)}

/-- A guard screens what it guards. -/
theorem screened_guarded (unaware : run.Unaware) :
    Screened (guarded wired event denied run) run := by
  have quiet : ∀ w, (run.events w).any Event.rejects = false := by
    intro w
    rw [List.any_eq_false]
    intro e member rejected
    have shown := unaware.blind.visible w e member
    rw [e.hidden_of_rejects rejected] at shown
    cases shown
  constructor
  · intro w v alike rejected
    cases decided : (wired.guard (event (Clock.micros w.app)) w.enforcer).1 with
    | reject verdict =>
      rw [Traced.state, Traced.events, guarded_of_reject decided]
      exact ⟨alike, rfl⟩
    | allow =>
      rw [Traced.events, guarded_of_allow decided] at rejected
      have passed := rejected.symm.trans (quiet _)
      cases passed
  · intro w v alike allowed
    cases decided : (wired.guard (event (Clock.micros w.app)) w.enforcer).1 with
    | reject verdict =>
      rw [Traced.events, guarded_of_reject decided] at allowed
      cases allowed
    | allow =>
      let entered : World σ α :=
        { w with enforcer := (wired.guard (event (Clock.micros w.app)) w.enforcer).2 }
      have value : (guarded wired event denied run).value w = run.value entered := by
        rw [Traced.value, guarded_of_allow decided]
        rfl
      have state : (guarded wired event denied run).state w = run.state entered := by
        rw [Traced.state, guarded_of_allow decided]
        rfl
      have events : ((guarded wired event denied run).events w).filter Event.shows =
          run.events entered := by
        rw [Traced.events, guarded_of_allow decided]
        exact List.filter_eq_self.mpr (unaware.blind.visible entered)
      have same : World.Alike entered v := alike
      rw [value, state, events]
      exact ⟨unaware.blind.value same, unaware.blind.state same, (unaware.blind.events same).symm⟩

/-- Behind a guard the enforcer is left as it decided. -/
theorem follows_guarded (unaware : run.Unaware) :
    (guarded wired event denied run).Follows wired := by
  intro w
  cases decided : (wired.guard (event (Clock.micros w.app)) w.enforcer).1 with
  | reject verdict =>
    rw [Traced.state, Traced.events, guarded_of_reject decided]
    simp [Wired.replay, Wired.after, decided]
  | allow =>
    rw [Traced.state, Traced.events, guarded_of_allow decided]
    have inside := unaware.follows wired
      { w with enforcer := (wired.guard (event (Clock.micros w.app)) w.enforcer).2 }
    simp only [Wired.replay, List.foldlM_cons, Wired.after, decided, if_true]
    exact inside

theorem shielded_guarded (unaware : run.Unaware) :
    Shielded (some wired) (guarded wired event denied run) run where
  screened := screened_guarded wired event denied unaware
  follows other present := by
    cases present
    exact follows_guarded wired event denied unaware

end Deciding

section Jobs
variable [Platform] {σ α : Type}

theorem HttpRoute.bridged_unaware (route : HttpRoute α) (req : HttpRequest) (ctx : HandlerContext) :
    ((route.bridged σ).execute req ctx).Unaware := by
  unfold bridged
  cases decoded : route.decode req with
  | error e =>
    simp only [decoded]
    exact .pure _
  | ok typed =>
    simp only [decoded]
    exact (Exec.Unaware.enter _ _).map _

theorem GrpcRoute.bridged_unaware (route : GrpcRoute α) (body : List UInt8) (ctx : HandlerContext) :
    ((route.bridged σ).execute body ctx).Unaware := by
  unfold bridged
  cases decoded : route.decode body with
  | error e =>
    simp only [decoded]
    exact .pure _
  | ok typed =>
    simp only [decoded]
    exact (Exec.Unaware.enter _ _).map _

/-- Whatever was registered, a job stores bridged handlers only. -/
theorem DefaultHttpJob.bridged_of_stored (deps : HttpJobDeps σ α) (routes : List (HttpRoute α))
    {id : String} {p : HttpPipeline σ α}
    (stored : (registerAll deps .new routes).registry[id]? = some p) :
    ∃ route : HttpRoute α, p.stage = route.bridged σ := by
  induction routes using List.reverseRecOn generalizing id p with
  | nil => simp [registerAll, new] at stored
  | append_singleton routes route ih =>
    have inserted : ∀ own pattern, ((registerAll deps .new routes).registry.insert own
        (route.pipeline σ own pattern))[id]? = some p → ∃ other : HttpRoute α,
          p.stage = other.bridged σ := by
      intro own pattern found
      rw [Std.ExtTreeMap.getElem?_insert] at found
      split at found
      · cases found
        exact ⟨route, rfl⟩
      · exact ih found
    rw [registerAll_snoc] at stored
    cases named : route.names with
    | error e =>
      rw [registerRoute_of_unnamed named] at stored
      exact ih stored
    | ok names =>
      obtain ⟨own, pattern⟩ := names
      cases accepts : deps.registry.registerError (registerAll deps .new routes).registry
          (route.pipeline σ own pattern) with
      | some e =>
        rw [registerRoute_of_rejected named accepts] at stored
        exact ih stored
      | none =>
        cases fresh : deps.matchit.insertError
            ((registerAll deps .new routes).router.map Prod.fst) pattern with
        | some reason =>
          rw [registerRoute_of_conflict named accepts fresh] at stored
          exact inserted own pattern stored
        | none =>
          rw [registerRoute_of_accepted named accepts fresh] at stored
          exact inserted own pattern stored

/-- Whatever was registered, a job stores bridged handlers only. -/
theorem DefaultGrpcJob.bridged_of_stored (behaviour : RegistryBehaviour (GrpcPipeline σ α))
    (routes : List (GrpcRoute α)) {id : String} {p : GrpcPipeline σ α}
    (stored : (registerAll behaviour .new routes).registry[id]? = some p) :
    ∃ route : GrpcRoute α, p.stage = route.bridged σ := by
  induction routes using List.reverseRecOn generalizing id p with
  | nil => simp [registerAll, new] at stored
  | append_singleton routes route ih =>
    rw [registerAll_snoc] at stored
    cases named : route.names with
    | error e =>
      rw [registerRoute_of_unnamed named] at stored
      exact ih stored
    | ok names =>
      obtain ⟨own, pattern⟩ := names
      cases free : (registerAll behaviour .new routes).isRegistered behaviour own with
      | true =>
        rw [registerRoute_of_registered named free] at stored
        exact ih stored
      | false =>
        cases accepts : behaviour.registerError (registerAll behaviour .new routes).registry
            (route.pipeline σ own) with
        | some e =>
          rw [registerRoute_of_rejected named free accepts] at stored
          exact ih stored
        | none =>
          rw [registerRoute_of_accepted named free accepts, Std.ExtTreeMap.getElem?_insert] at stored
          split at stored
          · cases stored
            exact ⟨route, rfl⟩
          · exact ih stored

/-- What a registry answers for an id is stored in it. -/
theorem RegistryBehaviour.stored_of_get {Req Resp : Type}
    {behaviour : RegistryBehaviour (Pipeline σ α Req Resp)}
    {registry : Std.ExtTreeMap String (Pipeline σ α Req Resp)} {id : String}
    {p : Pipeline σ α Req Resp} (found : behaviour.get registry id = .ok (some p)) :
    registry[id]? = some p := by
  unfold RegistryBehaviour.get at found
  split at found
  · cases found
  · exact Except.ok.inj found

/-- Running a job that was filled by registrations is unaware of the enforcer. -/
theorem DefaultHttpJob.run_unaware (deps own : HttpJobDeps σ α) (routes : List (HttpRoute α))
    (req : HttpRequest) (ctx : HandlerContext) :
    ((registerAll own .new routes).run deps req ctx).Unaware := by
  unfold run
  split
  · exact .pure _
  · split
    · exact .pure _
    · exact .pure _
    · rename_i pipeline found
      obtain ⟨route, bridged⟩ :=
        bridged_of_stored own routes (RegistryBehaviour.stored_of_get found)
      rw [Pipeline.execute, bridged]
      exact (route.bridged_unaware req ctx).map _

/-- Running a job that was filled by registrations is unaware of the enforcer. -/
theorem DefaultGrpcJob.run_unaware (behaviour own : RegistryBehaviour (GrpcPipeline σ α))
    (routes : List (GrpcRoute α)) (req : GrpcRequest) (ctx : HandlerContext) :
    ((registerAll own .new routes).run behaviour req ctx).Unaware := by
  unfold run
  split
  · exact .pure _
  · split
    · exact .pure _
    · exact .pure _
    · rename_i pipeline found
      obtain ⟨route, bridged⟩ :=
        bridged_of_stored own routes (RegistryBehaviour.stored_of_get found)
      rw [Pipeline.execute, bridged]
      exact (route.bridged_unaware req.body ctx).map _

end Jobs

section Stacks
variable [Platform] {σ α : Type}

/-- Every call of the ingress is unaware of the enforcer. -/
structure GrpcIngress.Unaware (inner : GrpcIngress σ α) : Prop where
  unary : ∀ req, (inner.handleUnary req).Unaware
  stream : ∀ req, (inner.handleStream req).Unaware

variable [Clock α]

namespace RuntimeBuilder
variable {host : Host σ α} {self : RuntimeBuilder σ α}

omit [Clock α] in
theorem http_unaware (registered : self.Registered) {observer : Platform.ObserverContext}
    {inner : HttpIngress σ α} (present : (self.assembleIngress host observer).http = some inner)
    (req : InboundRequest) : (inner.handle req).Unaware := by
  simp only [assembleIngress] at present
  cases stored : self.httpJob with
  | some job =>
    obtain ⟨own, routes, rfl⟩ := registered.http job stored
    rw [stored] at present
    cases present
    exact (DefaultHttpJob.run_unaware host.httpJob own routes _ _).map _
  | none =>
    rw [stored] at present
    obtain ⟨app, _, rfl⟩ := Option.map_eq_some_iff.mp present
    exact .enter _ _

omit [Clock α] in
theorem grpc_unaware (registered : self.Registered) {observer : Platform.ObserverContext}
    {inner : GrpcIngress σ α} (present : (self.assembleIngress host observer).grpc = some inner) :
    inner.Unaware := by
  simp only [assembleIngress] at present
  cases stored : self.grpcJob with
  | some job =>
    obtain ⟨own, routes, rfl⟩ := registered.grpc job stored
    rw [stored] at present
    cases present
    constructor
    · intro req
      exact (DefaultGrpcJob.run_unaware host.grpcRegistry own routes _ _).map _
    · exact fun _ => .pure _
  | none =>
    rw [stored] at present
    obtain ⟨app, _, rfl⟩ := Option.map_eq_some_iff.mp present
    exact ⟨fun _ => .enter _ _, fun _ => .enter _ _⟩

/-- The assembly without its guard. -/
def Assembly.bare (a : Assembly σ α) : Assembly σ α := { a with intrusion := none }

variable (host self) (a : Assembly σ α)

/-- The HTTP server screens every request for the one without a guard; event streams
and upgrades pass both as they are. -/
theorem httpServer_shielded {inner : HttpIngress σ α}
    (unaware : ∀ req, (inner.handle req).Unaware) (inbound : HttpInbound) :
    Shielded a.intrusion ((self.httpServer a inner).dispatch inbound)
      ((self.httpServer a.bare inner).dispatch inbound) := by
  have counted : ∀ req, ((if a.metrics.isSome then HttpLoadMonitor inner else inner).handle
      req).Unaware := by
    intro req
    cases a.metrics.isSome with
    | true => exact (unaware req).monitored
    | false => exact unaware req
  have handled : ∀ req, Shielded a.intrusion ((httpStack a inner).handle req)
      ((httpStack a.bare inner).handle req) := by
    intro req
    unfold httpStack Assembly.bare
    cases a.intrusion with
    | some wired => exact shielded_guarded wired _ _ (counted req)
    | none => exact (counted req).shielded
  have plain := fun req => (handled req).map HttpReply.response
  cases inbound with
  | plain req => exact plain req
  | sse req =>
    unfold HttpServer.dispatch httpServer
    cases self.streamHandler with
    | some stream => exact ((Exec.Unaware.enter _ _).map _).shielded
    | none => exact plain req
  | websocket req channel =>
    unfold HttpServer.dispatch httpServer
    cases self.streamHandler with
    | some stream => exact ((Exec.Unaware.enter _ _).map _).shielded
    | none => exact plain req

/-- The gRPC stack screens every call for the one without a guard. -/
theorem grpcStack_shielded {inner : GrpcIngress σ α} (unaware : inner.Unaware) :
    (∀ req, Shielded a.intrusion ((self.grpcStack host a inner).handleUnary req)
      ((self.grpcStack host a.bare inner).handleUnary req)) ∧
    ∀ req, Shielded a.intrusion ((self.grpcStack host a inner).handleStream req)
      ((self.grpcStack host a.bare inner).handleStream req) := by
  have counted : (if a.metrics.isSome then GrpcLoadMonitor inner else inner).Unaware := by
    cases a.metrics.isSome with
    | true => exact ⟨fun req => (unaware.unary req).monitored,
        fun req => (unaware.stream req).monitored⟩
    | false => exact unaware
  have reflects : ∀ ids, (reflectionService host ids).Unaware := by
    intro ids
    exact ⟨fun _ => (Exec.Unaware.tell rfl).bind fun _ => .pure _,
      fun _ => (Exec.Unaware.tell rfl).bind fun _ => .pure _⟩
  have routed : ∀ ids, (CompositeGrpcIngress.ingress
      ⟨if a.metrics.isSome then GrpcLoadMonitor inner else inner,
        reflectionService host ids⟩).Unaware := by
    intro ids
    constructor
    · intro req
      simp only [CompositeGrpcIngress.ingress, CompositeGrpcIngress.route]
      split
      · exact (reflects ids).unary req
      · exact counted.unary req
    · intro req
      simp only [CompositeGrpcIngress.ingress, CompositeGrpcIngress.route]
      split
      · exact (reflects ids).stream req
      · exact counted.stream req
  unfold grpcStack Assembly.bare
  cases self.reflectionRouteLister host a.config with
  | none =>
    cases a.intrusion with
    | some wired => exact ⟨fun req => shielded_guarded wired _ _ (counted.unary req),
        fun req => shielded_guarded wired _ _ (counted.stream req)⟩
    | none => exact ⟨fun req => (counted.unary req).shielded,
        fun req => (counted.stream req).shielded⟩
  | some ids =>
    cases a.intrusion with
    | some wired => exact ⟨fun req => shielded_guarded wired _ _ ((routed ids).unary req),
        fun req => shielded_guarded wired _ _ ((routed ids).stream req)⟩
    | none => exact ⟨fun req => ((routed ids).unary req).shielded,
        fun req => ((routed ids).stream req).shielded⟩

/-- The gRPC server screens every call for the one without a guard; a call of an
undeclared method passes both as it is. -/
theorem grpcServer_shielded {inner : GrpcIngress σ α} (unaware : inner.Unaware)
    (settings : GrpcServerSettings) (inbound : GrpcInbound) :
    Shielded a.intrusion
      ((⟨settings, self.grpcStack host a inner⟩ : GrpcServer σ α).dispatch inbound)
      ((⟨settings, self.grpcStack host a.bare inner⟩ : GrpcServer σ α).dispatch inbound) := by
  obtain ⟨unary, stream⟩ := grpcStack_shielded host self a unaware
  cases inbound with
  | unary req =>
    by_cases declared : (settings.streamingKinds.lookup req.request.method).isSome
    · simp only [GrpcServer.dispatch, if_pos declared]
      exact (unary req).map GrpcReply.unary
    · simp only [GrpcServer.dispatch, if_neg declared]
      exact (Exec.Unaware.pure _).shielded
  | stream req =>
    by_cases declared : (settings.streamingKinds.lookup req.method).isSome
    · simp only [GrpcServer.dispatch, if_pos declared]
      exact (stream req).map GrpcReply.stream
    · simp only [GrpcServer.dispatch, if_neg declared]
      exact (Exec.Unaware.pure _).shielded

end RuntimeBuilder

end Stacks

section Traffic
variable [Platform] {σ α : Type}

/-- A request off the wire, of either transport. -/
inductive Inbound
  | http (inbound : HttpInbound)
  | grpc (inbound : GrpcInbound)

/-- What comes back; nothing listens on the port of a server that is not there. -/
inductive Reply
  | http (reply : HttpReply)
  | grpc (reply : GrpcReply)
  | unserved

/-- The servers that face the network. -/
structure Servers (σ α : Type) where
  http : Option (HttpServer σ α)
  grpc : Option (GrpcServer σ α)

namespace Servers

def dispatch (servers : Servers σ α) : Inbound → Exec σ α Reply
  | .http inbound =>
    match servers.http with
    | some server => .http <$> server.dispatch inbound
    | none => pure .unserved
  | .grpc inbound =>
    match servers.grpc with
    | some server => .grpc <$> server.dispatch inbound
    | none => pure .unserved

/-- They are the servers that were spawned. -/
structure Spawned (servers : Servers σ α) (events : List (RuntimeEvent σ α)) : Prop where
  http : ∀ s, servers.http = some s ↔ .httpSpawned s ∈ events
  grpc : ∀ s, servers.grpc = some s ↔ .grpcSpawned s ∈ events

/-- Only some servers are the spawned ones. -/
theorem Spawned.unique {s t : Servers σ α} {events : List (RuntimeEvent σ α)}
    (spawned : s.Spawned events) (others : t.Spawned events) : s = t := by
  have http : s.http = t.http :=
    Option.ext fun server => (spawned.http server).trans (others.http server).symm
  have grpc : s.grpc = t.grpc :=
    Option.ext fun server => (spawned.grpc server).trans (others.grpc server).symm
  cases s
  cases t
  cases http
  cases grpc
  rfl

end Servers

/-- The host without the `intrusion` feature. -/
def Host.unguarded (host : Host σ α) : Host σ α :=
  { host with features := { host.features with intrusion := false } }

namespace RuntimeBuilder
variable {host : Host σ α} {self : RuntimeBuilder σ α} {a : Assembly σ α}

/-- Without the feature the same is assembled, but for the guard. -/
theorem assemble_unguarded (assembled : (self.assemble host).result = .ok a) :
    (self.assemble host.unguarded).result = .ok a.bare := by
  unfold assemble at assembled
  obtain ⟨config, hconfig, assembled, _⟩ := Effects.bind_ok assembled
  obtain ⟨_, _, assembled, _⟩ := Effects.bind_ok assembled
  obtain ⟨verifier, hverifier, assembled, _⟩ := Effects.bind_ok assembled
  obtain ⟨metrics, hmetrics, assembled, _⟩ := Effects.bind_ok assembled
  obtain ⟨_, _, assembled, _⟩ := Effects.bind_ok assembled
  obtain ⟨observer, hobserver, assembled, _⟩ := Effects.bind_ok assembled
  obtain ⟨_, handlers, assembled, _⟩ := Effects.bind_ok assembled
  obtain ⟨http, hhttp, assembled, _⟩ := Effects.bind_ok assembled
  obtain ⟨grpc, hgrpc, assembled, _⟩ := Effects.bind_ok assembled
  obtain ⟨intrusion, _, assembled, _⟩ := Effects.bind_ok assembled
  cases assembled
  rw [Effects.result_ofExcept] at hconfig hverifier hmetrics hobserver handlers hhttp hgrpc
  have config' : self.resolveConfig host.unguarded = .ok config := hconfig
  have verifier' : self.resolveVerifier host.unguarded config = .ok verifier := hverifier
  have metrics' : self.resolveMetrics host.unguarded config = .ok metrics := hmetrics
  have observer' : self.resolveObserver host.unguarded config metrics = .ok observer := hobserver
  have handlers' : (if (self.assembleIngress host.unguarded observer).hasAny then .ok ()
      else .error (.startFailed noHandler) : Except RuntimeError Unit) = .ok () := handlers
  have http' : self.resolveEgressHttp host.unguarded config = .ok http := hhttp
  have grpc' : self.resolveEgressGrpc host.unguarded config = .ok grpc := hgrpc
  have intrusion' : self.resolveIntrusion host.unguarded config = .ok none := rfl
  have succeeds : ∀ {β γ : Type} (b : β) (f : β → Except RuntimeError γ),
      (Except.ok b >>= f) = f b := fun _ _ => rfl
  unfold assemble
  simp only [Effects.result_bind, Effects.result_ofExcept, Effects.result_tellAll, succeeds, config',
    verifier', metrics', observer', handlers', http', grpc', intrusion']
  rfl

variable [Clock α]

/-- The servers of an assembly, as far as they can be built. -/
def Assembly.servers (host : Host σ α) (self : RuntimeBuilder σ α) (a : Assembly σ α) :
    Servers σ α where
  http := a.ingress.http.map (self.httpServer a)
  grpc := (a.ingress.grpc.map (self.grpcServer host a)).bind Except.toOption

/-- What `serve` spawned are the servers of its assembly. -/
theorem spawned_servers (assembled : (self.assemble host).result = .ok a) :
    (a.servers host self).Spawned (self.serve host).events := by
  have only : ∀ event : RuntimeEvent σ α, event.SpawnsServer →
      (event ∈ (self.serve host).events ↔
        event ∈ (spawnServers (a.ingress.http.map (self.httpServer a))
          (a.ingress.grpc.map (self.grpcServer host a)) (metricsServer a)).events) := by
    intro event spawns
    rw [mem_serve_iff spawns]
    constructor
    · rintro ⟨b, assembled', spawned⟩
      cases assembled.symm.trans assembled'
      exact spawned
    · exact fun spawned => ⟨a, assembled, spawned⟩
  constructor
  · intro s
    rw [only (.httpSpawned s) trivial, http_mem_spawnServers]
    rfl
  · intro s
    rw [only (.grpcSpawned s) trivial, grpc_mem_spawnServers]
    simp only [Assembly.servers, Option.bind_eq_some_iff, Except.toOption_eq_some_iff]
    constructor
    · rintro ⟨built, present, rfl⟩
      exact present
    · exact fun present => ⟨_, present, rfl⟩

/-- The servers of an assembly screen every request for those without a guard. -/
theorem servers_shielded (registered : self.Registered) (assembled : Resolved host self a)
    (inbound : Inbound) :
    Shielded a.intrusion ((a.servers host self).dispatch inbound)
      ((a.bare.servers host.unguarded self).dispatch inbound) := by
  obtain ⟨observer, ingress⟩ := assembled.ingress
  cases inbound with
  | http inbound =>
    cases present : a.ingress.http with
    | none =>
      simp only [Servers.dispatch, Assembly.servers, Assembly.bare, present]
      exact (Exec.Unaware.pure _).shielded
    | some inner =>
      have unaware := http_unaware registered (ingress ▸ present)
      simp only [Servers.dispatch, Assembly.servers, Assembly.bare, present]
      exact (self.httpServer_shielded a unaware inbound).map _
  | grpc inbound =>
    cases present : a.ingress.grpc with
    | none =>
      simp only [Servers.dispatch, Assembly.servers, Assembly.bare, present]
      exact (Exec.Unaware.pure _).shielded
    | some inner =>
      have unaware := grpc_unaware registered (ingress ▸ present)
      have same : self.grpcSettings host.unguarded a.config = self.grpcSettings host a.config := rfl
      simp only [Servers.dispatch, Assembly.servers, Assembly.bare, present, Option.map_some,
        Option.bind_some, grpcServer, same]
      cases self.grpcSettings host a.config with
      | error e => exact (Exec.Unaware.pure _).shielded
      | ok settings => exact (grpcServer_shielded host self a unaware settings inbound).map _

/-- Whatever comes in over whatever ports, in whatever order: the requests that the
enforcer let pass, sent alone to the servers of a build without the feature, get what
they got, and leave the application, the counters and the trace of calls as they were
left. And the enforcer was left as the consultations alone leave it. -/
theorem rejected_requests_leave_no_trace (host : Host σ α) (self : RuntimeBuilder σ α)
    (registered : self.Registered) (a : Assembly σ α)
    (assembled : (self.assemble host).result = .ok a) (served bare : Servers σ α)
    (guarded : served.Spawned (self.serve host).events)
    (unguarded : bare.Spawned (self.serve host.unguarded).events) (traffic : List Inbound)
    (w v : World σ α) (alike : w.Alike v) :
    let whole := Traced.serveAll served.dispatch traffic
    let kept := Traced.kept served.dispatch Event.rejects traffic w
    let alone := Traced.serveAll bare.dispatch (kept.map Prod.fst)
    alone.value v = kept ∧ (whole.state w).Alike (alone.state v) ∧
      (whole.events w).filter Event.shows = alone.events v ∧
      ∀ wired, a.intrusion = some wired →
        wired.replay w.enforcer (whole.events w) = some (whole.state w).enforcer := by
  cases guarded.unique (spawned_servers assembled)
  cases unguarded.unique (spawned_servers (assemble_unguarded assembled))
  have shielded := servers_shielded registered (assemble_resolved assembled)
  obtain ⟨values, states, events⟩ :=
    Traced.kept_unaffected (fun inbound => (shielded inbound).screened) traffic alike
  refine ⟨values, states, events, ?_⟩
  intro wired present
  have follows : ∀ traffic : List Inbound,
      Exec.Follows wired (Traced.serveAll (a.servers host self).dispatch traffic) := by
    intro traffic
    induction traffic with
    | nil => exact (Exec.Unaware.pure _).follows wired
    | cons inbound rest ih =>
      exact ((shielded inbound).follows wired present).bind fun _ => ih.bind fun _ =>
        (Exec.Unaware.pure _).follows wired
  exact follows traffic w

end RuntimeBuilder

end Traffic

section Reference
attribute [local instance] Platform.reference

/-- Intrusion detection that closes one path. -/
private def closing (path : String) : Wired Unit where
  extractIp peer _ := peer
  guard event enforcer :=
    if event.path = path then (.reject ⟨"closed-path", event.path⟩, enforcer) else (.allow, enforcer)

/-- A builder with an ingress, where `/admin` is closed. -/
private def screening : RuntimeBuilder Unit Unit where
  config := some .default
  httpHandler := some .empty
  intrusion := some (closing "/admin")

/-- A request for a path, from the network. -/
private def asking (path : String) : Inbound :=
  .http (.plain ⟨⟨.get, path, [], none⟩, (), ⟨.v4 0, 0⟩⟩)

/-- Between two closed requests, one that is answered as it is alone. -/
theorem rejected_requests_leave_no_trace_closed :
    ∃ served bare : Servers Unit Unit, served.Spawned (screening.serve .obliging).events ∧
      bare.Spawned (screening.serve Host.obliging.unguarded).events ∧
      Traced.kept served.dispatch Event.rejects [asking "/admin", asking "/users", asking "/admin"]
        ⟨(), .new, ()⟩ = [(asking "/users", .http (.response (.ok (.new 200 []))))] ∧
      (Traced.serveAll bare.dispatch [asking "/users"]).value ⟨(), .new, ()⟩ =
        [(asking "/users", .http (.response (.ok (.new 200 []))))] := by
  have guarded := RuntimeBuilder.spawned_servers
    (rfl : (screening.assemble .obliging).result = .ok _)
  have unguarded := RuntimeBuilder.spawned_servers (RuntimeBuilder.assemble_unguarded
    (rfl : (screening.assemble .obliging).result = .ok _))
  have registered : screening.Registered := by
    constructor
    · intro job stored
      cases stored
    · intro job stored
      cases stored
  refine ⟨_, _, guarded, unguarded, rfl, ?_⟩
  exact (RuntimeBuilder.rejected_requests_leave_no_trace .obliging screening registered _ rfl _ _
    guarded unguarded [asking "/admin", asking "/users", asking "/admin"] ⟨(), .new, ()⟩
    ⟨(), .new, ()⟩ ⟨rfl, rfl⟩).1

end Reference

end EdgeBootstrap
