import EdgeBootstrap.Transport.Ingress

/-! The intrusion guards. Detection and enforcement belong to `edge-intrusion`
and are parameters here; a guard builds the event of a request, consults the
enforcer on it and enters what it wraps only when the answer is `Allow`. -/
namespace EdgeBootstrap

variable {σ α : Type}

/-- `edge_intrusion::config::Wired`: the identity extractor, and the enforcer
with its state. -/
structure Wired (σ : Type) where
  extractIp : IpAddr → Option String → IpAddr
  guard : RequestEvent → σ → Decision × σ

/-- `Enforcer::guard`. -/
def Wired.consult (wired : Wired σ) (event : RequestEvent) : Exec σ α Decision := do
  let decision ← Traced.zoom (·.enforcer) (fun enforcer w => { w with enforcer }) (wired.guard event)
  Traced.tell (.consulted event decision)
  return decision

/-- The text of a rejection. -/
def Verdict.blocked (verdict : Verdict) : String :=
  "blocked by edge-intrusion rule '" ++ verdict.ruleId ++ "': " ++ verdict.reason

/-- Consult the enforcer on the event of a request, and run on `Allow`. Both
guards do just this, with the rejection of their transport. -/
def guarded [Clock α] {β ε : Type} (wired : Wired σ) (event : UInt64 → RequestEvent)
    (permissionDenied : String → ε) (run : Exec σ α (Except ε β)) : Exec σ α (Except ε β) := do
  let instant ← Exec.now
  match ← wired.consult (event instant) with
  | .reject verdict => return .error (permissionDenied verdict.blocked)
  | .allow => run

section Deciding
variable [Clock α] {β ε : Type} {wired : Wired σ} {event : UInt64 → RequestEvent}
  {permissionDenied : String → ε} {run : Exec σ α (Except ε β)} {w : World σ α}

/-- A rejected request comes to its rejection; only the enforcer has seen it. -/
theorem guarded_of_reject {verdict : Verdict}
    (rejects : (wired.guard (event (Clock.micros w.app)) w.enforcer).1 = .reject verdict) :
    guarded wired event permissionDenied run w =
      (.error (permissionDenied verdict.blocked),
        { w with enforcer := (wired.guard (event (Clock.micros w.app)) w.enforcer).2 },
        [.consulted (event (Clock.micros w.app)) (.reject verdict)]) := by
  have consulted : (wired.consult (event (Clock.micros w.app)) : Exec σ α Decision) w =
      (.reject verdict, { w with enforcer := (wired.guard (event (Clock.micros w.app)) w.enforcer).2 },
        [.consulted (event (Clock.micros w.app)) (.reject verdict)]) := by
    rw [← rejects]
    rfl
  simp only [guarded, bind, Exec.now, consulted]
  rfl

/-- An allowed request runs, over the enforcer that the consultation left. -/
theorem guarded_of_allow
    (allows : (wired.guard (event (Clock.micros w.app)) w.enforcer).1 = .allow) :
    guarded wired event permissionDenied run w =
      let passed := run
        { w with enforcer := (wired.guard (event (Clock.micros w.app)) w.enforcer).2 }
      (passed.1, passed.2.1, .consulted (event (Clock.micros w.app)) .allow :: passed.2.2) := by
  have consulted : (wired.consult (event (Clock.micros w.app)) : Exec σ α Decision) w =
      (.allow, { w with enforcer := (wired.guard (event (Clock.micros w.app)) w.enforcer).2 },
        [.consulted (event (Clock.micros w.app)) .allow]) := by
    rw [← allows]
    rfl
  simp only [guarded, bind, Exec.now, consulted]
  rfl

end Deciding

/-- The event is an allowed consultation on the request of `event`, at some
instant. -/
def Event.Allows (event : UInt64 → RequestEvent) (e : Event) : Prop :=
  ∃ instant, e = .consulted (event instant) .allow

/-- Behind a guard, application code is entered only after the enforcer allowed
the request. -/
theorem mediated_guarded [Clock α] {β ε : Type} (wired : Wired σ) (event : UInt64 → RequestEvent)
    (permissionDenied : String → ε) (run : Exec σ α (Except ε β)) (w : World σ α) :
    Mediated (Event.Allows event) Event.IsEntry
      ((guarded wired event permissionDenied run).events w) := by
  cases decided : (wired.guard (event (Clock.micros w.app)) w.enforcer).1 with
  | reject verdict =>
    rw [Traced.events, guarded_of_reject decided]
    refine Mediated.of_forall_not ?_
    intro e member entry
    rw [List.mem_singleton] at member
    subst member
    exact entry
  | allow =>
    rw [Traced.events, guarded_of_allow decided]
    exact Mediated.after ⟨_, rfl⟩ id

variable [Platform]

/-- What follows the first question mark of a URL. -/
def querySuffix (url : String) : Option String :=
  match url.toList.dropWhile (· ≠ '?') with
  | [] => none
  | _ :: query => some (.ofList query)

/-- `HttpIntrusionGuard::build_event`, at an instant. The path keeps its query. -/
def Wired.httpEvent (wired : Wired σ) (req : InboundRequest) (instant : UInt64) :
    RequestEvent where
  identity := .ip
    (wired.extractIp req.peerAddr.ip (Platform.header req.request "x-forwarded-for"))
  method := req.request.method.toString
  path := req.request.url
  instant := instant
  query := querySuffix req.request.url
  headers := req.request.headers

/-- `GrpcIntrusionGuard::build_event`, at an instant. -/
def Wired.grpcEvent (wired : Wired σ) (method : String) (peerAddr : SocketAddr)
    (headers : List (String × String)) (instant : UInt64) : RequestEvent where
  identity := .ip (wired.extractIp peerAddr.ip (headers.lookup "x-forwarded-for"))
  method := method
  path := method
  instant := instant
  headers := headers

def HttpIntrusionGuard [Clock α] (inner : HttpIngress σ α) (wired : Wired σ) : HttpIngress σ α where
  handle req := guarded wired (wired.httpEvent req) .permissionDenied (inner.handle req)
  healthCheck := inner.healthCheck

/-- `GrpcIntrusionGuard`. A stream's event is built without reading its
messages. -/
def GrpcIntrusionGuard [Clock α] (inner : GrpcIngress σ α) (wired : Wired σ) : GrpcIngress σ α where
  handleUnary req :=
    guarded wired (wired.grpcEvent req.request.method req.peerAddr req.request.metadata.headers)
      .permissionDenied (inner.handleUnary req)
  handleStream req :=
    guarded wired (wired.grpcEvent req.method req.peerAddr req.metadata.headers)
      .permissionDenied (inner.handleStream req)
  healthCheck := inner.healthCheck

end EdgeBootstrap
