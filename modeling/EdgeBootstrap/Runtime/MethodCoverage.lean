import EdgeBootstrap.Runtime.GrpcOptions
import EdgeBootstrap.Runtime.Stacks

/-! Which methods of a gRPC ingress a server lets through. The transport answers
only methods declared with a streaming kind, and the declarations are made from
the routes of a job, so what another ingress answers is never reached. -/
namespace EdgeBootstrap

section
variable [Platform] {σ α : Type}

/-- Some call of the method is answered with something else than `Unimplemented`. -/
def GrpcIngress.Answers (ingress : GrpcIngress σ α) (method : String) : Prop :=
  (∃ req : UnaryRequest, req.request.method = method ∧
    ∃ w, ∀ text, (ingress.handleUnary req).value w ≠ .error (.unimplemented text)) ∨
  ∃ req : StreamRequest, req.method = method ∧
    ∃ w, ∀ text, (ingress.handleStream req).value w ≠ .error (.unimplemented text)

/-- The method is declared with a streaming kind. -/
def GrpcServerSettings.Declares (server : GrpcServerSettings) (method : String) : Prop :=
  (server.streamingKinds.lookup method).isSome

/-- The method of a call. -/
def GrpcInbound.method : GrpcInbound → String
  | .unary req => req.request.method
  | .stream req => req.method

section Declaring

theorem GrpcServerSettings.declares_with (server : GrpcServerSettings) (o : GrpcOption)
    (method : String) :
    (server.with o).Declares method ↔
      server.Declares method ∨ ∃ kind, o = .streamingKind method kind := by
  unfold Declares
  cases o with
  | streamingKind declared kind =>
    by_cases same : method = declared
    · subst same
      simp [GrpcServerSettings.with]
    · have other : (method == declared) = false := by simpa using same
      simp [GrpcServerSettings.with, List.lookup_cons, other, Ne.symm same]
  | tls tls => simp [GrpcServerSettings.with]
  | interceptors chain => simp [GrpcServerSettings.with]
  | allowUnauthenticated => simp [GrpcServerSettings.with]

/-- The methods declared are those that were, and those of the options set. -/
theorem GrpcServerSettings.declares_foldl (options : List GrpcOption) (server : GrpcServerSettings)
    (method : String) :
    (options.foldl GrpcServerSettings.with server).Declares method ↔
      server.Declares method ∨ ∃ kind, .streamingKind method kind ∈ options := by
  induction options generalizing server with
  | nil => simp
  | cons o rest ih =>
    rw [List.foldl_cons, ih, GrpcServerSettings.declares_with]
    simp only [List.mem_cons, eq_comm (a := o), exists_or, or_assoc]

/-- `run` declares no method. -/
theorem Runtime.not_declares {host : Host σ α} {config : RuntimeConfig} {settings : GrpcServerSettings}
    (set : Runtime.grpcSettings host config = .ok settings) (method : String) :
    ¬ settings.Declares method := by
  rw [Runtime.grpcSettings_eq] at set
  rw [RuntimeBuilder.setOptions_ok host set, GrpcServerSettings.declares_foldl]
  unfold Runtime.grpcOptions GrpcServerSettings.Declares
  cases config.grpcTls <;> cases config.grpcAllowUnauthenticated <;> simp

/-- `serve` declares the ids of the job's routes, and the method of reflection when
there is a reflection service. -/
theorem RuntimeBuilder.declares_iff {host : Host σ α} {self : RuntimeBuilder σ α}
    {config : RuntimeConfig} {settings : GrpcServerSettings}
    (set : self.grpcSettings host config = .ok settings) (method : String) :
    settings.Declares method ↔ method ∈ self.grpcRouteIds host ∨
      ((self.reflectionRouteLister host config).isSome = true ∧
        method = host.reflectionInfoMethod) := by
  rw [RuntimeBuilder.grpcSettings_eq] at set
  rw [RuntimeBuilder.setOptions_ok host set, GrpcServerSettings.declares_foldl]
  have bare : ¬ GrpcServerSettings.Declares { bind := config.grpcBind } method := by
    simp [GrpcServerSettings.Declares]
  have routes : (∃ kind, GrpcOption.streamingKind method kind ∈
      (self.grpcRouteIds host).map (.streamingKind · .unary)) ↔ method ∈ self.grpcRouteIds host := by
    simp
  have reflection : (∃ kind, GrpcOption.streamingKind method kind ∈
      (if (self.reflectionRouteLister host config).isSome then
        [GrpcOption.streamingKind host.reflectionInfoMethod .bidiStream] else [])) ↔
      (self.reflectionRouteLister host config).isSome = true ∧
        method = host.reflectionInfoMethod := by
    cases (self.reflectionRouteLister host config).isSome <;> simp
  have tls : ¬ ∃ kind, GrpcOption.streamingKind method kind ∈
      ((self.grpcTls.or config.grpcTls).map GrpcOption.tls).toList := by
    cases self.grpcTls.or config.grpcTls <;> simp
  have interceptors : ¬ ∃ kind, GrpcOption.streamingKind method kind ∈
      (if self.grpcInterceptors.isEmpty then [] else
        [GrpcOption.interceptors self.grpcInterceptors]) := by
    cases self.grpcInterceptors.isEmpty <;> simp
  have unauthenticated : ¬ ∃ kind, GrpcOption.streamingKind method kind ∈
      (if self.grpcAllowUnauthenticated || config.grpcAllowUnauthenticated then
        [GrpcOption.allowUnauthenticated] else []) := by
    cases (self.grpcAllowUnauthenticated || config.grpcAllowUnauthenticated) <;> simp
  unfold grpcOptions
  simp only [List.mem_append, exists_or, routes, reflection, tls, interceptors, unauthenticated,
    bare, false_or, or_false]

end Declaring

section Answering
variable {behaviour : RegistryBehaviour (GrpcPipeline σ α)} {job : DefaultGrpcJob σ α}
  {method : String}

/-- A job answers only methods that are registered. -/
theorem GrpcIngressJob.registered_of_answers {observer : Platform.ObserverContext}
    (streams : ∀ method, ∃ text, Platform.defaultHandleStream method = .error (.unimplemented text))
    (answers : (GrpcIngressJob.ingress behaviour ⟨job, observer⟩).Answers method) :
    job.isRegistered behaviour method = true := by
  rcases answers with ⟨req, rfl, w, answered⟩ | ⟨req, rfl, w, answered⟩
  · by_contra unregistered
    have unrouted : job.route behaviour req.request.method = .error .noMatch := by
      unfold DefaultGrpcJob.route
      rw [if_neg unregistered]
    apply answered (Platform.routingErrorText .noMatch)
    simp only [ingress, DefaultGrpcJob.run, unrouted, Traced.value_map, Traced.value_pure]
    rfl
  · obtain ⟨text, refused⟩ := streams req.method
    exact absurd refused (answered text)

/-- A registry that lists its ids lists every method that is registered. -/
theorem DefaultGrpcJob.listed_of_registered (lists : behaviour.listError job.registry = none)
    (registered : job.isRegistered behaviour method = true) :
    method ∈ job.listRouteIds behaviour := by
  have stored : method ∈ job.registry := by
    rw [Std.ExtTreeMap.mem_iff_isSome_getElem?]
    unfold isRegistered RegistryBehaviour.get at registered
    cases refused : behaviour.getError job.registry method with
    | some e => simp [refused] at registered
    | none => simpa [refused] using registered
  simp only [listRouteIds, RegistryBehaviour.listIds, lists]
  exact Std.ExtTreeMap.mem_keys.mpr stored

end Answering

namespace RuntimeBuilder
variable [Clock α] (host : Host σ α) (self : RuntimeBuilder σ α) (a : Assembly σ α)

/-- The gRPC ingress of an assembly: its stack without guard and monitor. -/
def grpcFace (inner : GrpcIngress σ α) : GrpcIngress σ α :=
  self.grpcStack host { a with metrics := none, intrusion := none } inner

variable {host self a} {inner : GrpcIngress σ α} {method : String}

/-- What the ingress of an assembly answers, the reflection service answers or what
is behind it. -/
theorem answers_grpcFace (answers : (self.grpcFace host a inner).Answers method) :
    (∃ ids, self.reflectionRouteLister host a.config = some ids ∧
      (reflectionService host ids).Answers method) ∨ inner.Answers method := by
  simp only [grpcFace, grpcStack, Option.isSome_none, Bool.false_eq_true, if_false] at answers
  cases lister : self.reflectionRouteLister host a.config with
  | none =>
    rw [lister] at answers
    exact .inr answers
  | some ids =>
    rw [lister] at answers
    by_cases reflects : IsReflection method
    · refine .inl ⟨ids, rfl, ?_⟩
      rcases answers with ⟨req, rfl, answered⟩ | ⟨req, rfl, answered⟩
      · simp only [CompositeGrpcIngress.ingress, (CompositeGrpcIngress.route_spec _ _).1 reflects]
          at answered
        exact .inl ⟨req, rfl, answered⟩
      · simp only [CompositeGrpcIngress.ingress, (CompositeGrpcIngress.route_spec _ _).1 reflects]
          at answered
        exact .inr ⟨req, rfl, answered⟩
    · refine .inr ?_
      rcases answers with ⟨req, rfl, answered⟩ | ⟨req, rfl, answered⟩
      · simp only [CompositeGrpcIngress.ingress, (CompositeGrpcIngress.route_spec _ _).2 reflects]
          at answered
        exact .inl ⟨req, rfl, answered⟩
      · simp only [CompositeGrpcIngress.ingress, (CompositeGrpcIngress.route_spec _ _).2 reflects]
          at answered
        exact .inr ⟨req, rfl, answered⟩

/-- The method is that of a reflection service the builder has. -/
def ReflectionInfo (host : Host σ α) (builder : RuntimeBuilder σ α) (config : RuntimeConfig)
    (method : String) : Prop :=
  (builder.reflectionRouteLister host config).isSome = true ∧ method = host.reflectionInfoMethod

/-- The gRPC ingress of the builder is a job whose registry lists its ids. -/
def ListsRoutes (host : Host σ α) (builder : RuntimeBuilder σ α) : Prop :=
  ∃ job, builder.grpcJob = some job ∧ host.grpcRegistry.listError job.registry = none

omit [Clock α] in
/-- Without a job that lists its routes, only reflection is declared. -/
theorem grpcRouteIds_of_unlisted (unlisted : ¬ ListsRoutes host self) :
    self.grpcRouteIds host = [] := by
  unfold grpcRouteIds
  cases stored : self.grpcJob with
  | none => rfl
  | some job =>
    cases lists : host.grpcRegistry.listError job.registry with
    | none => exact absurd ⟨job, stored, lists⟩ unlisted
    | some e => simp [DefaultGrpcJob.listRouteIds, RegistryBehaviour.listIds, lists]

omit [Clock α] in
/-- A job that lists its routes has every method it answers declared. -/
theorem declared_of_lists {observer : Platform.ObserverContext}
    (streams : ∀ method, ∃ text, Platform.defaultHandleStream method = .error (.unimplemented text))
    (lists : ListsRoutes host self)
    (present : (self.assembleIngress host observer).grpc = some inner)
    (answers : inner.Answers method) : method ∈ self.grpcRouteIds host := by
  obtain ⟨job, stored, listed⟩ := lists
  simp only [assembleIngress, stored, Option.some.injEq] at present
  subst present
  simp only [grpcRouteIds, stored]
  exact DefaultGrpcJob.listed_of_registered listed
    (GrpcIngressJob.registered_of_answers streams answers)

end RuntimeBuilder

/-- Every method that a gRPC ingress answers is declared on the server over it
exactly when the ingress is a job whose registry lists its ids, or answers nothing
but the method of reflection; over the bare ingress of `run`, exactly when it
answers nothing at all. -/
theorem answered_methods_declared_iff [Clock α] (host : Host σ α)
    (streams : ∀ method, ∃ text, Platform.defaultHandleStream method = .error (.unimplemented text))
    (reflects : ∀ ids method, (RuntimeBuilder.reflectionService host ids).Answers method →
      method = host.reflectionInfoMethod) :
    (∀ (builder : RuntimeBuilder σ α) server, .grpcSpawned server ∈ (builder.serve host).events →
      ∃ a inner, builder.Resolved host a ∧ a.ingress.grpc = some inner ∧
        ((∀ method, (builder.grpcFace host a inner).Answers method → server.Declares method) ↔
          builder.ListsRoutes host ∨ ∀ method, (builder.grpcFace host a inner).Answers method →
            builder.ReflectionInfo host a.config method)) ∧
    ∀ config ingress egress lifecycle server,
      .grpcSpawned server ∈ (Runtime.run host config ingress egress lifecycle).events →
      ∃ inner : GrpcIngress σ α, ingress.grpc = some inner ∧
        ((∀ method, inner.Answers method → server.Declares method) ↔
          ∀ method, ¬ inner.Answers method) := by
  constructor
  · intro builder server emitted
    obtain ⟨a, inner, assembled, present, settings, set, rfl⟩ := RuntimeBuilder.grpc_spawned emitted
    refine ⟨a, inner, assembled, present, ?_⟩
    obtain ⟨observer, ingress⟩ := assembled.ingress
    rw [ingress] at present
    have declares := RuntimeBuilder.declares_iff set
    constructor
    · intro covered
      by_cases lists : builder.ListsRoutes host
      · exact .inl lists
      · refine .inr ?_
        intro method answers
        rcases (declares method).mp (covered method answers) with listed | info
        · rw [RuntimeBuilder.grpcRouteIds_of_unlisted lists] at listed
          cases listed
        · exact info
    · rintro (lists | silent) method answers
      · apply (declares method).mpr
        rcases RuntimeBuilder.answers_grpcFace answers with ⟨ids, lister, info⟩ | answered
        · exact .inr ⟨by rw [lister]; rfl, reflects ids method info⟩
        · exact .inl (RuntimeBuilder.declared_of_lists streams lists present answered)
      · exact (declares method).mpr (.inr (silent method answers))
  · intro config ingress egress lifecycle server emitted
    obtain ⟨inner, present, settings, set, rfl⟩ := Runtime.grpc_spawned emitted
    refine ⟨inner, present, ?_⟩
    constructor
    · intro covered method answers
      exact Runtime.not_declares set method (covered method answers)
    · intro silent method answers
      exact absurd answers (silent method)

end

section
attribute [local instance] Platform.reference

/-- A gRPC ingress that answers every call with an empty message. -/
def AppGrpcIngress.empty : AppGrpcIngress Unit where
  handleUnary _ app := (.ok ⟨[], ⟨[]⟩⟩, app)
  handleStream _ app := (.ok (), app)
  healthCheck := .ok ⟨true, none⟩

/-- A host whose reflection service answers its one method only. -/
private def infoOnly : Host Unit Unit :=
  { Host.obliging with
    reflection := fun _ =>
      { unary := fun _ => .error (.unimplemented "")
        stream := fun req =>
          if req.method = Host.obliging.reflectionInfoMethod then .ok ()
          else .error (.unimplemented "")
        health := .ok ⟨true, none⟩ } }

/-- A route that answers every call of a method with an empty message. -/
private def getUser : GrpcRoute Unit where
  Req := Unit
  Resp := Unit
  handler := ⟨.ok "/users.Users/Get", .ok "/users", fun _ _ app => (.ok (), app), .ok true⟩
  decode _ := .ok ()
  encode _ := []

/-- A builder with that route, and reflection. -/
private def routed : RuntimeBuilder Unit Unit where
  config := some { RuntimeConfig.default with grpcReflection := true }
  grpcJob := some (.registerAll .infallible .new [getUser])

/-- A method of a route is declared. -/
theorem answered_methods_declared_iff_routed :
    ∃ server, .grpcSpawned server ∈ (routed.serve infoOnly).events ∧
      ∃ a inner, routed.Resolved infoOnly a ∧ a.ingress.grpc = some inner ∧
        ∀ method, (routed.grpcFace infoOnly a inner).Answers method → server.Declares method := by
  have info : ∀ ids method, (RuntimeBuilder.reflectionService infoOnly ids).Answers method →
      method = infoOnly.reflectionInfoMethod := by
    rintro ids method (⟨req, _, w, answered⟩ | ⟨req, rfl, w, answered⟩)
    · exact absurd rfl (answered "")
    · by_contra other
      exact answered "" (if_neg other)
  refine ⟨_, .head _, ?_⟩
  obtain ⟨a, inner, assembled, present, covered⟩ :=
    (answered_methods_declared_iff infoOnly (fun _ => ⟨"", rfl⟩) info).1 routed _ (.head _)
  exact ⟨a, inner, assembled, present, covered.mpr (.inl ⟨_, rfl, rfl⟩)⟩

/-- A builder with a ready-made gRPC ingress. -/
private def handling : RuntimeBuilder Unit Unit where
  config := some .default
  grpcHandler := some .empty

/-- The ingress answers a method that neither `serve` nor `run` lets through. -/
theorem handler_methods_undeclared :
    let inner := AppGrpcIngress.empty.ingress Unit
    let call : UnaryRequest := ⟨⟨"/users.Users/Get", [], ⟨[]⟩⟩, (), ⟨.v4 0, 0⟩⟩
    inner.Answers "/users.Users/Get" ∧
      (∃ server, .grpcSpawned server ∈ (handling.serve .obliging).events ∧
        ¬ server.Declares "/users.Users/Get" ∧
        (server.dispatch (.unary call)).value ⟨(), .new, ()⟩ = .undeclared) ∧
      ∃ server, .grpcSpawned server ∈ (Runtime.run .obliging .default ⟨none, some inner⟩
          ⟨.ok (), none⟩ Host.obliging.nullLifecycle).events ∧
        ¬ server.Declares "/users.Users/Get" ∧
        (server.dispatch (.unary call)).value ⟨(), .new, ()⟩ = .undeclared := by
  refine ⟨.inl ⟨⟨⟨"/users.Users/Get", [], ⟨[]⟩⟩, (), ⟨.v4 0, 0⟩⟩, rfl, ⟨(), .new, ()⟩, nofun⟩, ?_, ?_⟩
  · exact ⟨_, .head _, nofun, rfl⟩
  · exact ⟨_, .head _, nofun, rfl⟩

end

end EdgeBootstrap
