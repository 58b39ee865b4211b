import EdgeBootstrap.Dispatch.DecodeErrors

/-! A response that does not serialise, over both transports. The HTTP codec
answers with a server error; the gRPC codec has no error to answer with, and
sends an empty body. -/
namespace EdgeBootstrap

section
variable [Platform] {σ α : Type}

section Routes
variable {Req Resp : Type} [SerdeJson Req] [SerdeJson Resp]

/-- `http_route`: the handler with the default codec. -/
def Handler.httpRoute (h : Handler α Req Resp) : HttpRoute α := ⟨h, Codec.jsonDecode, Codec.jsonEncode⟩

/-- `grpc_route`. -/
def Handler.grpcRoute (h : Handler α Req Resp) : GrpcRoute α :=
  ⟨h, Codec.grpcJsonDecode, Codec.grpcJsonEncode⟩

end Routes

/-- A request that decodes is answered with what the handler returns, encoded. -/
theorem HttpIngressJob.value_handle_of_returned {deps : HttpJobDeps σ α} {self : HttpIngressJob σ α}
    {route : HttpRoute α} {req : InboundRequest} {q : route.Req} {r : route.Resp} {w : World σ α}
    (executes : self.job.executor deps req.request = some (route.bridged σ))
    (decoded : route.decode req.request = .ok q)
    (returned : (route.handler.execute q ⟨Platform.intoSecurityContext req.ctx, self.observer⟩
      w.app).1 = .ok r) :
    ((self.ingress deps).handle req).value w = .ok (route.encode r) := by
  show (_ <$> self.job.run deps req.request _).value w = _
  rw [DefaultHttpJob.run_of_executor executes]
  simp only [HttpRoute.bridged, decoded, Handler.enter, Traced.value_map, Exec.value_enter, returned]
  rfl

/-- The gRPC adapter answers in the same way. -/
theorem GrpcIngressJob.value_handleUnary_of_returned
    {behaviour : RegistryBehaviour (GrpcPipeline σ α)} {self : GrpcIngressJob σ α}
    {route : GrpcRoute α} {req : UnaryRequest} {q : route.Req} {r : route.Resp} {w : World σ α}
    (executes : self.job.executor behaviour req.request.method = some (route.bridged σ))
    (decoded : route.decode req.request.body = .ok q)
    (returned : (route.handler.execute q ⟨req.ctx, self.observer⟩ w.app).1 = .ok r) :
    ((self.ingress behaviour).handleUnary req).value w =
      .ok ⟨route.encode r, Platform.defaultMetadata⟩ := by
  show (_ <$> self.job.run behaviour req.request _).value w = _
  rw [DefaultGrpcJob.run_of_executor executes]
  simp only [GrpcRoute.bridged, decoded, Handler.enter, Traced.value_map, Exec.value_enter, returned]
  rfl

/-- The two answers say the same of a response: its serialisation, or an
error. -/
structure AnswerAlike {Resp : Type} [SerdeJson Resp] (r : Resp)
    (http : Except HttpIngressError HttpResponse) (grpc : Except GrpcIngressError GrpcResponse) :
    Prop where
  alike : ∀ b, (∃ metadata, grpc = .ok ⟨b, metadata⟩) ↔
    ∃ resp, http = .ok resp ∧ resp.status = 200 ∧ resp.body = b
  serialised : ∀ b metadata, grpc = .ok ⟨b, metadata⟩ → SerdeJson.toVec r = .ok b
  failed : ∀ reason, SerdeJson.toVec r = .error reason →
    (∀ resp, http = .ok resp → 400 ≤ resp.status) ∧ ∃ e, grpc = .error e

/-- A handler registered with the default codecs over both transports: whatever
requests decode, and whatever it returns to both, the answers are alike exactly
when what it returns serialises. -/
theorem unserialisable_iff {Req Resp : Type} [SerdeJson Req] [SerdeJson Resp]
    {h : Handler α Req Resp} {deps : HttpJobDeps σ α}
    {behaviour : RegistryBehaviour (GrpcPipeline σ α)} {http : HttpIngressJob σ α}
    {grpc : GrpcIngressJob σ α} {req : InboundRequest} {call : UnaryRequest} {q q' : Req} {r : Resp}
    {w w' : World σ α}
    (executesHttp : http.job.executor deps req.request = some (h.httpRoute.bridged σ))
    (executesGrpc : grpc.job.executor behaviour call.request.method = some (h.grpcRoute.bridged σ))
    (decodedHttp : Codec.jsonDecode req.request = .ok q)
    (decodedGrpc : Codec.grpcJsonDecode call.request.body = .ok q')
    (returnedHttp : (h.execute q ⟨Platform.intoSecurityContext req.ctx, http.observer⟩ w.app).1 = .ok r)
    (returnedGrpc : (h.execute q' ⟨call.ctx, grpc.observer⟩ w'.app).1 = .ok r) :
    AnswerAlike r (((http.ingress deps).handle req).value w)
        (((grpc.ingress behaviour).handleUnary call).value w') ↔
      ∃ b, SerdeJson.toVec r = .ok b := by
  have overHttp : ((http.ingress deps).handle req).value w = .ok (Codec.jsonEncode r) :=
    HttpIngressJob.value_handle_of_returned executesHttp decodedHttp returnedHttp
  have overGrpc : ((grpc.ingress behaviour).handleUnary call).value w' =
      .ok ⟨Codec.grpcJsonEncode r, Platform.defaultMetadata⟩ :=
    GrpcIngressJob.value_handleUnary_of_returned executesGrpc decodedGrpc returnedGrpc
  rw [overHttp, overGrpc]
  cases written : SerdeJson.toVec r with
  | error reason =>
    have noError : ¬ AnswerAlike r (.ok (Codec.jsonEncode r))
        (.ok ⟨Codec.grpcJsonEncode r, Platform.defaultMetadata⟩) := by
      intro alike
      obtain ⟨_, e, failed⟩ := alike.failed reason written
      cases failed
    simp [noError]
  | ok b =>
    have httpAnswer : Codec.jsonEncode r =
        { HttpResponse.new 200 b with headers := [("content-type", "application/json")] } := by
      simp only [Codec.jsonEncode, written]
    have grpcAnswer : Codec.grpcJsonEncode r = b := by
      rw [Codec.grpcJsonEncode, written]
      rfl
    refine iff_of_true ⟨fun b' => ?_, ?_, ?_⟩ ⟨b, rfl⟩
    · rw [httpAnswer, grpcAnswer]
      simp [HttpResponse.new, eq_comm]
    · intro b' metadata answered
      rw [grpcAnswer] at answered
      cases answered
      exact written
    · intro reason failed
      rw [written] at failed
      cases failed

end

section
attribute [local instance] Platform.reference

/-- The request type `()`, which JSON writes as null. -/
local instance : SerdeJson Unit where
  fromValue
    | .null => .ok ()
    | _ => .error "invalid type, expected unit"
  fromSlice bytes := if bytes = "null".toUTF8.toList then .ok () else .error "expected value"
  toVec _ := .ok "null".toUTF8.toList

/-- A map from pairs: JSON has no key for its entries. -/
structure CellCounts where
  entries : List ((Nat × Nat) × Nat)

local instance : SerdeJson CellCounts where
  fromValue _ := .error "key must be a string"
  fromSlice _ := .error "key must be a string"
  toVec counts := if counts.entries = [] then .ok "\x7b\x7d".toUTF8.toList else .error "key must be a string"

/-- A handler that returns these counts. -/
def Handler.counting (counts : CellCounts) : Handler Unit Unit CellCounts :=
  ⟨.ok "pkg.Svc/Cells", .ok "/cells", fun _ _ app => (.ok counts, app), .ok true⟩

private abbrev cellsReq : InboundRequest := ⟨⟨.get, "/cells", [], none⟩, (), ⟨.v4 0, 0⟩⟩

private abbrev cellsCall : UnaryRequest :=
  ⟨⟨"pkg.Svc/Cells", "null".toUTF8.toList, ⟨[]⟩⟩, (), ⟨.v4 0, 0⟩⟩

/-- The HTTP adapter with only that handler. -/
private abbrev cellsHttp (counts : CellCounts) : HttpIngressJob Unit Unit :=
  ⟨DefaultHttpJob.new.registerAll (.overwriting .exact) [(Handler.counting counts).httpRoute], ()⟩

/-- The gRPC adapter with only that handler. -/
private abbrev cellsGrpc (counts : CellCounts) : GrpcIngressJob Unit Unit :=
  ⟨(DefaultGrpcJob.new.registerRoute .infallible (Handler.counting counts).grpcRoute).2, ()⟩

private theorem cellsHttp_executes (counts : CellCounts) :
    (cellsHttp counts).job.executor (.overwriting .exact) cellsReq.request =
      some ((Handler.counting counts).httpRoute.bridged Unit) := by
  have named : (Handler.counting counts).httpRoute.names = .ok ("pkg.Svc/Cells", "/cells") := rfl
  exact DefaultHttpJob.executor_of_resolved named rfl rfl

private theorem cellsGrpc_executes (counts : CellCounts) :
    (cellsGrpc counts).job.executor .infallible cellsCall.request.method =
      some ((Handler.counting counts).grpcRoute.bridged Unit) := by
  have named : (Handler.counting counts).grpcRoute.names = .ok ("pkg.Svc/Cells", "/cells") := rfl
  exact DefaultGrpcJob.executor_of_accepted named rfl

private theorem cells_decoded :
    Codec.jsonDecode cellsReq.request = .ok () ∧ Codec.grpcJsonDecode cellsCall.request.body = .ok () := by
  constructor
  · simp only [Codec.jsonDecode, SerdeJson.fromSlice, if_true]
    rfl
  · simp only [Codec.grpcJsonDecode, SerdeJson.fromSlice, if_true]
    rfl

/-- Counts without entries serialise. -/
theorem unserialisable_iff_empty :
    AnswerAlike (⟨[]⟩ : CellCounts)
      (((((cellsHttp ⟨[]⟩).ingress (.overwriting .exact)).handle cellsReq)).value ⟨(), .new, ()⟩)
      ((((cellsGrpc ⟨[]⟩).ingress .infallible).handleUnary cellsCall).value ⟨(), .new, ()⟩) :=
  (unserialisable_iff (cellsHttp_executes ⟨[]⟩) (cellsGrpc_executes ⟨[]⟩) cells_decoded.1 cells_decoded.2
    rfl rfl).mpr
    ⟨"\x7b\x7d".toUTF8.toList, rfl⟩

/-- With an entry, HTTP answers with status 500 and gRPC with an empty body. -/
theorem unserialisable_counts_are_ok_over_grpc :
    let counts : CellCounts := ⟨[((0, 1), 7)]⟩
    SerdeJson.toVec counts = .error "key must be a string" ∧
      ((((cellsHttp counts).ingress (.overwriting .exact)).handle cellsReq)).value ⟨(), .new, ()⟩ =
        .ok (.new 500 "key must be a string".toUTF8.toList) ∧
      (((cellsGrpc counts).ingress .infallible).handleUnary cellsCall).value ⟨(), .new, ()⟩ =
        .ok ⟨[], ⟨[]⟩⟩ ∧
      ¬ AnswerAlike counts
        (((((cellsHttp counts).ingress (.overwriting .exact)).handle cellsReq)).value ⟨(), .new, ()⟩)
        ((((cellsGrpc counts).ingress .infallible).handleUnary cellsCall).value ⟨(), .new, ()⟩) := by
  intro counts
  have overHttp : ((((cellsHttp counts).ingress (.overwriting .exact)).handle cellsReq)).value
      ⟨(), .new, ()⟩ = .ok (.new 500 "key must be a string".toUTF8.toList) :=
    HttpIngressJob.value_handle_of_returned (cellsHttp_executes counts) cells_decoded.1 rfl
  have overGrpc : (((cellsGrpc counts).ingress .infallible).handleUnary cellsCall).value
      ⟨(), .new, ()⟩ = .ok ⟨[], ⟨[]⟩⟩ :=
    GrpcIngressJob.value_handleUnary_of_returned (cellsGrpc_executes counts) cells_decoded.2 rfl
  refine ⟨rfl, overHttp, overGrpc, fun alike => ?_⟩
  obtain ⟨_, e, failed⟩ := alike.failed "key must be a string" rfl
  rw [overGrpc] at failed
  cases failed

end

end EdgeBootstrap
