import EdgeBootstrap.Dispatch.RouteOwnership
import EdgeBootstrap.Dispatch.GrpcJob
import EdgeBootstrap.Dispatch.JsonCodec

/-! What a client sees when the body of its request is rejected. The bridge
reports the error as an invalid request, `run` flattens that to the text of a
handler error, and the ingress adapter answers `Internal` with the text. -/
namespace EdgeBootstrap

/-- The two errors are of one variant. -/
def HttpIngressError.SameVariant : HttpIngressError → HttpIngressError → Prop
  | .invalidInput _, .invalidInput _ => True
  | .notFound _, .notFound _ => True
  | .methodNotAllowed _, .methodNotAllowed _ => True
  | .permissionDenied _, .permissionDenied _ => True
  | .internal _, .internal _ => True
  | .unavailable _, .unavailable _ => True
  | .other v _, .other w _ => v = w
  | _, _ => False

/-- The two errors are of one variant. -/
def GrpcIngressError.SameVariant : GrpcIngressError → GrpcIngressError → Prop
  | .invalidArgument _, .invalidArgument _ => True
  | .unimplemented _, .unimplemented _ => True
  | .permissionDenied _, .permissionDenied _ => True
  | .internal _, .internal _ => True
  | .unavailable _, .unavailable _ => True
  | .other v _, .other w _ => v = w
  | _, _ => False

section
variable [Platform] {σ α : Type}

/-- A run that answers with an error of the variant of `e`, which is not
`Internal`, and calls no application code. -/
structure KeepsHttpClass (run : Exec σ α (Except HttpIngressError HttpResponse))
    (e : HttpIngressError) (world : World σ α) : Prop where
  sameVariant : ∃ answered, run.value world = .error answered ∧ answered.SameVariant e
  notInternal : ∀ msg, run.value world ≠ .error (.internal msg)
  notEntered : ∀ event ∈ run.events world, ¬ event.IsEntry

/-- The same of a gRPC run. -/
structure KeepsGrpcClass (run : Exec σ α (Except GrpcIngressError GrpcResponse))
    (e : GrpcIngressError) (world : World σ α) : Prop where
  sameVariant : ∃ answered, run.value world = .error answered ∧ answered.SameVariant e
  notInternal : ∀ msg, run.value world ≠ .error (.internal msg)
  notEntered : ∀ event ∈ run.events world, ¬ event.IsEntry

/-- A rejected body is answered `Internal`, and nothing is called or changed. -/
theorem HttpIngressJob.handle_of_undecodable {deps : HttpJobDeps σ α} {self : HttpIngressJob σ α}
    {route : HttpRoute α} {req : InboundRequest} {e : HttpIngressError}
    (executes : self.job.executor deps req.request = some (route.bridged σ))
    (rejected : route.decode req.request = .error e) :
    (self.ingress deps).handle req = pure (.error (.internal
      (Platform.handlerErrorText (.invalidRequest (Platform.httpErrorText e))))) := by
  have bridge : ∀ ctx, (route.bridged σ).execute req.request ctx =
      pure (.error (.invalidRequest (Platform.httpErrorText e))) := by
    intro ctx
    simp only [HttpRoute.bridged, rejected]
  show _ <$> self.job.run deps req.request _ = _
  rw [DefaultHttpJob.run_of_executor executes, bridge, map_pure, map_pure]
  rfl

/-- The gRPC adapter answers a rejected body in the same way. -/
theorem GrpcIngressJob.handleUnary_of_undecodable
    {behaviour : RegistryBehaviour (GrpcPipeline σ α)} {self : GrpcIngressJob σ α}
    {route : GrpcRoute α} {req : UnaryRequest} {e : GrpcIngressError}
    (executes : self.job.executor behaviour req.request.method = some (route.bridged σ))
    (rejected : route.decode req.request.body = .error e) :
    (self.ingress behaviour).handleUnary req = pure (.error (.internal
      (Platform.handlerErrorText (.invalidRequest (Platform.grpcErrorText e))))) := by
  have bridge : ∀ ctx, (route.bridged σ).execute req.request.body ctx =
      pure (.error (.invalidRequest (Platform.grpcErrorText e))) := by
    intro ctx
    simp only [GrpcRoute.bridged, rejected]
  show _ <$> self.job.run behaviour req.request _ = _
  rw [DefaultGrpcJob.run_of_executor executes, bridge, map_pure, map_pure]
  rfl

/-- No rejected body keeps its class, over HTTP or over gRPC: whatever the error,
the observer and the security context, the answer is `Internal`. -/
theorem decode_error_never_keeps_class :
    (∀ (deps : HttpJobDeps σ α) (self : HttpIngressJob σ α) (route : HttpRoute α)
      (req : InboundRequest) (e : HttpIngressError) (world : World σ α),
      self.job.executor deps req.request = some (route.bridged σ) →
      route.decode req.request = .error e →
      ¬ KeepsHttpClass ((self.ingress deps).handle req) e world) ∧
    (∀ (behaviour : RegistryBehaviour (GrpcPipeline σ α)) (self : GrpcIngressJob σ α)
      (route : GrpcRoute α) (req : UnaryRequest) (e : GrpcIngressError) (world : World σ α),
      self.job.executor behaviour req.request.method = some (route.bridged σ) →
      route.decode req.request.body = .error e →
      ¬ KeepsGrpcClass ((self.ingress behaviour).handleUnary req) e world) := by
  constructor
  · intro deps self route req e world executes rejected keeps
    rw [HttpIngressJob.handle_of_undecodable executes rejected] at keeps
    exact keeps.notInternal _ rfl
  · intro behaviour self route req e world executes rejected keeps
    rw [GrpcIngressJob.handleUnary_of_undecodable executes rejected] at keeps
    exact keeps.notInternal _ rfl

end

section
attribute [local instance] Platform.reference

/-- A type that no document and no bytes deserialize to. -/
local instance : SerdeJson Empty where
  fromValue _ := .error "expected a payload"
  fromSlice _ := .error "expected a payload"
  toVec value := value.elim

/-- A route of the default codec over a type nothing deserializes to. -/
def HttpRoute.undecodable : HttpRoute Unit where
  Req := Empty
  Resp := Empty
  handler := ⟨.ok "upload", .ok "/upload", fun value _ _ => value.elim, .ok true⟩
  decode := Codec.jsonDecode
  encode := Codec.jsonEncode

/-- Its gRPC twin. -/
def GrpcRoute.undecodable : GrpcRoute Unit where
  Req := Empty
  Resp := Empty
  handler := ⟨.ok "pkg.Svc/Upload", .ok "/upload", fun value _ _ => value.elim, .ok true⟩
  decode := Codec.grpcJsonDecode
  encode := Codec.grpcJsonEncode

private abbrev uploadReq : InboundRequest := ⟨⟨.get, "/upload", [], none⟩, (), ⟨.v4 0, 0⟩⟩

private abbrev uploadCall : UnaryRequest := ⟨⟨"pkg.Svc/Upload", [], ⟨[]⟩⟩, (), ⟨.v4 0, 0⟩⟩

/-- The HTTP adapter with only the undecodable route. -/
private abbrev uploadHttp : HttpIngressJob Unit Unit :=
  ⟨DefaultHttpJob.new.registerAll (.overwriting .exact) [.undecodable], ()⟩

/-- The gRPC adapter with only the undecodable route. -/
private abbrev uploadGrpc : GrpcIngressJob Unit Unit :=
  ⟨(DefaultGrpcJob.new.registerRoute .infallible .undecodable).2, ()⟩

private theorem uploadHttp_executes :
    uploadHttp.job.executor (.overwriting .exact) uploadReq.request =
      some (HttpRoute.undecodable.bridged Unit) := by
  have named : HttpRoute.undecodable.names = .ok ("upload", "/upload") := rfl
  exact DefaultHttpJob.executor_of_resolved named rfl (by decide)

private theorem uploadGrpc_executes :
    uploadGrpc.job.executor .infallible uploadCall.request.method =
      some (GrpcRoute.undecodable.bridged Unit) := by
  have named : GrpcRoute.undecodable.names = .ok ("pkg.Svc/Upload", "/upload") := rfl
  exact DefaultGrpcJob.executor_of_accepted named (by decide)

/-- Both transports, on a request the default codec rejects. -/
theorem decode_error_never_keeps_class_upload :
    ¬ KeepsHttpClass ((uploadHttp.ingress (.overwriting .exact)).handle uploadReq)
        (.invalidInput "expected a payload") ⟨(), .new, ()⟩ ∧
      ¬ KeepsGrpcClass ((uploadGrpc.ingress .infallible).handleUnary uploadCall)
        (.invalidArgument "expected a payload") ⟨(), .new, ()⟩ :=
  ⟨decode_error_never_keeps_class.1 _ _ .undecodable _ _ _ uploadHttp_executes rfl,
    decode_error_never_keeps_class.2 _ _ .undecodable _ _ _ uploadGrpc_executes rfl⟩

/-- The codecs reject the request as the client's error, and it is answered as
an internal one. -/
theorem rejected_upload_is_internal :
    HttpRoute.undecodable.decode uploadReq.request = .error (.invalidInput "expected a payload") ∧
      GrpcRoute.undecodable.decode uploadCall.request.body =
        .error (.invalidArgument "expected a payload") ∧
      ((uploadHttp.ingress (.overwriting .exact)).handle uploadReq).value ⟨(), .new, ()⟩ =
        .error (.internal "") ∧
      ((uploadGrpc.ingress .infallible).handleUnary uploadCall).value ⟨(), .new, ()⟩ =
        .error (.internal "") := by
  refine ⟨rfl, rfl, ?_, ?_⟩
  · rw [HttpIngressJob.handle_of_undecodable uploadHttp_executes rfl]
    rfl
  · rw [GrpcIngressJob.handleUnary_of_undecodable uploadGrpc_executes rfl]
    rfl

end

end EdgeBootstrap
