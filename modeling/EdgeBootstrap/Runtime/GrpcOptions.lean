import EdgeBootstrap.Runtime.StartFailures

/-! The options of the gRPC server as one list. `serve` and `run` set theirs one
after the other, so the server cannot be built exactly when the transport refuses
one of the options, given those that are set before it. -/
namespace EdgeBootstrap

variable [Platform] {σ α : Type}

/-- An option of the gRPC server. -/
inductive GrpcOption
  | streamingKind (method : String) (kind : StreamingKind)
  | tls (tls : Platform.PemTlsConfig)
  | interceptors (chain : List Platform.GrpcInterceptor)
  | allowUnauthenticated

/-- The options with one more set. -/
def GrpcServerSettings.with (server : GrpcServerSettings) : GrpcOption → GrpcServerSettings
  | .streamingKind method kind =>
    { server with streamingKinds := (method, kind) :: server.streamingKinds }
  | .tls tls => { server with tls := some tls }
  | .interceptors chain => { server with interceptors := chain }
  | .allowUnauthenticated => { server with allowUnauthenticated := true }

/-- The refusal of an option. -/
def GrpcServerManage.refusal (manage : GrpcServerManage) (server : GrpcServerSettings) :
    GrpcOption → Option String
  | .streamingKind method kind => manage.streamingKindError server method kind
  | .tls tls => manage.tlsError server tls
  | .interceptors chain => manage.interceptorsError server chain
  | .allowUnauthenticated => manage.allowUnauthenticatedError server

/-- The transport refuses one of the options, given those before it. -/
def GrpcServerManage.Refuses (manage : GrpcServerManage) (bind : String)
    (options : List GrpcOption) : Prop :=
  ∃ before option after, options = before ++ option :: after ∧
    manage.refusal (before.foldl GrpcServerSettings.with { bind }) option ≠ none

/-- The options `run` sets. -/
def Runtime.grpcOptions (config : RuntimeConfig) : List GrpcOption :=
  (config.grpcTls.map .tls).toList ++
    if config.grpcAllowUnauthenticated then [.allowUnauthenticated] else []

namespace RuntimeBuilder
variable (host : Host σ α) (self : RuntimeBuilder σ α) (config : RuntimeConfig)

/-- The options `serve` sets. -/
def grpcOptions : List GrpcOption :=
  (self.grpcRouteIds host).map (.streamingKind · .unary) ++
    (if (self.reflectionRouteLister host config).isSome then
      [.streamingKind host.reflectionInfoMethod .bidiStream] else []) ++
    ((self.grpcTls.or config.grpcTls).map .tls).toList ++
    (if self.grpcInterceptors.isEmpty then [] else [.interceptors self.grpcInterceptors]) ++
    if self.grpcAllowUnauthenticated || config.grpcAllowUnauthenticated then
      [.allowUnauthenticated] else []

/-- Set one option. -/
def setOption (server : GrpcServerSettings) (o : GrpcOption) :
    Except RuntimeError GrpcServerSettings :=
  option (host.grpcServer.refusal server o) (server.with o)

theorem setOption_exactly (server : GrpcServerSettings) (o : GrpcOption) :
    StartFails (host.grpcServer.refusal server o ≠ none) (setOption host server o) := by
  unfold setOption option
  cases host.grpcServer.refusal server o with
  | none => simp [StartFails]
  | some e => exact ⟨nofun, ⟨e, rfl⟩⟩

theorem setOption_ok {server settings : GrpcServerSettings} {o : GrpcOption}
    (set : setOption host server o = .ok settings) : settings = server.with o := by
  unfold setOption option at set
  split at set
  · cases set
  · exact (Except.ok.inj set).symm

/-- Setting options fails exactly when one of them is refused. -/
theorem setOptions_exactly (bind : String) (options : List GrpcOption) :
    StartFails (host.grpcServer.Refuses bind options)
      (options.foldlM (setOption host) { bind }) :=
  .foldlM (setOption_exactly host) (fun _ _ _ => setOption_ok host) options { bind }

/-- Options that were all set are the fold of setting them. -/
theorem setOptions_ok {options : List GrpcOption} {server settings : GrpcServerSettings}
    (set : options.foldlM (setOption host) server = .ok settings) :
    settings = options.foldl GrpcServerSettings.with server := by
  induction options generalizing server with
  | nil => exact (Except.ok.inj set).symm
  | cons o rest ih =>
    rw [List.foldlM_cons] at set
    obtain ⟨next, first, set⟩ := Except.bind_eq_ok.mp set
    cases setOption_ok host first
    exact ih set

private theorem foldlM_singleton (server : GrpcServerSettings) (o : GrpcOption) :
    [o].foldlM (setOption host) server = setOption host server o := by
  rw [List.foldlM_cons]
  exact bind_pure _

private theorem foldlM_tls (server : GrpcServerSettings) (tls : Option Platform.PemTlsConfig) :
    (tls.map .tls).toList.foldlM (setOption host) server = withTls host server tls := by
  cases tls with
  | none => rfl
  | some tls => exact foldlM_singleton host server (.tls tls)

private theorem foldlM_interceptors (server : GrpcServerSettings)
    (chain : List Platform.GrpcInterceptor) :
    (if chain.isEmpty then [] else [GrpcOption.interceptors chain]).foldlM (setOption host) server =
      withInterceptors host server chain := by
  unfold withInterceptors
  split
  · rfl
  · exact foldlM_singleton host server (.interceptors chain)

private theorem foldlM_allowUnauthenticated (server : GrpcServerSettings) (allow : Bool) :
    (if allow then [GrpcOption.allowUnauthenticated] else []).foldlM (setOption host) server =
      allowUnauthenticated host server allow := by
  unfold allowUnauthenticated
  split
  · exact foldlM_singleton host server .allowUnauthenticated
  · rfl

private theorem foldlM_reflection (server : GrpcServerSettings) (enabled : Bool) :
    (if enabled then [GrpcOption.streamingKind host.reflectionInfoMethod .bidiStream] else []).foldlM
        (setOption host) server =
      if enabled then withStreamingKind host server host.reflectionInfoMethod .bidiStream
      else .ok server := by
  split
  · exact foldlM_singleton host server (.streamingKind host.reflectionInfoMethod .bidiStream)
  · rfl

theorem grpcSettings_eq :
    self.grpcSettings host config =
      (self.grpcOptions host config).foldlM (setOption host) { bind := config.grpcBind } := by
  unfold grpcSettings grpcOptions
  simp only [List.foldlM_append, List.foldlM_map, foldlM_tls, foldlM_interceptors,
    foldlM_allowUnauthenticated, foldlM_reflection, bind_assoc]
  refine bind_congr fun server => ?_
  cases (self.reflectionRouteLister host config).isSome with
  | true => rfl
  | false => rfl

/-- The gRPC server of `serve` cannot be built exactly when one of its options is
refused. -/
theorem grpcSettings_exactly :
    StartFails (host.grpcServer.Refuses config.grpcBind (self.grpcOptions host config))
      (self.grpcSettings host config) := by
  rw [grpcSettings_eq]
  exact setOptions_exactly host config.grpcBind _

end RuntimeBuilder

namespace Runtime
variable (host : Host σ α) (config : RuntimeConfig)

theorem grpcSettings_eq :
    grpcSettings host config =
      (grpcOptions config).foldlM (RuntimeBuilder.setOption host) { bind := config.grpcBind } := by
  unfold grpcSettings grpcOptions
  simp only [List.foldlM_append, RuntimeBuilder.foldlM_tls,
    RuntimeBuilder.foldlM_allowUnauthenticated]

/-- The gRPC server of `run` cannot be built exactly when one of its options is
refused. -/
theorem grpcSettings_exactly :
    StartFails (host.grpcServer.Refuses config.grpcBind (grpcOptions config))
      (grpcSettings host config) := by
  rw [grpcSettings_eq]
  exact RuntimeBuilder.setOptions_exactly host config.grpcBind _

end Runtime

end EdgeBootstrap
