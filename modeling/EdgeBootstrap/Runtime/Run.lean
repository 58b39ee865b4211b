import EdgeBootstrap.Runtime.Serve

/-! `Runtime::run`: the servers over a ready-made ingress, bare, and the manager. -/
namespace EdgeBootstrap.Runtime
open RuntimeBuilder

variable [Platform] {σ α : Type} (host : Host σ α) (config : RuntimeConfig) (ingress : Ingress σ α)
  (egress : Egress) (lifecycle : LifecycleMonitor)

/-- The HTTP server of `run`. -/
def httpServer (verifier : Option Platform.TokenVerifier) (handler : HttpIngress σ α) :
    HttpServer σ α where
  bind := config.httpBind
  handler := handler
  tls := config.httpTls
  bearerAuth := verifier

/-- The gRPC options of `run`: no method is declared with a streaming kind. -/
def grpcSettings : Except RuntimeError GrpcServerSettings := do
  let server ← withTls host { bind := config.grpcBind } config.grpcTls
  allowUnauthenticated host server config.grpcAllowUnauthenticated

/-- The gRPC server of `run`, unless the transport refuses one of its options. -/
def grpcServer (handler : GrpcIngress σ α) : Except RuntimeError (GrpcServer σ α) :=
  (grpcSettings host config).map fun settings => ⟨settings, handler⟩

def runtimeManager : DefaultRuntimeManager σ α := { config, ingress, egress, lifecycle }

/-- `run`, from the manager on. -/
def supervise : Assembling σ α Unit := do
  let result ← Effects.attempt (DaemonRunner.runUntilSignal host
    (runtimeManager config ingress egress lifecycle) config.shutdownTimeoutSecs)
  stop [.http, .grpc]
  join ((if ingress.http.isSome then [.http] else []) ++ if ingress.grpc.isSome then [.grpc] else [])
  Effects.ofExcept result

def run : Assembling σ α Unit := do
  let verifier ← Effects.ofExcept (verifierOfConfig host config)
  spawnServers (ingress.http.map (httpServer config verifier))
    (ingress.grpc.map (grpcServer host config)) none
  supervise host config ingress egress lifecycle

end EdgeBootstrap.Runtime
