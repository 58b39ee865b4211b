import EdgeBootstrap.Library.Effects
import EdgeBootstrap.Runtime.Builder

/-! What `serve` and `run` share: spawning servers, and `DaemonRunner`, which
starts the manager, waits for the signal and shuts down within the timeout. -/
namespace EdgeBootstrap

variable [Platform] {σ α : Type}

abbrev Assembling (σ α : Type) := Effects (RuntimeEvent σ α) RuntimeError

def DaemonRunner.runUntilSignal (host : Host σ α) (manager : DefaultRuntimeManager σ α)
    (shutdownTimeoutSecs : UInt64) : Assembling σ α Unit := do
  let (started, manager) := manager.start host.startedAt
  Effects.tell (.managerStarted started)
  Effects.ofExcept started
  Effects.tell .signalled
  if host.shutdownTimesOut shutdownTimeoutSecs then
    Effects.fail (.shutdownTimeout shutdownTimeoutSecs)
  else
    let (stopped, _) := manager.shutdown
    Effects.tell (.managerShutDown stopped)
    Effects.ofExcept stopped

/-- Spawn the servers: HTTP at once, gRPC once its options are set, and metrics. -/
def spawnServers (http : Option (HttpServer σ α))
    (grpc : Option (Except RuntimeError (GrpcServer σ α))) (metrics : Option (HttpServer σ α)) :
    Assembling σ α Unit := do
  Effects.tellAll (http.map .httpSpawned).toList
  match grpc with
  | some server => do
    let server ← Effects.ofExcept server
    Effects.tell (.grpcSpawned server)
  | none => pure ()
  Effects.tellAll (metrics.map .metricsSpawned).toList

/-- Tell the tasks to stop. -/
def stop (tasks : List Task) : Assembling σ α Unit := Effects.tellAll (tasks.map .stopSent)

/-- Wait for the tasks, for five seconds each at most. -/
def join (tasks : List Task) : Assembling σ α Unit := Effects.tellAll (tasks.map .joined)

end EdgeBootstrap
