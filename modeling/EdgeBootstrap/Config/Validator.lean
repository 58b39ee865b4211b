import EdgeBootstrap.Rust.Text
import EdgeBootstrap.Config.RuntimeConfig
import EdgeBootstrap.Runtime.Types

/-! `ConfigValidator`. -/
namespace EdgeBootstrap

variable [Platform]

namespace ConfigValidator

def validate (value : RuntimeConfig) : Except RuntimeError Unit :=
  if Rust.trim value.httpBind = "" then .error (.startFailed "http_bind must not be empty")
  else if Rust.trim value.grpcBind = "" then .error (.startFailed "grpc_bind must not be empty")
  else if value.shutdownTimeoutSecs = 0 then
    .error (.startFailed "shutdown_timeout_secs must be > 0")
  else .ok ()

/-- The configuration is accepted exactly when both binds have a character that
is not white space and the timeout is positive. -/
theorem validate_eq_ok_iff (c : RuntimeConfig) :
    validate c = .ok () ↔ Rust.trim c.httpBind ≠ "" ∧ Rust.trim c.grpcBind ≠ "" ∧
      c.shutdownTimeoutSecs ≠ 0 := by
  unfold validate
  by_cases http : Rust.trim c.httpBind = ""
  · simp [http]
  · by_cases grpc : Rust.trim c.grpcBind = ""
    · simp [http, grpc]
    · by_cases timeout : c.shutdownTimeoutSecs = 0
      · simp [http, grpc, timeout]
      · simp [http, grpc, timeout]

end ConfigValidator

end EdgeBootstrap
