import EdgeBootstrap.Config.RuntimeConfig

/-! `ConfigOverride`: the part of a `RuntimeConfig` a configuration file can
set. Reading takes the sixteen keys the type declares and ignores every other
key of the document; applying replaces the fields that are present. -/
namespace EdgeBootstrap
open Toml

variable [Platform]

/-- `ConfigError`, less `HandlerBuild`, which no loader returns. -/
inductive ConfigError
  | parse (msg : String)
  | io (msg : String)
  | unknownTenant (id : String)
  | invalidTenantId (id : String)
  | badEnvVar (msg : String)
  deriving DecidableEq, Repr

/-- `Display` of `ConfigError`. -/
def ConfigError.text : ConfigError → String
  | .parse msg => "config parse error: " ++ msg
  | .io msg => "config io error: " ++ msg
  | .unknownTenant id => "unknown tenant: '" ++ id ++ "'"
  | .invalidTenantId id =>
    "invalid tenant id: '" ++ id ++ "' — only [a-zA-Z0-9_-] are allowed"
  | .badEnvVar msg => "invalid env var: " ++ msg

structure ConfigOverride where
  serviceName : Option String := none
  httpBind : Option String := none
  grpcBind : Option String := none
  shutdownTimeoutSecs : Option UInt64 := none
  systemdNotify : Option Bool := none
  tenantId : Option String := none
  httpTls : Option Platform.PemTlsConfig := none
  grpcTls : Option Platform.PemTlsConfig := none
  httpAuth : Option Platform.JwtConfig := none
  grpcAllowUnauthenticated : Option Bool := none
  egressHttp : Option Platform.HttpConfig := none
  egressGrpc : Option Platform.GrpcChannelConfig := none
  grpcReflection : Option Bool := none
  metrics : Option MetricsConfig := none
  autoscale : Option AutoscalePolicy := none
  observability : Option Platform.ObservabilityConfig := none

namespace ConfigOverride

/-- The derived `Deserialize`, every key optional. -/
def deserialize (serde : Serde) (t : Table) : Except String ConfigOverride := do
  let serviceName ← field (deString serde.mismatch) t "service_name"
  let httpBind ← field (deString serde.mismatch) t "http_bind"
  let grpcBind ← field (deString serde.mismatch) t "grpc_bind"
  let shutdownTimeoutSecs ← field (deU64 serde.mismatch) t "shutdown_timeout_secs"
  let systemdNotify ← field (deBool serde.mismatch) t "systemd_notify"
  let tenantId ← field (deString serde.mismatch) t "tenant_id"
  let httpTls ← field serde.pemTls.de t "http_tls"
  let grpcTls ← field serde.pemTls.de t "grpc_tls"
  let httpAuth ← field serde.jwt.de t "http_auth"
  let grpcAllowUnauthenticated ← field (deBool serde.mismatch) t "grpc_allow_unauthenticated"
  let egressHttp ← field serde.http.de t "egress_http"
  let egressGrpc ← field serde.grpcChannel.de t "egress_grpc"
  let grpcReflection ← field (deBool serde.mismatch) t "grpc_reflection"
  let metrics ← field (MetricsConfig.de serde) t "metrics"
  let autoscale ← field (AutoscalePolicy.de serde) t "autoscale"
  let observability ← field serde.observability.de t "observability"
  return {
    serviceName, httpBind, grpcBind, shutdownTimeoutSecs, systemdNotify, tenantId, httpTls, grpcTls,
    httpAuth, grpcAllowUnauthenticated, egressHttp, egressGrpc, grpcReflection, metrics, autoscale,
    observability }

def fromStr (toml : Toml.Crate) (serde : Serde) (s : String) : Except ConfigError ConfigOverride :=
  match toml.parse s with
  | .error e => .error (.parse e)
  | .ok t =>
    match deserialize serde t with
    | .error e => .error (.parse e)
    | .ok o => .ok o

/-- `ConfigOverride::apply_to`. An empty tenant id counts as absent. -/
def applyTo (o : ConfigOverride) (base : RuntimeConfig) : RuntimeConfig :=
  { base with
    serviceName := o.serviceName.getD base.serviceName
    httpBind := o.httpBind.getD base.httpBind
    grpcBind := o.grpcBind.getD base.grpcBind
    shutdownTimeoutSecs := o.shutdownTimeoutSecs.getD base.shutdownTimeoutSecs
    systemdNotify := o.systemdNotify.getD base.systemdNotify
    tenantId := match o.tenantId with
      | some v => if v = "" then base.tenantId else some v
      | none => base.tenantId
    httpTls := o.httpTls.or base.httpTls
    grpcTls := o.grpcTls.or base.grpcTls
    httpAuth := o.httpAuth.or base.httpAuth
    grpcAllowUnauthenticated := o.grpcAllowUnauthenticated.getD base.grpcAllowUnauthenticated
    egressHttp := o.egressHttp.or base.egressHttp
    egressGrpc := o.egressGrpc.or base.egressGrpc
    grpcReflection := o.grpcReflection.getD base.grpcReflection
    metrics := o.metrics.or base.metrics
    autoscale := o.autoscale.or base.autoscale
    observability := o.observability.or base.observability }

end ConfigOverride

end EdgeBootstrap
