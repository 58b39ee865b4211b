import Std.Data.ExtTreeMap
import EdgeBootstrap.Platform
import EdgeBootstrap.Config.Toml

/-! `RuntimeConfig`: every field the port crate declares, its defaults, and the
derived serialisation. The settings another crate defines are opaque, with the
serde implementation of that crate as a codec. -/
namespace EdgeBootstrap
open Toml (Codec F64 TypeError)

variable [Platform]

structure MetricsConfig where
  bind : String := "0.0.0.0:9090"
  path : String := "/metrics"
  deriving DecidableEq, Repr

/-- 200.0, the latency threshold in milliseconds. -/
def AutoscalePolicy.latencyDefault : F64 := ⟨0x4069000000000000, by decide⟩

structure AutoscalePolicy where
  requestsActiveMax : UInt64 := 500
  requestsPerSecMax : UInt64 := 1000
  latencyP99MsMax : F64 := AutoscalePolicy.latencyDefault
  deriving DecidableEq

structure ServiceEgressConfig where
  loadbalancer : Platform.LoadbalancerConfig

inductive MetricsBackendKind
  | memory | file | prometheus | otel | sqlite
  deriving DecidableEq, Repr

/-- `swe_observ_metrics::MetricsConfig`, imported as `MetricsBackendConfig`: the
settings `build_metrics_provider` reads. -/
structure MetricsBackendConfig where
  active : MetricsBackendKind := .memory
  file : Option String := none
  prometheus : Option Unit := none
  otel : Option String := none
  deriving DecidableEq, Repr

inductive TracerBackendKind
  | memory | file | jaeger | otel | sqlite
  deriving DecidableEq, Repr

/-- The tracer settings `build_tracer_provider` reads; Jaeger's are its service
name and endpoint. -/
structure TracerBackendConfig where
  active : TracerBackendKind := .memory
  file : Option String := none
  jaeger : Option (String × String) := none
  otel : Option String := none
  deriving DecidableEq, Repr

inductive LogBackendKind
  | memory | file | elk | otel | sqlite
  deriving DecidableEq, Repr

/-- The log settings `build_log_backend` reads; a log file's are its path and
size limit, ELK's its index. -/
structure LogBackendConfig where
  active : LogBackendKind := .memory
  file : Option (String × UInt64) := none
  elk : Option String := none
  otel : Option String := none
  deriving DecidableEq, Repr

/-- `RuntimeConfig` with its `Default`. -/
structure RuntimeConfig where
  serviceName : String := "swe-edge"
  httpBind : String := "0.0.0.0:8080"
  grpcBind : String := "0.0.0.0:50051"
  shutdownTimeoutSecs : UInt64 := 30
  systemdNotify : Bool := false
  tenantId : Option String := none
  httpTls : Option Platform.PemTlsConfig := none
  grpcTls : Option Platform.PemTlsConfig := none
  httpAuth : Option Platform.JwtConfig := none
  grpcAllowUnauthenticated : Bool := false
  egressHttp : Option Platform.HttpConfig := none
  egressGrpc : Option Platform.GrpcChannelConfig := none
  services : Std.ExtTreeMap String ServiceEgressConfig := ∅
  grpcReflection : Bool := false
  metrics : Option MetricsConfig := none
  metricsBackend : Option MetricsBackendConfig := none
  tracerBackend : Option TracerBackendConfig := none
  logBackend : Option LogBackendConfig := none
  autoscale : Option AutoscalePolicy := none
  observability : Option Platform.ObservabilityConfig := none
  deployDir : Option String := none
  intrusion : Option Platform.IntrusionConfig := none

def RuntimeConfig.default : RuntimeConfig := {}

/-- The serde implementations of the settings other crates define, and the
texts and conversions of serde itself. -/
structure Serde where
  pemTls : Codec Platform.PemTlsConfig
  jwt : Codec Platform.JwtConfig
  http : Codec Platform.HttpConfig
  grpcChannel : Codec Platform.GrpcChannelConfig
  loadbalancer : Codec Platform.LoadbalancerConfig
  observability : Codec Platform.ObservabilityConfig
  intrusion : Codec Platform.IntrusionConfig
  metricsBackend : Codec MetricsBackendConfig
  tracerBackend : Codec TracerBackendConfig
  logBackend : Codec LogBackendConfig
  mismatch : TypeError
  floatOfInt : Int64 → F64

variable (serde : Serde)
open Toml

/-- The derived `Deserialize` of `MetricsConfig` from a table, absent keys defaulted; from an
array it is left out. -/
def MetricsConfig.de : Value → Except String MetricsConfig
  | .table t => do
    let bind ← fieldOr (deString serde.mismatch) t "bind" "0.0.0.0:9090"
    let path ← fieldOr (deString serde.mismatch) t "path" "/metrics"
    return { bind, path }
  | v => .error (serde.mismatch v "struct MetricsConfig")

/-- The fields `MetricsConfig` serialises. -/
def MetricsConfig.fields (c : MetricsConfig) : List (String × Except String (Option Value)) :=
  [("bind", required (serString c.bind)), ("path", required (serString c.path))]

/-- The derived `Serialize` of `MetricsConfig`. -/
def MetricsConfig.ser (c : MetricsConfig) : Except String Value :=
  (serializeStruct c.fields).map .table

/-- The derived `Deserialize` of `AutoscalePolicy` from a table, absent keys defaulted; from an
array it is left out. -/
def AutoscalePolicy.de : Value → Except String AutoscalePolicy
  | .table t => do
    let requestsActiveMax ← fieldOr (deU64 serde.mismatch) t "requests_active_max" 500
    let requestsPerSecMax ← fieldOr (deU64 serde.mismatch) t "requests_per_sec_max" 1000
    let latencyP99MsMax ←
      fieldOr (deF64 serde.mismatch serde.floatOfInt) t "latency_p99_ms_max" latencyDefault
    return { requestsActiveMax, requestsPerSecMax, latencyP99MsMax }
  | v => .error (serde.mismatch v "struct AutoscalePolicy")

/-- The fields `AutoscalePolicy` serialises. -/
def AutoscalePolicy.fields (c : AutoscalePolicy) : List (String × Except String (Option Value)) :=
  [("requests_active_max", required (serU64 c.requestsActiveMax)),
    ("requests_per_sec_max", required (serU64 c.requestsPerSecMax)),
    ("latency_p99_ms_max", required (serF64 c.latencyP99MsMax))]

/-- The derived `Serialize` of `AutoscalePolicy`. -/
def AutoscalePolicy.ser (c : AutoscalePolicy) : Except String Value :=
  (serializeStruct c.fields).map .table

/-- The derived `Serialize` of `ServiceEgressConfig`. -/
def ServiceEgressConfig.ser (c : ServiceEgressConfig) : Except String Value :=
  (serializeStruct [("loadbalancer", required (serde.loadbalancer.ser c.loadbalancer))]).map .table

/-- `BTreeMap::serialize`: one entry a service, in name order. -/
def serServices (services : Std.ExtTreeMap String ServiceEgressConfig) : Except String Value :=
  (serializeStruct (services.toList.map fun entry => (entry.1, required (entry.2.ser serde)))).map .table

/-- The fields `RuntimeConfig` serialises, in declaration order. -/
def RuntimeConfig.fields (c : RuntimeConfig) : List (String × Except String (Option Value)) :=
  [("service_name", required (serString c.serviceName)),
    ("http_bind", required (serString c.httpBind)),
    ("grpc_bind", required (serString c.grpcBind)),
    ("shutdown_timeout_secs", required (serU64 c.shutdownTimeoutSecs)),
    ("systemd_notify", required (serBool c.systemdNotify)),
    ("tenant_id", optional serString c.tenantId),
    ("http_tls", optional serde.pemTls.ser c.httpTls),
    ("grpc_tls", optional serde.pemTls.ser c.grpcTls),
    ("http_auth", optional serde.jwt.ser c.httpAuth),
    ("grpc_allow_unauthenticated", required (serBool c.grpcAllowUnauthenticated)),
    ("egress_http", optional serde.http.ser c.egressHttp),
    ("egress_grpc", optional serde.grpcChannel.ser c.egressGrpc),
    ("services", required (serServices serde c.services)),
    ("grpc_reflection", required (serBool c.grpcReflection)),
    ("metrics", optional MetricsConfig.ser c.metrics),
    ("metrics_backend", optional serde.metricsBackend.ser c.metricsBackend),
    ("tracer_backend", optional serde.tracerBackend.ser c.tracerBackend),
    ("log_backend", optional serde.logBackend.ser c.logBackend),
    ("autoscale", optional AutoscalePolicy.ser c.autoscale),
    ("observability", optional serde.observability.ser c.observability),
    ("deploy_dir", optional serString c.deployDir),
    ("intrusion", optional serde.intrusion.ser c.intrusion)]

/-- The derived `Serialize` of `RuntimeConfig`, as the table `toml` prints. -/
def RuntimeConfig.serialize (c : RuntimeConfig) : Except String Table :=
  serializeStruct (c.fields serde)

/-- A metrics section comes back as it was written. -/
theorem MetricsConfig.de_ser (c : MetricsConfig) (v : Value) (written : c.ser = .ok v) :
    MetricsConfig.de serde v = .ok c := by
  obtain ⟨t, ran, rfl⟩ := table_of_serialized written
  have held {key entry} (member : (key, entry) ∈ c.fields) : entry = .ok (t.lookup key) :=
    serializeStruct_lookup ran (show ["bind", "path"].Nodup by decide) member
  have bind : fieldOr (deString serde.mismatch) t "bind" "0.0.0.0:9090" = .ok c.bind :=
    fieldOr_of_required (deString_serString serde.mismatch) (held (by simp [fields]))
  have path : fieldOr (deString serde.mismatch) t "path" "/metrics" = .ok c.path :=
    fieldOr_of_required (deString_serString serde.mismatch) (held (by simp [fields]))
  simp [de, bind, path, Bind.bind, Except.bind, pure, Except.pure]

/-- An autoscale section comes back as it was written. -/
theorem AutoscalePolicy.de_ser (c : AutoscalePolicy) (v : Value) (written : c.ser = .ok v) :
    AutoscalePolicy.de serde v = .ok c := by
  obtain ⟨t, ran, rfl⟩ := table_of_serialized written
  have held {key entry} (member : (key, entry) ∈ c.fields) : entry = .ok (t.lookup key) :=
    serializeStruct_lookup ran
      (show ["requests_active_max", "requests_per_sec_max", "latency_p99_ms_max"].Nodup by decide)
      member
  have active : fieldOr (deU64 serde.mismatch) t "requests_active_max" 500 =
      .ok c.requestsActiveMax :=
    fieldOr_of_required (deU64_serU64 serde.mismatch) (held (by simp [fields]))
  have rate : fieldOr (deU64 serde.mismatch) t "requests_per_sec_max" 1000 =
      .ok c.requestsPerSecMax :=
    fieldOr_of_required (deU64_serU64 serde.mismatch) (held (by simp [fields]))
  have latency : fieldOr (deF64 serde.mismatch serde.floatOfInt) t "latency_p99_ms_max"
      latencyDefault = .ok c.latencyP99MsMax :=
    fieldOr_of_required (deF64_serF64 serde.mismatch serde.floatOfInt) (held (by simp [fields]))
  simp [de, active, rate, latency, Bind.bind, Except.bind, pure, Except.pure]

end EdgeBootstrap
