import EdgeBootstrap.Config.Loader

/-! Writing a configuration out and loading it again. The overlay a document of
`c` is read as carries the sixteen keys `ConfigOverride` declares; the six
`RuntimeConfig` declares beyond them stay at their defaults, whatever the
document says. -/
namespace EdgeBootstrap
open Toml

section
variable [Platform]

/-- The text reads as the table `c` serialises to. -/
def IsDocumentOf (deps : LoaderDeps) (s : String) (c : RuntimeConfig) : Prop :=
  ∃ t, c.serialize deps.serde = .ok t ∧ deps.toml.parse s = .ok t

/-- None of the sections is set that a `RuntimeConfig` has and a
`ConfigOverride` has not. -/
structure RuntimeConfig.OnlyOverlayKeys (c : RuntimeConfig) : Prop where
  services : c.services = ∅
  metricsBackend : c.metricsBackend = none
  tracerBackend : c.tracerBackend = none
  logBackend : c.logBackend = none
  deployDir : c.deployDir = none
  intrusion : c.intrusion = none

/-- What is left of `c` without the sections an overlay cannot carry. -/
def RuntimeConfig.overlayKeys (c : RuntimeConfig) : RuntimeConfig :=
  { c with
    services := ∅
    metricsBackend := none
    tracerBackend := none
    logBackend := none
    deployDir := none
    intrusion := none }

theorem RuntimeConfig.overlayKeys_eq_iff (c : RuntimeConfig) :
    c.overlayKeys = c ↔ c.OnlyOverlayKeys := by
  constructor
  · intro same
    rw [← same]
    exact ⟨rfl, rfl, rfl, rfl, rfl, rfl⟩
  · intro ⟨services, metrics, tracer, log, deploy, intrusion⟩
    cases c
    simp_all [RuntimeConfig.overlayKeys]

/-- The overlay with every key `c` gives it. -/
def ConfigOverride.ofConfig (c : RuntimeConfig) : ConfigOverride where
  serviceName := some c.serviceName
  httpBind := some c.httpBind
  grpcBind := some c.grpcBind
  shutdownTimeoutSecs := some c.shutdownTimeoutSecs
  systemdNotify := some c.systemdNotify
  tenantId := c.tenantId
  httpTls := c.httpTls
  grpcTls := c.grpcTls
  httpAuth := c.httpAuth
  grpcAllowUnauthenticated := some c.grpcAllowUnauthenticated
  egressHttp := c.egressHttp
  egressGrpc := c.egressGrpc
  grpcReflection := some c.grpcReflection
  metrics := c.metrics
  autoscale := c.autoscale
  observability := c.observability

/-- The keys of a serialised configuration, each once. -/
private theorem fields_distinct (serde : Serde) (c : RuntimeConfig) :
    ((c.fields serde).map Prod.fst).Nodup := by
  have keys : (c.fields serde).map Prod.fst =
      ["service_name", "http_bind", "grpc_bind", "shutdown_timeout_secs", "systemd_notify",
        "tenant_id", "http_tls", "grpc_tls", "http_auth", "grpc_allow_unauthenticated",
        "egress_http", "egress_grpc", "services", "grpc_reflection", "metrics", "metrics_backend",
        "tracer_backend", "log_backend", "autoscale", "observability", "deploy_dir",
        "intrusion"] := rfl
  rw [keys]
  decide

/-- The overlay read from a serialised configuration has each key as it was
written. -/
theorem ConfigOverride.deserialize_serialize {serde : Serde} {c : RuntimeConfig} {t : Table}
    (written : c.serialize serde = .ok t) : deserialize serde t = .ok (ofConfig c) := by
  have held {key entry} (member : (key, entry) ∈ c.fields serde) : entry = .ok (t.lookup key) :=
    serializeStruct_lookup written (fields_distinct serde c) member
  have string (key x) (member : (key, required (serString x)) ∈ c.fields serde) :
      field (deString serde.mismatch) t key = .ok (some x) :=
    field_of_required (deString_serString serde.mismatch) (held member)
  have flag (key x) (member : (key, required (serBool x)) ∈ c.fields serde) :
      field (deBool serde.mismatch) t key = .ok (some x) :=
    field_of_required (deBool_serBool serde.mismatch) (held member)
  have timeout : field (deU64 serde.mismatch) t "shutdown_timeout_secs" =
      .ok (some c.shutdownTimeoutSecs) :=
    field_of_required (deU64_serU64 serde.mismatch) (held (by simp [RuntimeConfig.fields]))
  have tenant : field (deString serde.mismatch) t "tenant_id" = .ok c.tenantId :=
    field_of_optional (deString_serString serde.mismatch) (held (by simp [RuntimeConfig.fields]))
  have foreign {T : Type} (codec : Codec T) (key) (x : Option T)
      (member : (key, optional codec.ser x) ∈ c.fields serde) : field codec.de t key = .ok x :=
    field_of_optional codec.de_ser (held member)
  have metrics : field (MetricsConfig.de serde) t "metrics" = .ok c.metrics :=
    field_of_optional (MetricsConfig.de_ser serde) (held (by simp [RuntimeConfig.fields]))
  have autoscale : field (AutoscalePolicy.de serde) t "autoscale" = .ok c.autoscale :=
    field_of_optional (AutoscalePolicy.de_ser serde) (held (by simp [RuntimeConfig.fields]))
  rw [deserialize,
    string "service_name" c.serviceName (by simp [RuntimeConfig.fields]),
    string "http_bind" c.httpBind (by simp [RuntimeConfig.fields]),
    string "grpc_bind" c.grpcBind (by simp [RuntimeConfig.fields]),
    timeout,
    flag "systemd_notify" c.systemdNotify (by simp [RuntimeConfig.fields]),
    tenant,
    foreign serde.pemTls "http_tls" c.httpTls (by simp [RuntimeConfig.fields]),
    foreign serde.pemTls "grpc_tls" c.grpcTls (by simp [RuntimeConfig.fields]),
    foreign serde.jwt "http_auth" c.httpAuth (by simp [RuntimeConfig.fields]),
    flag "grpc_allow_unauthenticated" c.grpcAllowUnauthenticated (by simp [RuntimeConfig.fields]),
    foreign serde.http "egress_http" c.egressHttp (by simp [RuntimeConfig.fields]),
    foreign serde.grpcChannel "egress_grpc" c.egressGrpc (by simp [RuntimeConfig.fields]),
    flag "grpc_reflection" c.grpcReflection (by simp [RuntimeConfig.fields]),
    metrics, autoscale,
    foreign serde.observability "observability" c.observability (by simp [RuntimeConfig.fields])]
  rfl

/-- Over the defaults, that overlay gives back the keys it carries. -/
theorem ConfigOverride.applyTo_ofConfig {c : RuntimeConfig} (named : c.tenantId ≠ some "") :
    (ofConfig c).applyTo .default = c.overlayKeys := by
  cases held : c.tenantId with
  | none => simp [applyTo, ofConfig, RuntimeConfig.overlayKeys, RuntimeConfig.default, held]
  | some v =>
    have filled : v ≠ "" := by
      rintro rfl
      exact named held
    simp [applyTo, ofConfig, RuntimeConfig.overlayKeys, RuntimeConfig.default, held, filled]

theorem ConfigOverride.fromStr_document {deps : LoaderDeps} {s : String} {c : RuntimeConfig}
    (document : IsDocumentOf deps s c) : fromStr deps.toml deps.serde s = .ok (ofConfig c) := by
  obtain ⟨t, written, parsed⟩ := document
  simp [fromStr, parsed, deserialize_serialize written]

namespace ApplicationConfigLoader

/-- Without `SWE_EDGE_*` variables the environment changes nothing. -/
theorem applyEnv_of_unset {env : Env}
    (unset : ∀ name : String, "SWE_EDGE_".toList <+: name.toList → env.var name = none)
    (cfg : RuntimeConfig) : applyEnv env cfg = .ok cfg := by
  have free (name : String) (own : "SWE_EDGE_".toList.isPrefixOf name.toList = true) :
      env.var name = none := unset name (List.isPrefixOf_iff_prefix.mp own)
  rw [applyEnv, free "SWE_EDGE_SHUTDOWN_TIMEOUT" (by decide), free "SWE_EDGE_SERVICE_NAME" (by decide),
    free "SWE_EDGE_HTTP_BIND" (by decide), free "SWE_EDGE_GRPC_BIND" (by decide),
    free "SWE_EDGE_SYSTEMD_NOTIFY" (by decide), free "SWE_EDGE_TENANT_ID" (by decide)]
  rfl

/-- A readable file is overlaid when it is no longer than the limit. -/
theorem applyFileIfExists_file {deps : LoaderDeps} {env : Env} {path : String} {len : Nat}
    {text : String} (held : env.files path = .file len (.ok text)) (cfg : RuntimeConfig) :
    applyFileIfExists deps env cfg path =
      if len > maxConfigFileBytes then .error (tooLarge path len)
      else (ConfigOverride.fromStr deps.toml deps.serde text).map (·.applyTo cfg) := by
  simp [applyFileIfExists, held, FileState.pathExists, FileState.metadata, FileState.readToString]

/-- What a load from one directory holding a document of `c` returns. -/
theorem load_document {deps : LoaderDeps} {env : Env} {loader : ApplicationConfigLoader}
    {dir s : String} {c : RuntimeConfig} (single : loader.configDirs = [dir])
    (held : env.files (Rust.joinPath dir "application.toml") = .file s.utf8ByteSize (.ok s))
    (document : IsDocumentOf deps s c) (named : c.tenantId ≠ some "")
    (unset : ∀ name : String, "SWE_EDGE_".toList <+: name.toList → env.var name = none) :
    loader.load deps env =
      if s.utf8ByteSize > maxConfigFileBytes then
        .error (tooLarge (Rust.joinPath dir "application.toml") s.utf8ByteSize)
      else .ok c.overlayKeys := by
  have base : loader.base deps env =
      if s.utf8ByteSize > maxConfigFileBytes then
        .error (tooLarge (Rust.joinPath dir "application.toml") s.utf8ByteSize)
      else .ok c.overlayKeys := by
    rw [ApplicationConfigLoader.base, single, List.foldlM_cons, applyFileIfExists_file held,
      ConfigOverride.fromStr_document document]
    split
    · rfl
    · simp [Except.map, ConfigOverride.applyTo_ofConfig named, bind, Except.bind, pure, Except.pure]
  rw [load, base]
  split
  · rfl
  · exact applyEnv_of_unset unset c.overlayKeys

/-- Loading a document of `c` gives `c` back exactly when the document is
within the size limit and sets no section an overlay cannot carry; reading it
and applying it to the defaults, exactly when the second holds. -/
theorem load_document_eq_iff (deps : LoaderDeps) (env : Env) (loader : ApplicationConfigLoader)
    (dir s : String) (c : RuntimeConfig) (single : loader.configDirs = [dir])
    (held : env.files (Rust.joinPath dir "application.toml") = .file s.utf8ByteSize (.ok s))
    (document : IsDocumentOf deps s c) (named : c.tenantId ≠ some "")
    (unset : ∀ name : String, "SWE_EDGE_".toList <+: name.toList → env.var name = none) :
    (loader.load deps env = .ok c ↔ s.utf8ByteSize ≤ maxConfigFileBytes ∧ c.OnlyOverlayKeys) ∧
      ((ConfigOverride.fromStr deps.toml deps.serde s).map (·.applyTo .default) = .ok c ↔
        c.OnlyOverlayKeys) := by
  constructor
  · rw [load_document single held document named unset, ← c.overlayKeys_eq_iff]
    split <;> rename_i size
    · simp [Nat.not_le.mpr size]
    · simp [Nat.not_lt.mp size]
  · rw [ConfigOverride.fromStr_document document, ← c.overlayKeys_eq_iff]
    simp [Except.map, ConfigOverride.applyTo_ofConfig named]

end ApplicationConfigLoader

end

section Reference

attribute [local instance] Platform.reference

/-- A codec that only ever meets one value. -/
def Toml.Codec.single {T : Type} [DecidableEq T] (x : T) : Codec T where
  ser y := if y = x then .ok (.table []) else .error "unsupported type"
  de _ := .ok x
  de_ser y v written := by
    split at written
    · rename_i same
      rw [same]
    · cases written

/-- Serde implementations for configurations without foreign sections. -/
def Serde.reference : Serde where
  pemTls := (.single () : Codec Unit)
  jwt := (.single () : Codec Unit)
  http := (.single () : Codec Unit)
  grpcChannel := (.single () : Codec Unit)
  loadbalancer := (.single () : Codec Unit)
  observability := (.single () : Codec Unit)
  intrusion := (.single () : Codec Unit)
  metricsBackend := .single {}
  tracerBackend := .single {}
  logBackend := .single {}
  mismatch := fun _ expected => expected
  floatOfInt := fun _ => ⟨0, by decide⟩

/-- A parser that knows one document. -/
def LoaderDeps.reading (s : String) (c : RuntimeConfig) : LoaderDeps where
  serde := .reference
  toml := ⟨fun text => if text = s then c.serialize .reference else .error "expected `=`"⟩

/-- An environment without variables and with one file. -/
def Env.single (path text : String) : Env where
  files p := if p = path then .file text.utf8ByteSize (.ok text) else .missing
  var _ := none
  configDir := none

/-- `RuntimeConfig::default()` as TOML. -/
def defaultDocument : String :=
  "service_name = \"swe-edge\"\nhttp_bind = \"0.0.0.0:8080\"\ngrpc_bind = \"0.0.0.0:50051\"\n" ++
  "shutdown_timeout_secs = 30\nsystemd_notify = false\ngrpc_allow_unauthenticated = false\n" ++
  "grpc_reflection = false\n\n[services]\n"

/-- The defaults but for a deployment directory. -/
def deployConfig : RuntimeConfig := { deployDir := some "deploy" }

def deployDocument : String :=
  "service_name = \"swe-edge\"\nhttp_bind = \"0.0.0.0:8080\"\ngrpc_bind = \"0.0.0.0:50051\"\n" ++
  "shutdown_timeout_secs = 30\nsystemd_notify = false\ngrpc_allow_unauthenticated = false\n" ++
  "grpc_reflection = false\ndeploy_dir = \"deploy\"\n\n[services]\n"

private theorem reading_document {c : RuntimeConfig} {t : Table}
    (written : c.serialize .reference = .ok t) (s : String) : IsDocumentOf (.reading s c) s c :=
  ⟨t, written, by simp [LoaderDeps.reading, written]⟩

private theorem single_files (text : String) :
    (Env.single "config/application.toml" text).files
      (Rust.joinPath "config" "application.toml") = .file text.utf8ByteSize (.ok text) := by
  have path : Rust.joinPath "config" "application.toml" = "config/application.toml" := by decide
  simp [path, Env.single]

theorem load_document_eq_iff_default :
    ((ApplicationConfigLoader.withDir "config").load (.reading defaultDocument .default)
        (.single "config/application.toml" defaultDocument) = .ok .default ↔
      defaultDocument.utf8ByteSize ≤ maxConfigFileBytes ∧ RuntimeConfig.default.OnlyOverlayKeys) ∧
    ((ConfigOverride.fromStr (LoaderDeps.reading defaultDocument .default).toml .reference
        defaultDocument).map (·.applyTo .default) = .ok .default ↔
      RuntimeConfig.default.OnlyOverlayKeys) :=
  ApplicationConfigLoader.load_document_eq_iff (.reading defaultDocument .default)
    (.single "config/application.toml" defaultDocument) (.withDir "config") "config"
    defaultDocument .default rfl (single_files defaultDocument)
    (reading_document rfl defaultDocument) nofun (fun _ _ => rfl)

/-- A deployment directory in the file does not reach the loaded configuration. -/
theorem deploy_dir_dropped :
    IsDocumentOf (.reading deployDocument deployConfig) deployDocument deployConfig ∧
    (Env.single "config/application.toml" deployDocument).files
      (Rust.joinPath "config" "application.toml") =
        .file deployDocument.utf8ByteSize (.ok deployDocument) ∧
    (ApplicationConfigLoader.withDir "config").load (.reading deployDocument deployConfig)
        (.single "config/application.toml" deployDocument) ≠ .ok deployConfig := by
  have document := reading_document (c := deployConfig) rfl deployDocument
  refine ⟨document, single_files deployDocument, fun same => ?_⟩
  have loaded : (ApplicationConfigLoader.withDir "config").load
      (.reading deployDocument deployConfig) (.single "config/application.toml" deployDocument) =
        if deployDocument.utf8ByteSize > maxConfigFileBytes then _ else .ok deployConfig.overlayKeys :=
    ApplicationConfigLoader.load_document rfl (single_files deployDocument) document nofun
      (fun _ _ => rfl)
  rw [if_neg (by decide +kernel), same] at loaded
  have dropped : some "deploy" = none := congrArg RuntimeConfig.deployDir (Except.ok.inj loaded)
  cases dropped

end Reference

end EdgeBootstrap
