import EdgeBootstrap.Config.Reading
import EdgeBootstrap.Config.RoundTrip
import EdgeBootstrap.Library.Overlays

/-! Layer precedence, key by key. What a layer sets a key to is read from its
own document, independently of the overlay the loader builds from it; a
successful load then has at every key the value of the highest layer that sets
it. -/
namespace EdgeBootstrap
open Toml Overlays

/-- The keys `ConfigOverride` declares. -/
inductive ConfigKey
  | serviceName | httpBind | grpcBind | shutdownTimeoutSecs | systemdNotify | tenantId
  | httpTls | grpcTls | httpAuth | grpcAllowUnauthenticated | egressHttp | egressGrpc
  | grpcReflection | metrics | autoscale | observability
  deriving DecidableEq, Repr

/-- A key as a document spells it. -/
def ConfigKey.name : ConfigKey → String
  | serviceName => "service_name"
  | httpBind => "http_bind"
  | grpcBind => "grpc_bind"
  | shutdownTimeoutSecs => "shutdown_timeout_secs"
  | systemdNotify => "systemd_notify"
  | tenantId => "tenant_id"
  | httpTls => "http_tls"
  | grpcTls => "grpc_tls"
  | httpAuth => "http_auth"
  | grpcAllowUnauthenticated => "grpc_allow_unauthenticated"
  | egressHttp => "egress_http"
  | egressGrpc => "egress_grpc"
  | grpcReflection => "grpc_reflection"
  | metrics => "metrics"
  | autoscale => "autoscale"
  | observability => "observability"

/-- The environment variable that governs a key, if one does. -/
def ConfigKey.variable : ConfigKey → Option String
  | serviceName => some "SWE_EDGE_SERVICE_NAME"
  | httpBind => some "SWE_EDGE_HTTP_BIND"
  | grpcBind => some "SWE_EDGE_GRPC_BIND"
  | shutdownTimeoutSecs => some "SWE_EDGE_SHUTDOWN_TIMEOUT"
  | systemdNotify => some "SWE_EDGE_SYSTEMD_NOTIFY"
  | tenantId => some "SWE_EDGE_TENANT_ID"
  | _ => none

/-- What a table sets through the value under a key, when that can be read. -/
def Toml.setUnder {V : Type} (read : Value → Except String (Option V)) (t : Table) (key : String) :
    Option V :=
  match t.lookup key with
  | none => none
  | some v =>
    match read v with
    | .ok set => set
    | .error _ => none

/-- A field of a document that could be read, after what is made of its value. -/
theorem Toml.setUnder_of_field {T V : Type} {de : Value → Except String T} {t : Table}
    {key : String} {x : Option T} (held : field de t key = .ok x) (g : T → Option V) :
    setUnder (fun v => (de v).map g) t key = x.bind g := by
  unfold field at held
  unfold setUnder
  cases present : t.lookup key with
  | none =>
    rw [present] at held
    cases held
    rfl
  | some v =>
    simp only [present] at held
    cases value : de v with
    | error e =>
      rw [value] at held
      cases held
    | ok y =>
      rw [value] at held
      cases held
      simp [Except.map, value]

section
variable [Platform]

namespace ConfigKey

/-- What a configuration holds at the key. -/
def Value : ConfigKey → Type
  | serviceName | httpBind | grpcBind => String
  | shutdownTimeoutSecs => UInt64
  | systemdNotify | grpcAllowUnauthenticated | grpcReflection => Bool
  | tenantId => Option String
  | httpTls | grpcTls => Option Platform.PemTlsConfig
  | httpAuth => Option Platform.JwtConfig
  | egressHttp => Option Platform.HttpConfig
  | egressGrpc => Option Platform.GrpcChannelConfig
  | metrics => Option MetricsConfig
  | autoscale => Option AutoscalePolicy
  | observability => Option Platform.ObservabilityConfig

def get (cfg : RuntimeConfig) : (k : ConfigKey) → k.Value
  | serviceName => cfg.serviceName
  | httpBind => cfg.httpBind
  | grpcBind => cfg.grpcBind
  | shutdownTimeoutSecs => cfg.shutdownTimeoutSecs
  | systemdNotify => cfg.systemdNotify
  | tenantId => cfg.tenantId
  | httpTls => cfg.httpTls
  | grpcTls => cfg.grpcTls
  | httpAuth => cfg.httpAuth
  | grpcAllowUnauthenticated => cfg.grpcAllowUnauthenticated
  | egressHttp => cfg.egressHttp
  | egressGrpc => cfg.egressGrpc
  | grpcReflection => cfg.grpcReflection
  | metrics => cfg.metrics
  | autoscale => cfg.autoscale
  | observability => cfg.observability

/-- A tenant id a file gives: the empty one counts as not given. -/
def named (id : String) : Option (Option String) := if id = "" then none else some (some id)

/-- What a document that holds this value under the key sets the key to. -/
def ofDocument (serde : Serde) : (k : ConfigKey) → Toml.Value → Except String (Option k.Value)
  | serviceName, v | httpBind, v | grpcBind, v => (deString serde.mismatch v).map some
  | shutdownTimeoutSecs, v => (deU64 serde.mismatch v).map some
  | systemdNotify, v | grpcAllowUnauthenticated, v | grpcReflection, v =>
    (deBool serde.mismatch v).map some
  | tenantId, v => (deString serde.mismatch v).map named
  | httpTls, v | grpcTls, v => (serde.pemTls.de v).map fun c => some (some c)
  | httpAuth, v => (serde.jwt.de v).map fun c => some (some c)
  | egressHttp, v => (serde.http.de v).map fun c => some (some c)
  | egressGrpc, v => (serde.grpcChannel.de v).map fun c => some (some c)
  | metrics, v => (MetricsConfig.de serde v).map fun c => some (some c)
  | autoscale, v => (AutoscalePolicy.de serde v).map fun c => some (some c)
  | observability, v => (serde.observability.de v).map fun c => some (some c)

/-- What a variable with this text sets the key to. -/
def ofVariable : (k : ConfigKey) → String → Option k.Value
  | serviceName, v | httpBind, v | grpcBind, v => some v
  | shutdownTimeoutSecs, v => Rust.parseU64 v
  | systemdNotify, v => some (["1", "true", "yes"].contains v.toLower)
  | tenantId, v => some (some v)
  | _, _ => none

/-- What a document sets the key to, if it does. -/
def setBy (serde : Serde) (k : ConfigKey) (t : Table) : Option k.Value :=
  setUnder (k.ofDocument serde) t k.name

/-- What the file at a path sets the key to, if there is one and it does. -/
def setAt (deps : LoaderDeps) (env : Env) (k : ConfigKey) (path : String) : Option k.Value :=
  match env.files path with
  | .file _ (.ok text) =>
    match deps.toml.parse text with
    | .ok t => k.setBy deps.serde t
    | .error _ => none
  | _ => none

/-- What an overlay sets the key to. -/
def setIn (o : ConfigOverride) : (k : ConfigKey) → Option k.Value
  | serviceName => o.serviceName
  | httpBind => o.httpBind
  | grpcBind => o.grpcBind
  | shutdownTimeoutSecs => o.shutdownTimeoutSecs
  | systemdNotify => o.systemdNotify
  | tenantId => o.tenantId.bind named
  | httpTls => o.httpTls.map some
  | grpcTls => o.grpcTls.map some
  | httpAuth => o.httpAuth.map some
  | grpcAllowUnauthenticated => o.grpcAllowUnauthenticated
  | egressHttp => o.egressHttp.map some
  | egressGrpc => o.egressGrpc.map some
  | grpcReflection => o.grpcReflection
  | metrics => o.metrics.map some
  | autoscale => o.autoscale.map some
  | observability => o.observability.map some

end ConfigKey

namespace ConfigKey
variable {deps : LoaderDeps} {env env' : Env} {serde : Serde} {t : Table} {o : ConfigOverride}

/-- The overlay read from a document has at each field what the document has
under that field's own name. -/
theorem fields_of_deserialize (read : ConfigOverride.deserialize serde t = .ok o) :
    field (deString serde.mismatch) t "service_name" = .ok o.serviceName ∧
    field (deString serde.mismatch) t "http_bind" = .ok o.httpBind ∧
    field (deString serde.mismatch) t "grpc_bind" = .ok o.grpcBind ∧
    field (deU64 serde.mismatch) t "shutdown_timeout_secs" = .ok o.shutdownTimeoutSecs ∧
    field (deBool serde.mismatch) t "systemd_notify" = .ok o.systemdNotify ∧
    field (deString serde.mismatch) t "tenant_id" = .ok o.tenantId ∧
    field serde.pemTls.de t "http_tls" = .ok o.httpTls ∧
    field serde.pemTls.de t "grpc_tls" = .ok o.grpcTls ∧
    field serde.jwt.de t "http_auth" = .ok o.httpAuth ∧
    field (deBool serde.mismatch) t "grpc_allow_unauthenticated" =
      .ok o.grpcAllowUnauthenticated ∧
    field serde.http.de t "egress_http" = .ok o.egressHttp ∧
    field serde.grpcChannel.de t "egress_grpc" = .ok o.egressGrpc ∧
    field (deBool serde.mismatch) t "grpc_reflection" = .ok o.grpcReflection ∧
    field (MetricsConfig.de serde) t "metrics" = .ok o.metrics ∧
    field (AutoscalePolicy.de serde) t "autoscale" = .ok o.autoscale ∧
    field serde.observability.de t "observability" = .ok o.observability := by
  simp only [ConfigOverride.deserialize, Except.bind_eq_ok] at read
  obtain ⟨_, h1, _, h2, _, h3, _, h4, _, h5, _, h6, _, h7, _, h8, _, h9, _, h10, _, h11, _, h12,
    _, h13, _, h14, _, h15, _, h16, returned⟩ := read
  cases returned
  exact ⟨h1, h2, h3, h4, h5, h6, h7, h8, h9, h10, h11, h12, h13, h14, h15, h16⟩

/-- A document sets a key to what the overlay read from it does. -/
theorem setBy_eq_setIn (read : ConfigOverride.deserialize serde t = .ok o) (k : ConfigKey) :
    k.setBy serde t = k.setIn o := by
  obtain ⟨serviceName, httpBind, grpcBind, timeout, notify, tenant, httpTls, grpcTls, httpAuth,
    unauthenticated, egressHttp, egressGrpc, reflection, metrics, autoscale, observability⟩ :=
    fields_of_deserialize read
  have plain {T : Type} {de : Toml.Value → Except String T} {key : String} {x : Option T}
      (held : field de t key = .ok x) : setUnder (fun v => (de v).map some) t key = x := by
    rw [setUnder_of_field held]
    cases x <;> rfl
  have wrapped {T : Type} {de : Toml.Value → Except String T} {key : String} {x : Option T}
      (held : field de t key = .ok x) :
      setUnder (fun v => (de v).map fun c => some (some c)) t key = x.map some := by
    rw [setUnder_of_field held, Option.map_eq_bind]
    rfl
  cases k with
  | serviceName => exact plain serviceName
  | httpBind => exact plain httpBind
  | grpcBind => exact plain grpcBind
  | shutdownTimeoutSecs => exact plain timeout
  | systemdNotify => exact plain notify
  | tenantId => exact setUnder_of_field tenant named
  | httpTls => exact wrapped httpTls
  | grpcTls => exact wrapped grpcTls
  | httpAuth => exact wrapped httpAuth
  | grpcAllowUnauthenticated => exact plain unauthenticated
  | egressHttp => exact wrapped egressHttp
  | egressGrpc => exact wrapped egressGrpc
  | grpcReflection => exact plain reflection
  | metrics => exact wrapped metrics
  | autoscale => exact wrapped autoscale
  | observability => exact wrapped observability

/-- Applying an overlay changes each key to what the overlay sets it to, and no
other key has a part in it. -/
theorem get_applyTo (o : ConfigOverride) (base : RuntimeConfig) (k : ConfigKey) :
    k.get (o.applyTo base) = (k.setIn o).getD (k.get base) := by
  have optional {T : Type} (x y : Option T) : x.or y = (x.map some).getD y := by
    cases x <;> rfl
  cases k with
  | tenantId =>
    change (o.applyTo base).tenantId = (o.tenantId.bind named).getD base.tenantId
    cases given : o.tenantId with
    | none => simp [ConfigOverride.applyTo, given]
    | some id => by_cases empty : id = "" <;> simp [named, ConfigOverride.applyTo, given, empty]
  | httpTls => exact optional o.httpTls base.httpTls
  | grpcTls => exact optional o.grpcTls base.grpcTls
  | httpAuth => exact optional o.httpAuth base.httpAuth
  | egressHttp => exact optional o.egressHttp base.egressHttp
  | egressGrpc => exact optional o.egressGrpc base.egressGrpc
  | metrics => exact optional o.metrics base.metrics
  | autoscale => exact optional o.autoscale base.autoscale
  | observability => exact optional o.observability base.observability
  | _ => rfl

end ConfigKey

namespace ApplicationConfigLoader
open ConfigKey
variable {deps : LoaderDeps} {env : Env} {loader : ApplicationConfigLoader} {cfg cfg' : RuntimeConfig}

/-- A path that leads to nothing sets no key. -/
theorem setAt_of_absent {path : String} (absent : (env.files path).pathExists = false)
    (k : ConfigKey) : k.setAt deps env path = none := by
  unfold setAt
  cases there : env.files path with
  | file len text => simp [there, FileState.pathExists, FileState.metadata] at absent
  | _ => rfl

/-- A file that was applied changed each key to what it sets it to. -/
theorem get_applyFileIfExists {path : String}
    (applied : applyFileIfExists deps env cfg path = .ok cfg') (k : ConfigKey) :
    k.get cfg' = (k.setAt deps env path).getD (k.get cfg) := by
  rw [applyFileIfExists_eq] at applied
  obtain ⟨taken, took, rfl⟩ := Except.map_eq_ok.mp applied
  have document := document_of_takeFile took
  cases taken with
  | none =>
    have unbroken := not_broken_of_takeFile took
    rw [setAt_of_absent ((FileState.document_eq_none_iff unbroken).mp document.symm)]
    rfl
  | some o =>
    obtain ⟨len, text, there, _, read⟩ := FileState.document_eq_some_iff.mp document.symm
    obtain ⟨t, parsed, deserialized⟩ := readOverride_eq_ok.mp read
    have set : k.setAt deps env path = k.setIn o := by
      simp only [setAt, there, parsed, setBy_eq_setIn deserialized]
    rw [set]
    exact get_applyTo o cfg k

omit [Platform] in
theorem tenantPath_eq (env : Env) (loader : ApplicationConfigLoader) (id : String) :
    loader.tenantPath env id = loader.configDirs.reverse.findSome? fun dir =>
      if (env.files (tenantFile id dir)).pathExists then some (tenantFile id dir) else none := rfl

/-- The base layers leave each key as the last directory that sets it. -/
theorem get_base (based : loader.base deps env = .ok cfg) (k : ConfigKey) :
    k.get cfg =
      (lastSet (fun dir => k.setAt deps env (applicationFile dir)) loader.configDirs).getD
        (k.get .default) :=
  get_foldlM k.get (fun _ _ _ applied => get_applyFileIfExists applied k) based

/-- What the environment makes of a configuration, with the timeout that was
parsed. -/
private theorem eq_of_applyEnv (applied : applyEnv env cfg = .ok cfg') :
    (match env.var "SWE_EDGE_SHUTDOWN_TIMEOUT" with
      | some v => parseShutdownTimeout v
      | none => .ok cfg.shutdownTimeoutSecs) = .ok cfg'.shutdownTimeoutSecs ∧
    cfg' = { cfg with
      serviceName := (env.var "SWE_EDGE_SERVICE_NAME").getD cfg.serviceName
      httpBind := (env.var "SWE_EDGE_HTTP_BIND").getD cfg.httpBind
      grpcBind := (env.var "SWE_EDGE_GRPC_BIND").getD cfg.grpcBind
      shutdownTimeoutSecs := cfg'.shutdownTimeoutSecs
      systemdNotify := match env.var "SWE_EDGE_SYSTEMD_NOTIFY" with
        | some v => ["1", "true", "yes"].contains v.toLower
        | none => cfg.systemdNotify
      tenantId := (env.var "SWE_EDGE_TENANT_ID").or cfg.tenantId } := by
  unfold applyEnv at applied
  cases given : env.var "SWE_EDGE_SHUTDOWN_TIMEOUT" with
  | none =>
    rw [given] at applied
    cases applied
    exact ⟨rfl, rfl⟩
  | some v =>
    rw [given] at applied
    obtain ⟨secs, parsed, returned⟩ := Except.bind_eq_ok.mp applied
    cases returned
    exact ⟨parsed, rfl⟩

/-- The one variable that is parsed decides whether the environment can be
applied. -/
private theorem timeout_of_applyEnv (applied : applyEnv env cfg = .ok cfg') :
    match env.var "SWE_EDGE_SHUTDOWN_TIMEOUT" with
    | some v => Rust.parseU64 v = some cfg'.shutdownTimeoutSecs
    | none => cfg'.shutdownTimeoutSecs = cfg.shutdownTimeoutSecs := by
  have parsed := (eq_of_applyEnv applied).1
  cases given : env.var "SWE_EDGE_SHUTDOWN_TIMEOUT" with
  | none =>
    rw [given] at parsed
    exact (Except.ok.inj parsed).symm
  | some v =>
    simp only [given, parseShutdownTimeout] at parsed ⊢
    cases read : Rust.parseU64 v with
    | none =>
      rw [read] at parsed
      cases parsed
    | some n =>
      rw [read] at parsed
      rw [Except.ok.inj parsed]

/-- The environment replaces a key it governs, with what its variable says, and
keeps every other. -/
theorem get_applyEnv (applied : applyEnv env cfg = .ok cfg') (k : ConfigKey) :
    match k.variable.bind env.var with
    | some v => k.ofVariable v = some (k.get cfg')
    | none => k.get cfg' = k.get cfg := by
  have text (name : String) (held : String) :
      match env.var name with
      | some v => some v = some ((env.var name).getD held)
      | none => (env.var name).getD held = held := by
    cases env.var name <;> rfl
  have flag (name : String) (reads : String → Bool) (held : Bool) :
      match env.var name with
      | some v => some (reads v) = some (match env.var name with
        | some v => reads v
        | none => held)
      | none => (match env.var name with
        | some v => reads v
        | none => held) = held := by
    cases env.var name <;> rfl
  have label (name : String) (held : Option String) :
      match env.var name with
      | some v => some (some v) = some ((env.var name).or held)
      | none => (env.var name).or held = held := by
    cases env.var name <;> rfl
  have timeout := timeout_of_applyEnv applied
  rw [(eq_of_applyEnv applied).2]
  cases k with
  | serviceName => exact text "SWE_EDGE_SERVICE_NAME" cfg.serviceName
  | httpBind => exact text "SWE_EDGE_HTTP_BIND" cfg.httpBind
  | grpcBind => exact text "SWE_EDGE_GRPC_BIND" cfg.grpcBind
  | shutdownTimeoutSecs => exact timeout
  | systemdNotify =>
    exact flag "SWE_EDGE_SYSTEMD_NOTIFY" (fun v => ["1", "true", "yes"].contains v.toLower)
      cfg.systemdNotify
  | tenantId => exact label "SWE_EDGE_TENANT_ID" cfg.tenantId
  | _ => rfl

/-- The stages a load for a tenant went through when it succeeded. -/
theorem stages_of_loadForTenant {id : String} (loaded : loader.loadForTenant deps env id = .ok cfg) :
    ∃ based path applied enved, validateTenantId id = .ok () ∧ loader.base deps env = .ok based ∧
      loader.tenantPath env id = some path ∧
      applyFileIfExists deps env based path = .ok applied ∧ applyEnv env applied = .ok enved ∧
      cfg = { enved with tenantId := enved.tenantId.or (some id) } := by
  unfold loadForTenant at loaded
  cases selected : loader.tenantPath env id with
  | none =>
    simp only [selected, Except.bind_eq_ok] at loaded
    obtain ⟨_, _, _, _, _, absent, _⟩ := loaded
    cases absent
  | some path =>
    simp only [selected, Except.bind_eq_ok] at loaded
    obtain ⟨_, valid, based, base, _, same, applied, file, enved, environment, returned⟩ := loaded
    cases same
    cases returned
    exact ⟨based, path, applied, enved, valid, base, rfl, file, environment, rfl⟩

end ApplicationConfigLoader

namespace ConfigKey
open ApplicationConfigLoader
variable (deps : LoaderDeps) (env : Env) (loader : ApplicationConfigLoader)

/-- What the files set a key to: the tenant's file, else the last directory
whose `application.toml` does. -/
def fromFiles (tenantFile : Option String) (k : ConfigKey) : Option k.Value :=
  (tenantFile.bind (k.setAt deps env)).or
    (lastSet (fun dir => k.setAt deps env (applicationFile dir)) loader.configDirs)

/-- The value the layers give a key: the environment's, else the files', else
that of the fallback. -/
def Precedence (tenantFile : Option String) (fallback : RuntimeConfig) (k : ConfigKey)
    (x : k.Value) : Prop :=
  match k.variable.bind env.var with
  | some v => k.ofVariable v = some x
  | none => x = (k.fromFiles deps env loader tenantFile).getD (k.get fallback)

/-- Two environments say the same about a key, whatever they say about others. -/
def SameSources (k : ConfigKey) (env env' : Env) : Prop :=
  k.variable.bind env.var = k.variable.bind env'.var ∧
    ∀ path, k.setAt deps env path = k.setAt deps env' path

variable {deps env loader} {env' : Env} {k : ConfigKey}

/-- The layers give a key one value, which its own sources determine. -/
theorem Precedence.unique (same : k.SameSources deps env env') {tenantFile : Option String}
    {fallback : RuntimeConfig} {x y : k.Value}
    (here : k.Precedence deps env loader tenantFile fallback x)
    (there : k.Precedence deps env' loader tenantFile fallback y) : x = y := by
  have files : k.fromFiles deps env loader tenantFile = k.fromFiles deps env' loader tenantFile := by
    have set : k.setAt deps env = k.setAt deps env' := funext same.2
    rw [fromFiles, fromFiles, set]
  unfold Precedence at here there
  rw [← same.1] at there
  cases governed : k.variable.bind env.var with
  | some v =>
    simp only [governed] at here there
    exact Option.some.inj (here.symm.trans there)
  | none =>
    simp only [governed] at here there
    rw [here, there, files]

/-- A file sets the tenant id to a name that is not empty, if at all. -/
theorem named_of_setAt {path : String} {x : Option String}
    (set : setAt deps env .tenantId path = some x) : ∃ id, id ≠ "" ∧ x = some id := by
  have given (v : Toml.Value) (held : ofDocument deps.serde .tenantId v = .ok (some x)) :
      ∃ id, id ≠ "" ∧ x = some id := by
    cases read : deString deps.serde.mismatch v with
    | error e =>
      simp only [ofDocument, read] at held
      cases held
    | ok id =>
      simp only [ofDocument, read] at held
      have given : named id = some x := Except.ok.inj held
      by_cases empty : id = ""
      · simp [named, empty] at given
      · have same : some id = x := by simpa [named, empty] using given
        exact ⟨id, empty, same.symm⟩
  unfold setAt setBy setUnder at set
  split at set
  · split at set
    · split at set
      · cases set
      · split at set
        · rename_i read
          subst set
          exact given _ read
        · cases set
    · cases set
  · cases set

theorem named_of_fromFiles {tenantFile : Option String} {x : Option String}
    (set : fromFiles deps env loader tenantFile .tenantId = some x) :
    ∃ id, id ≠ "" ∧ x = some id := by
  rcases Option.or_eq_some_iff.mp set with tenant | ⟨_, directories⟩
  · obtain ⟨path, _, file⟩ := Option.bind_eq_some_iff.mp tenant
    exact named_of_setAt file
  · obtain ⟨_, dir, _, _, file, _⟩ := (lastSet_eq_some_iff _ _).mp directories
    exact named_of_setAt file

end ConfigKey

namespace ApplicationConfigLoader
open ConfigKey
variable {deps : LoaderDeps} {env : Env} {loader : ApplicationConfigLoader} {cfg : RuntimeConfig}

theorem load_follows_precedence (loaded : loader.load deps env = .ok cfg) (k : ConfigKey) :
    k.Precedence deps env loader none .default (k.get cfg) := by
  obtain ⟨based, base, environment⟩ := Except.bind_eq_ok.mp loaded
  have governed := get_applyEnv environment k
  unfold Precedence
  cases named : k.variable.bind env.var with
  | some v => simpa only [named] using governed
  | none =>
    simp only [named] at governed ⊢
    rw [governed, get_base base k]
    rfl

theorem loadForTenant_follows_precedence {id : String}
    (loaded : loader.loadForTenant deps env id = .ok cfg) (k : ConfigKey) :
    k.Precedence deps env loader (loader.tenantPath env id)
      { RuntimeConfig.default with tenantId := some id } (k.get cfg) := by
  obtain ⟨based, path, applied, enved, _, base, selected, file, environment, rfl⟩ :=
    stages_of_loadForTenant loaded
  have governed := get_applyEnv environment k
  have files : k.get applied =
      (k.fromFiles deps env loader (some path)).getD (k.get .default) := by
    rw [get_applyFileIfExists file k, get_base base k, fromFiles, Option.bind_some]
    cases k.setAt deps env path <;> rfl
  rw [selected]
  unfold Precedence
  cases named : k.variable.bind env.var with
  | some v =>
    simp only [named] at governed ⊢
    rw [governed]
    cases k with
    | tenantId =>
      have set : enved.tenantId = some v := (Option.some.inj governed).symm
      simp [ConfigKey.get, set]
    | _ => rfl
  | none =>
    simp only [named] at governed ⊢
    cases k with
    | tenantId =>
      change enved.tenantId = applied.tenantId at governed
      change applied.tenantId = _ at files
      change enved.tenantId.or (some id) = _
      rw [governed, files]
      cases set : fromFiles deps env loader (some path) .tenantId with
      | none => rfl
      | some x =>
        obtain ⟨name, _, rfl⟩ := named_of_fromFiles set
        rfl
    | _ => exact governed.trans files

/-- A successful load gives every key the value of the highest layer that sets
it: its variable, then the selected tenant file, then the last directory whose
`application.toml` does, then the default, or the tenant asked for where nothing
names one. Other keys have no part in it. -/
theorem load_precedence (deps : LoaderDeps) (env : Env) (loader : ApplicationConfigLoader) :
    (∀ cfg, loader.load deps env = .ok cfg → ∀ k : ConfigKey,
      k.Precedence deps env loader none .default (k.get cfg)) ∧
    (∀ id cfg, loader.loadForTenant deps env id = .ok cfg → ∀ k : ConfigKey,
      k.Precedence deps env loader (loader.tenantPath env id)
        { RuntimeConfig.default with tenantId := some id } (k.get cfg)) ∧
    (∀ env' (k : ConfigKey), k.SameSources deps env env' →
      (∀ cfg cfg', loader.load deps env = .ok cfg → loader.load deps env' = .ok cfg' →
        k.get cfg = k.get cfg') ∧
      (∀ id cfg cfg', loader.tenantPath env id = loader.tenantPath env' id →
        loader.loadForTenant deps env id = .ok cfg → loader.loadForTenant deps env' id = .ok cfg' →
        k.get cfg = k.get cfg')) := by
  refine ⟨fun cfg loaded k => load_follows_precedence loaded k,
    fun id cfg loaded k => loadForTenant_follows_precedence loaded k, ?_⟩
  intro env' k same
  constructor
  · intro cfg cfg' here there
    exact (load_follows_precedence here k).unique same (load_follows_precedence there k)
  · intro id cfg cfg' selected here there
    have second := loadForTenant_follows_precedence there k
    rw [← selected] at second
    exact (loadForTenant_follows_precedence here k).unique same second

end ApplicationConfigLoader

end

section Reference

attribute [local instance] Platform.reference

/-- A parser that knows these documents. -/
def LoaderDeps.parsing (documents : List (String × Table)) : LoaderDeps where
  serde := .reference
  toml := ⟨fun text =>
    match documents.lookup text with
    | some t => .ok t
    | none => .error "expected `=`"⟩

/-- An environment with these files and variables. -/
def Env.holding (files vars : List (String × String)) : Env where
  files p :=
    match files.lookup p with
    | some text => .file text.utf8ByteSize (.ok text)
    | none => .missing
  var name := vars.lookup name
  configDir := none

/-- Two documents, each with one key. -/
def serviceDocuments : List (String × Table) :=
  [("service_name = \"edge\"\n", [("service_name", .str "edge")]),
    ("http_bind = \"0.0.0.0:80\"\n", [("http_bind", .str "0.0.0.0:80")])]

/-- A chain whose lower directory names the service and whose higher one, for a
tenant only, binds it elsewhere. -/
def serviceEnv : Env := .holding
  [("system/application.toml", "service_name = \"edge\"\n"),
    ("user/tenants/acme.toml", "http_bind = \"0.0.0.0:80\"\n")]
  [("SWE_EDGE_GRPC_BIND", "0.0.0.0:90")]

/-- That chain in the order of its directories. -/
def serviceLoader : ApplicationConfigLoader := ⟨["system", "user"]⟩

theorem load_precedence_service :
    ConfigKey.serviceName.Precedence (.parsing serviceDocuments) serviceEnv serviceLoader
      (serviceLoader.tenantPath serviceEnv "acme")
      { RuntimeConfig.default with tenantId := some "acme" } "edge" ∧
    ConfigKey.grpcBind.Precedence (.parsing serviceDocuments) serviceEnv serviceLoader
      (serviceLoader.tenantPath serviceEnv "acme")
      { RuntimeConfig.default with tenantId := some "acme" } "0.0.0.0:90" := by
  have loaded : serviceLoader.loadForTenant (.parsing serviceDocuments) serviceEnv "acme" =
      .ok { RuntimeConfig.default with
        serviceName := "edge"
        httpBind := "0.0.0.0:80"
        grpcBind := "0.0.0.0:90"
        tenantId := some "acme" } := rfl
  have precedence := (ApplicationConfigLoader.load_precedence (.parsing serviceDocuments) serviceEnv
    serviceLoader).2.1 "acme" _ loaded
  exact ⟨precedence .serviceName, precedence .grpcBind⟩

end Reference

end EdgeBootstrap
