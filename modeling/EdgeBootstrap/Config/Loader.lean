import EdgeBootstrap.Rust.Text
import EdgeBootstrap.Config.ConfigOverride

/-! `ApplicationConfigLoader`: the layered chain of configuration files under
the environment variables. The file system and the environment are functions
of a path and of a name, so a load is a function of both. -/
namespace EdgeBootstrap
open Toml

variable [Platform]

/-- What a path leads to. Metadata may fail although something is there, and a
file whose length is known may still not be readable as text. -/
inductive FileState
  | missing
  | notExaminable (e : String)
  | file (len : Nat) (text : Except String String)

namespace FileState

/-- `std::fs::metadata`, as far as its length. -/
def metadata : FileState → Except String Nat
  | missing => .error "No such file or directory (os error 2)"
  | notExaminable e => .error e
  | file len _ => .ok len

/-- `Path::exists`: false whenever metadata fails, whatever the reason. -/
def pathExists (f : FileState) : Bool :=
  match f.metadata with
  | .ok _ => true
  | .error _ => false

/-- `std::fs::read_to_string`. -/
def readToString : FileState → Except String String
  | missing => .error "No such file or directory (os error 2)"
  | notExaminable e => .error e
  | file _ text => text

end FileState

/-- The process environment a load reads: files, variables, and the user's
configuration directory as the `dirs` crate finds it. -/
structure Env where
  files : String → FileState
  var : String → Option String
  configDir : Option String

def maxConfigFileBytes : Nat := 1048576

/-- What the loader takes from the crates it is built on. -/
structure LoaderDeps where
  toml : Toml.Crate
  serde : Serde

structure ApplicationConfigLoader where
  configDirs : List String

namespace ApplicationConfigLoader

def new (env : Env) : ApplicationConfigLoader := ⟨[(env.var "SWE_EDGE_CONFIG_DIR").getD "config"]⟩

def withDir (dir : String) : ApplicationConfigLoader := ⟨[dir]⟩

def xdg (env : Env) (appName : String) : ApplicationConfigLoader :=
  let system := ((Rust.split ':' ((env.var "XDG_CONFIG_DIRS").getD "/etc/xdg")).reverse.filter (· ≠ "")).map
    (Rust.joinPath · appName)
  let home := env.configDir.toList.map (Rust.joinPath · appName)
  let explicit := (env.var "SWE_EDGE_CONFIG_DIR").toList
  ⟨system ++ home ++ explicit⟩

variable (deps : LoaderDeps) (env : Env) (loader : ApplicationConfigLoader)

/-- The error for a file over the limit. -/
def tooLarge (path : String) (len : Nat) : ConfigError :=
  .io s!"{path}: config file exceeds the 1 MiB limit ({len} bytes)"

def applyFileIfExists (cfg : RuntimeConfig) (path : String) : Except ConfigError RuntimeConfig :=
  if (env.files path).pathExists then
    match (env.files path).metadata with
    | .error e => .error (.io s!"{path}: {e}")
    | .ok len =>
      if len > maxConfigFileBytes then .error (tooLarge path len)
      else match (env.files path).readToString with
        | .error e => .error (.io s!"{path}: {e}")
        | .ok text => (ConfigOverride.fromStr deps.toml deps.serde text).map (·.applyTo cfg)
  else .ok cfg

/-- `base`: the `application.toml` of every directory, lowest priority first. -/
def base : Except ConfigError RuntimeConfig :=
  loader.configDirs.foldlM
    (fun cfg dir => applyFileIfExists deps env cfg (Rust.joinPath dir "application.toml")) .default

def parseShutdownTimeout (v : String) : Except ConfigError UInt64 :=
  match Rust.parseU64 v with
  | some n => .ok n
  | none => .error (.badEnvVar
      s!"SWE_EDGE_SHUTDOWN_TIMEOUT={Platform.debugText v}: expected a non-negative integer")

/-- `apply_env`. No character outside ASCII lowers to one of the words compared
with. -/
def applyEnv (cfg : RuntimeConfig) : Except ConfigError RuntimeConfig := do
  let shutdownTimeoutSecs ← match env.var "SWE_EDGE_SHUTDOWN_TIMEOUT" with
    | some v => parseShutdownTimeout v
    | none => .ok cfg.shutdownTimeoutSecs
  return { cfg with
    serviceName := (env.var "SWE_EDGE_SERVICE_NAME").getD cfg.serviceName
    httpBind := (env.var "SWE_EDGE_HTTP_BIND").getD cfg.httpBind
    grpcBind := (env.var "SWE_EDGE_GRPC_BIND").getD cfg.grpcBind
    shutdownTimeoutSecs
    systemdNotify := match env.var "SWE_EDGE_SYSTEMD_NOTIFY" with
      | some v => ["1", "true", "yes"].contains v.toLower
      | none => cfg.systemdNotify
    tenantId := (env.var "SWE_EDGE_TENANT_ID").or cfg.tenantId }

/-- `tenant_path`: the last directory of the chain with a file for the tenant. -/
def tenantPath (tenantId : String) : Option String :=
  loader.configDirs.reverse.findSome? fun dir =>
    let p := Rust.joinPath (Rust.joinPath dir "tenants") s!"{tenantId}.toml"
    if (env.files p).pathExists then some p else none

/-- `merge_values`: the entries of the overlay replace those of the base. -/
def mergeValues : Value → Value → Value
  | .table b, .table o => .table (o.foldl (fun t entry => Entries.insert entry.1 entry.2 t) b)
  | _, o => o

/-- `extract_dotted_value`: only a table has anything under a key. -/
def extractDottedValue (val : Value) (key : String) : Option Value :=
  (Rust.split '.' key).foldlM (fun current part =>
    match current with
    | .table t => t.lookup part
    | _ => none) val

def validateTenantId (id : String) : Except ConfigError Unit :=
  if id = "" ∨ ¬ id.toList.all fun c => c.isAlphanum || c = '_' || c = '-' then
    .error (.invalidTenantId id)
  else .ok ()

/-- `ConfigLoader::load`. -/
def load : Except ConfigError RuntimeConfig := do
  let cfg ← loader.base deps env
  applyEnv env cfg

/-- `ConfigLoader::load_for_tenant`. -/
def loadForTenant (tenantId : String) : Except ConfigError RuntimeConfig := do
  validateTenantId tenantId
  let cfg ← loader.base deps env
  let path ← match loader.tenantPath env tenantId with
    | some p => .ok p
    | none => .error (.unknownTenant tenantId)
  let cfg ← applyFileIfExists deps env cfg path
  let cfg ← applyEnv env cfg
  return { cfg with tenantId := cfg.tenantId.or (some tenantId) }

/-- One directory of `load_section`: what is merged so far, and the section in
the file at the path. -/
def mergeSection (key : String) (merged : Value) (path : String) : Except ConfigError Value :=
  if (env.files path).pathExists then
    match (env.files path).metadata with
    | .error e => .error (.io s!"{path}: {e}")
    | .ok len =>
      if len > maxConfigFileBytes then .error (tooLarge path len)
      else match (env.files path).readToString with
        | .error e => .error (.io s!"{path}: {e}")
        | .ok text =>
          match deps.toml.parse text with
          | .error e => .error (.parse e)
          | .ok val =>
            match extractDottedValue (.table val) key with
            | some found => .ok (mergeValues merged found)
            | none => .ok merged
  else .ok merged

/-- `ConfigLoader::load_section` into a type with this deserialisation and
default. -/
def loadSection {T : Type} (de : Value → Except String T) (default : T) (key : String) :
    Except ConfigError T := do
  let merged ← loader.configDirs.foldlM
    (fun merged dir => mergeSection deps env key merged (Rust.joinPath dir "application.toml"))
    (.table [])
  match merged with
  | .table [] => .ok default
  | merged => (de merged).mapError .parse

end ApplicationConfigLoader

end EdgeBootstrap
