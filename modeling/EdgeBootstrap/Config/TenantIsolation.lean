import EdgeBootstrap.Config.TenantLayers
import EdgeBootstrap.Library.Inquiry
import EdgeBootstrap.Rust.Paths

/-! Which files a load for a tenant looks at. The loader is written once more as
a program that asks for each file by its path; running it is the loader, and the
paths it asks for are the tenant's own and the chain's. -/
namespace EdgeBootstrap
open Toml

section
variable [Platform]

/-- The variables of an environment, without its files. -/
def Env.ofVars (var : String → Option String) : Env where
  files _ := .missing
  var := var
  configDir := none

namespace ApplicationConfigLoader

/-- A program that looks at files by their paths. -/
abbrev Looking := Inquiry String FileState ConfigError

namespace Looking
variable (deps : LoaderDeps) (var : String → Option String) (loader : ApplicationConfigLoader)

/-- `apply_file_if_exists`: the file is looked at to see whether it exists, for
its length, and for its text. -/
def applyFileIfExists (cfg : RuntimeConfig) (path : String) : Looking RuntimeConfig := do
  let there ← Inquiry.question path
  if there.pathExists then
    let examined ← Inquiry.question path
    match examined.metadata with
    | .error e => .done (.error (.io s!"{path}: {e}"))
    | .ok len =>
      if len > maxConfigFileBytes then .done (.error (tooLarge path len))
      else
        let opened ← Inquiry.question path
        match opened.readToString with
        | .error e => .done (.error (.io s!"{path}: {e}"))
        | .ok text => .done ((ConfigOverride.fromStr deps.toml deps.serde text).map (·.applyTo cfg))
  else .done (.ok cfg)

def base : Looking RuntimeConfig :=
  loader.configDirs.foldlM
    (fun cfg dir => applyFileIfExists deps cfg (Rust.joinPath dir "application.toml")) .default

/-- `tenant_path` over the directories from the highest priority down. -/
def tenantPath (tenantId : String) : List String → Looking (Option String)
  | [] => .done (.ok none)
  | dir :: dirs => do
    let p := Rust.joinPath (Rust.joinPath dir "tenants") s!"{tenantId}.toml"
    let there ← Inquiry.question p
    if there.pathExists then .done (.ok (some p)) else tenantPath tenantId dirs

def loadForTenant (tenantId : String) : Looking RuntimeConfig := do
  .done (validateTenantId tenantId)
  let cfg ← base deps loader
  let found ← tenantPath tenantId loader.configDirs.reverse
  let path ← .done (match found with
    | some p => .ok p
    | none => .error (.unknownTenant tenantId))
  let cfg ← applyFileIfExists deps cfg path
  let cfg ← .done (applyEnv (.ofVars var) cfg)
  return { cfg with tenantId := cfg.tenantId.or (some tenantId) }

end Looking

variable {deps : LoaderDeps} {env : Env} {loader : ApplicationConfigLoader}

theorem run_applyFileIfExists (cfg : RuntimeConfig) (path : String) :
    (Looking.applyFileIfExists deps cfg path).run env.files =
      applyFileIfExists deps env cfg path := by
  unfold Looking.applyFileIfExists applyFileIfExists
  rw [Inquiry.run_bind, Inquiry.run_question]
  change (ite _ _ _ : Looking RuntimeConfig).run env.files = _
  by_cases there : (env.files path).pathExists
  · rw [if_pos there, if_pos there, Inquiry.run_bind, Inquiry.run_question]
    change (match (env.files path).metadata with
      | .error e => _
      | .ok len => _ : Looking RuntimeConfig).run env.files = _
    cases examined : (env.files path).metadata with
    | error e => rfl
    | ok len =>
      change (ite _ _ _ : Looking RuntimeConfig).run env.files = ite _ _ _
      by_cases large : len > maxConfigFileBytes
      · rw [if_pos large, if_pos large]
        rfl
      · rw [if_neg large, if_neg large, Inquiry.run_bind, Inquiry.run_question]
        change (match (env.files path).readToString with
          | .error e => _
          | .ok text => _ : Looking RuntimeConfig).run env.files = _
        cases (env.files path).readToString <;> rfl
  · rw [if_neg there, if_neg there]
    rfl

omit [Platform] in
theorem run_tenantPath (id : String) (dirs : List String) :
    (Looking.tenantPath id dirs).run env.files =
      .ok (dirs.findSome? fun dir =>
        if (env.files (tenantFile id dir)).pathExists then some (tenantFile id dir) else none) := by
  induction dirs with
  | nil => rfl
  | cons dir dirs ih =>
    unfold Looking.tenantPath
    rw [List.findSome?_cons]
    change (if (env.files (tenantFile id dir)).pathExists then
        .done (.ok (some (tenantFile id dir)))
      else Looking.tenantPath id dirs : Looking (Option String)).run env.files = _
    by_cases there : (env.files (tenantFile id dir)).pathExists
    · rw [if_pos there, if_pos there]
      rfl
    · rw [if_neg there, if_neg there]
      exact ih

/-- Looking at the files of an environment is loading from it. -/
theorem run_loadForTenant (id : String) :
    (Looking.loadForTenant deps env.var loader id).run env.files =
      loader.loadForTenant deps env id := by
  have base : (Looking.base deps loader).run env.files = loader.base deps env := by
    unfold Looking.base ApplicationConfigLoader.base
    rw [Inquiry.run_foldlM]
    exact congrArg (List.foldlM · _ _)
      (funext fun cfg => funext fun dir => run_applyFileIfExists cfg _)
  have environment (cfg : RuntimeConfig) : applyEnv (.ofVars env.var) cfg = applyEnv env cfg := rfl
  unfold Looking.loadForTenant loadForTenant
  simp only [Inquiry.run_bind, Inquiry.run_done, Inquiry.run_pure, run_tenantPath, ← tenantPath_eq,
    run_applyFileIfExists, base, environment]
  cases loader.tenantPath env id <;> rfl

/-- Applying a file looks at that file. -/
theorem applyFileIfExists_asks (cfg : RuntimeConfig) (path : String) :
    (Looking.applyFileIfExists deps cfg path).Asks (· = path) := by
  have own : (Inquiry.question path : Looking FileState).Asks (· = path) := .question rfl
  unfold Looking.applyFileIfExists
  apply own.bind
  intro there
  split
  · apply own.bind
    intro examined
    split
    · exact Inquiry.asks_done _
    · split
      · exact Inquiry.asks_done _
      · apply own.bind
        intro opened
        split <;> exact Inquiry.asks_done _
  · exact Inquiry.asks_done _

omit [Platform] in
/-- Looking for a tenant's file looks at that file in each directory. -/
theorem tenantPath_asks (id : String) (dirs : List String) :
    (Looking.tenantPath id dirs).Asks fun path => ∃ dir ∈ dirs, path = tenantFile id dir := by
  induction dirs with
  | nil => exact Inquiry.asks_done _
  | cons dir dirs ih =>
    unfold Looking.tenantPath
    refine (Inquiry.Asks.question ⟨dir, List.mem_cons_self, rfl⟩).bind fun there => ?_
    split
    · exact Inquiry.asks_done _
    · intro files path asked
      obtain ⟨dir', member, same⟩ := ih files path asked
      exact ⟨dir', List.mem_cons_of_mem dir member, same⟩

/-- A file of the chain, or the tenant's in a directory of it. -/
def OwnFile (loader : ApplicationConfigLoader) (id path : String) : Prop :=
  ∃ dir ∈ loader.configDirs, path = applicationFile dir ∨ path = tenantFile id dir

/-- A load for a tenant looks at the chain's files and the tenant's, and at
nothing else. -/
theorem asked_ownFile {id path : String}
    (asked : path ∈ (Looking.loadForTenant deps env.var loader id).asked env.files) :
    OwnFile loader id path := by
  unfold Looking.loadForTenant at asked
  simp only [Inquiry.mem_asked_bind, Inquiry.asked_done, List.not_mem_nil, false_or,
    Inquiry.asked_pure, and_false, exists_false, or_false] at asked
  obtain ⟨_, _, chain | ⟨cfg, _, search | ⟨found, ran, path', selected, looked⟩⟩⟩ := asked
  · have each (dir) (member : dir ∈ loader.configDirs) (cfg : RuntimeConfig) :
        (Looking.applyFileIfExists deps cfg (applicationFile dir)).Asks fun path =>
          ∃ dir ∈ loader.configDirs, path = applicationFile dir := by
      intro files path asked
      exact ⟨dir, member, applyFileIfExists_asks cfg (applicationFile dir) files path asked⟩
    obtain ⟨dir, member, same⟩ := Inquiry.Asks.foldlM each .default env.files path chain
    exact ⟨dir, member, .inl same⟩
  · obtain ⟨dir, member, same⟩ := tenantPath_asks id loader.configDirs.reverse env.files path search
    exact ⟨dir, List.mem_reverse.mp member, .inr same⟩
  · rw [run_tenantPath, ← tenantPath_eq] at ran
    cases ran
    rw [Inquiry.run_done] at selected
    cases chosen : loader.tenantPath env id with
    | none =>
      rw [chosen] at selected
      cases selected
    | some p =>
      rw [chosen] at selected
      cases selected
      obtain ⟨before, dir, after, chain, same, _⟩ := tenantPath_eq_some chosen
      have own := applyFileIfExists_asks cfg path' env.files path looked
      exact ⟨dir, by simp [chain], .inr (own.trans same)⟩

/-- A tenant id of ASCII letters, digits, `_` and `-`. -/
def AcceptedId (id : String) : Prop :=
  id ≠ "" ∧ ∀ c ∈ id.toList,
    ('A' ≤ c ∧ c ≤ 'Z') ∨ ('a' ≤ c ∧ c ≤ 'z') ∨ ('0' ≤ c ∧ c ≤ '9') ∨ c = '_' ∨ c = '-'

-- through the characters of the id, not through all characters
instance (id : String) : Decidable (AcceptedId id) :=
  have := List.decidableBAll (fun c : Char =>
    ('A' ≤ c ∧ c ≤ 'Z') ∨ ('a' ≤ c ∧ c ≤ 'z') ∨ ('0' ≤ c ∧ c ≤ '9') ∨ c = '_' ∨ c = '-') id.toList
  inferInstanceAs (Decidable (_ ∧ _))

omit [Platform] in
theorem validateTenantId_eq (id : String) :
    validateTenantId id = if AcceptedId id then .ok () else .error (.invalidTenantId id) := by
  have char (c : Char) : (c.isAlphanum || c = '_' || c = '-') = true ↔
      ('A' ≤ c ∧ c ≤ 'Z') ∨ ('a' ≤ c ∧ c ≤ 'z') ∨ ('0' ≤ c ∧ c ≤ '9') ∨ c = '_' ∨ c = '-' := by
    have ranges : c.isAlphanum =
        ((decide ('A' ≤ c ∧ c ≤ 'Z') || ('a' ≤ c && c ≤ 'z')) || ('0' ≤ c && c ≤ '9')) := rfl
    simp [ranges, or_assoc]
  have all : (id.toList.all fun c => c.isAlphanum || c = '_' || c = '-') = true ↔
      ∀ c ∈ id.toList,
        ('A' ≤ c ∧ c ≤ 'Z') ∨ ('a' ≤ c ∧ c ≤ 'z') ∨ ('0' ≤ c ∧ c ≤ '9') ∨ c = '_' ∨ c = '-' := by
    rw [List.all_eq_true]
    exact forall₂_congr fun c _ => char c
  unfold validateTenantId
  by_cases accepted : AcceptedId id
  · rw [if_pos accepted, if_neg]
    rintro (empty | outside)
    · exact accepted.1 empty
    · exact outside (all.mpr accepted.2)
  · rw [if_neg accepted, if_pos]
    by_contra refused
    rw [not_or, not_not] at refused
    exact accepted ⟨refused.1, all.mp refused.2⟩

omit [Platform] in
/-- An accepted id names a file: it can neither leave the directory nor name
it. -/
theorem AcceptedId.isFileName {id : String} (accepted : AcceptedId id) :
    Rust.IsFileName (id ++ ".toml") := by
  have suffix : ".toml".length = 5 := by decide
  have length : 5 ≤ (id ++ ".toml").length := by
    rw [String.length_append]
    omega
  have plain : '/' ∉ (id ++ ".toml").toList := by
    have suffix : '/' ∉ ".toml".toList := by decide
    intro member
    have either : '/' ∈ id.toList ∨ '/' ∈ ".toml".toList := by simpa using member
    rcases either with own | added
    · have outside := accepted.2 '/' own
      revert outside
      decide
    · exact suffix added
  refine ⟨?_, ?_, ?_, plain⟩ <;>
  · intro same
    rw [same] at length
    revert length
    decide

omit [Platform] in
/-- The file of an accepted id is a direct child of the tenants directory. -/
theorem components_tenantFile {id : String} (accepted : AcceptedId id) (dir : String) :
    Rust.components (tenantFile id dir) =
      Rust.components (Rust.joinPath dir "tenants") ++ [id ++ ".toml"] :=
  Rust.components_joinPath (Rust.joinPath dir "tenants") accepted.isFileName

omit [Platform] in
/-- Files of different accepted ids differ in their last component. -/
theorem eq_of_same_file {id id' dir dir' : String} (accepted : AcceptedId id)
    (accepted' : AcceptedId id')
    (same : Rust.components (tenantFile id dir) = Rust.components (tenantFile id' dir')) : id = id' := by
  rw [components_tenantFile accepted, components_tenantFile accepted'] at same
  have last : id ++ ".toml" = id' ++ ".toml" := by
    simpa using (List.append_inj' same rfl).2
  have chars : id.toList ++ ".toml".toList = id'.toList ++ ".toml".toList := by
    rw [← String.toList_append, ← String.toList_append, last]
  exact String.toList_inj.mp (List.append_cancel_right chars)

omit [Platform] in
/-- The file of a tenant is an `application.toml` of the chain only where a
tenants directory is itself in the chain, and the tenant is called so. -/
theorem application_of_same_file {id dir dir' : String} (accepted : AcceptedId id)
    (same : Rust.components (applicationFile dir) = Rust.components (tenantFile id dir')) :
    id = "application" ∧ Rust.components dir = Rust.components dir' ++ ["tenants"] := by
  have application : Rust.IsFileName "application.toml" := by decide
  have tenants : Rust.IsFileName "tenants" := by decide
  rw [applicationFile, Rust.components_joinPath dir application, components_tenantFile accepted,
    Rust.components_joinPath dir' tenants] at same
  obtain ⟨dirs, last⟩ := List.append_inj' same rfl
  have chars : "application".toList ++ ".toml".toList = id.toList ++ ".toml".toList := by
    rw [← String.toList_append, ← String.toList_append, ← List.singleton_inj.mp last]
    decide
  exact ⟨(String.toList_inj.mp (List.append_cancel_right chars)).symm, dirs⟩

/-- What keeps a load for one tenant apart from the files of others. -/
structure IsolatesTenant (deps : LoaderDeps) (env : Env) (loader : ApplicationConfigLoader)
    (id : String) : Prop where
  /-- The program below is the load. -/
  loads : (Looking.loadForTenant deps env.var loader id).run env.files =
    loader.loadForTenant deps env id
  /-- It looks at the chain's own files and the tenant's. -/
  examines : ∀ path ∈ (Looking.loadForTenant deps env.var loader id).asked env.files,
    OwnFile loader id path
  /-- The tenant's are direct children of the tenants directories. -/
  child : AcceptedId id → ∀ dir, Rust.IsFileName (id ++ ".toml") ∧
    Rust.components (tenantFile id dir) =
      Rust.components (Rust.joinPath dir "tenants") ++ [id ++ ".toml"]
  /-- Another id is refused without looking at anything. -/
  rejects : ¬ AcceptedId id →
    (Looking.loadForTenant deps env.var loader id).asked env.files = [] ∧
      loader.loadForTenant deps env id = .error (.invalidTenantId id)
  /-- No other tenant has the same file. -/
  distinct : ∀ id' dir dir', AcceptedId id → AcceptedId id' →
    Rust.components (tenantFile id dir) = Rust.components (tenantFile id' dir') → id = id'
  /-- File systems that agree on those files give the same result. -/
  agrees : ∀ env', env'.var = env.var →
    (∀ path, OwnFile loader id path → env'.files path = env.files path) →
    loader.loadForTenant deps env' id = loader.loadForTenant deps env id
  /-- So do file systems that differ in another tenant's files, unless one of
  those is an `application.toml` of the chain. -/
  apart : ∀ id' env', AcceptedId id' → id' ≠ id →
    (id' = "application" → ∀ dir ∈ loader.configDirs, ∀ dir' ∈ loader.configDirs,
      Rust.components dir ≠ Rust.components dir' ++ ["tenants"]) →
    env'.var = env.var →
    (∀ path, (∀ dir ∈ loader.configDirs,
      Rust.components path ≠ Rust.components (tenantFile id' dir)) →
      env'.files path = env.files path) →
    loader.loadForTenant deps env' id = loader.loadForTenant deps env id

/-- Loading for an id that is refused looks at nothing. -/
theorem rejected_of_not_accepted {id : String} (refused : ¬ AcceptedId id) :
    (Looking.loadForTenant deps env.var loader id).asked env.files = [] ∧
      loader.loadForTenant deps env id = .error (.invalidTenantId id) := by
  have invalid : validateTenantId id = .error (.invalidTenantId id) := by
    rw [validateTenantId_eq, if_neg refused]
  constructor
  · unfold Looking.loadForTenant
    rw [invalid]
    rfl
  · unfold loadForTenant
    rw [invalid]
    rfl

/-- The result of a load is a function of the variables and of its own files. -/
theorem loadForTenant_congr {id : String} {env' : Env} (vars : env'.var = env.var)
    (files : ∀ path, OwnFile loader id path → env'.files path = env.files path) :
    loader.loadForTenant deps env' id = loader.loadForTenant deps env id := by
  rw [← run_loadForTenant, ← run_loadForTenant, vars]
  exact (Inquiry.run_congr fun path asked => files path (asked_ownFile asked)).1

theorem tenant_isolated (deps : LoaderDeps) (env : Env) (loader : ApplicationConfigLoader)
    (id : String) : IsolatesTenant deps env loader id where
  loads := run_loadForTenant id
  examines _ asked := asked_ownFile asked
  child accepted dir := ⟨accepted.isFileName, components_tenantFile accepted dir⟩
  rejects refused := rejected_of_not_accepted refused
  distinct _ _ _ accepted accepted' same := eq_of_same_file accepted accepted' same
  agrees _ vars files := loadForTenant_congr vars files
  apart := by
    intro id' env' accepted' other outside vars files
    by_cases accepted : AcceptedId id
    · apply loadForTenant_congr vars
      rintro path ⟨dir, member, rfl | rfl⟩
      · apply files
        intro dir' member' same
        obtain ⟨named, nested⟩ := application_of_same_file accepted' same
        exact outside named dir member dir' member' nested
      · apply files
        intro dir' _ same
        exact other (eq_of_same_file accepted accepted' same).symm
    · have refused (env : Env) : loader.loadForTenant deps env id = .error (.invalidTenantId id) :=
        (rejected_of_not_accepted accepted).2
      rw [refused env', refused env]

end ApplicationConfigLoader

end

section Reference
open ApplicationConfigLoader

attribute [local instance] Platform.reference

/-- A chain in which the tenants directory of one directory is another. -/
def nestedLoader : ApplicationConfigLoader := ⟨["conf", "conf/tenants"]⟩

/-- One tenant's file, with and without another's. -/
def soleTenant : Env := .holding [("conf/tenants/acme.toml", "http_bind = \"0.0.0.0:80\"\n")] []

def withApplicationTenant : Env := .holding
  [("conf/tenants/acme.toml", "http_bind = \"0.0.0.0:80\"\n"),
    ("conf/tenants/application.toml", "service_name = \"edge\"\n")] []

/-- The file of the tenant `application` reaches the configuration of another. -/
theorem application_tenant_leaks :
    AcceptedId "application" ∧ AcceptedId "acme" ∧
    (∀ path, path ≠ tenantFile "application" "conf" →
      withApplicationTenant.files path = soleTenant.files path) ∧
    withApplicationTenant.var = soleTenant.var ∧
    nestedLoader.loadForTenant (.parsing tenantDocuments) withApplicationTenant "acme" ≠
      nestedLoader.loadForTenant (.parsing tenantDocuments) soleTenant "acme" := by
  have leaked : nestedLoader.loadForTenant (.parsing tenantDocuments) withApplicationTenant "acme" =
      .ok { RuntimeConfig.default with
        serviceName := "edge"
        httpBind := "0.0.0.0:80"
        tenantId := some "acme" } := rfl
  have alone : nestedLoader.loadForTenant (.parsing tenantDocuments) soleTenant "acme" =
      .ok { RuntimeConfig.default with
        httpBind := "0.0.0.0:80"
        tenantId := some "acme" } := rfl
  refine ⟨by decide, by decide, ?_, rfl, ?_⟩
  · intro path other
    have named : tenantFile "application" "conf" = "conf/tenants/application.toml" := by decide
    rw [named] at other
    have apart : (path == "conf/tenants/application.toml") = false := by simpa using other
    simp [withApplicationTenant, soleTenant, Env.holding, List.lookup_cons, apart]
  · rw [leaked, alone]
    intro same
    have names : "edge" = "swe-edge" := congrArg RuntimeConfig.serviceName (Except.ok.inj same)
    revert names
    decide

end Reference

end EdgeBootstrap
