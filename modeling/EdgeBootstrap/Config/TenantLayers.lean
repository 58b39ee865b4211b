import EdgeBootstrap.Config.Layers

/-! What layering means for a tenant: whose label the loaded configuration
carries, and which of the directories' tenant files count. Only the file of the
last directory that has one is applied. -/
namespace EdgeBootstrap
open Toml Overlays

section
variable [Platform]

namespace ApplicationConfigLoader
open ConfigKey
variable {deps : LoaderDeps} {env : Env} {loader : ApplicationConfigLoader} {cfg : RuntimeConfig}

/-- The tenant that the environment, or else a file, names. -/
def namedTenant (deps : LoaderDeps) (env : Env) (loader : ApplicationConfigLoader)
    (tenantFile : Option String) : Option String :=
  (env.var "SWE_EDGE_TENANT_ID").or (fromFiles deps env loader tenantFile .tenantId).join

/-- The tenant id of a configuration the layers give is the one they name, else
the fallback's. -/
theorem tenantId_of_precedence {tenantFile : Option String} {fallback : RuntimeConfig}
    {x : Option String}
    (layered : Precedence deps env loader tenantFile fallback .tenantId x) :
    x = (namedTenant deps env loader tenantFile).or fallback.tenantId := by
  have reads : ConfigKey.tenantId.variable.bind env.var = env.var "SWE_EDGE_TENANT_ID" := rfl
  unfold Precedence at layered
  unfold namedTenant
  cases governed : env.var "SWE_EDGE_TENANT_ID" with
  | some v =>
    simp only [reads, governed] at layered
    exact (Option.some.inj layered).symm
  | none =>
    simp only [reads, governed] at layered
    rw [layered]
    cases set : fromFiles deps env loader tenantFile .tenantId with
    | none => rfl
    | some named =>
      obtain ⟨name, _, rfl⟩ := named_of_fromFiles set
      rfl

theorem namedTenant_ne_empty {tenantFile : Option String}
    (filled : env.var "SWE_EDGE_TENANT_ID" ≠ some "") :
    namedTenant deps env loader tenantFile ≠ some "" := by
  intro empty
  rcases Option.or_eq_some_iff.mp empty with environment | ⟨_, files⟩
  · exact filled environment
  · obtain ⟨name, nonempty, same⟩ := named_of_fromFiles (Option.join_eq_some_iff.mp files)
    cases same
    exact nonempty rfl

/-- A tenant's configuration carries the label its layers name, and the tenant's
own where none does: so its own exactly when they name no other. The label of an
unscoped configuration is not empty. -/
theorem tenant_label (deps : LoaderDeps) (env : Env) (loader : ApplicationConfigLoader)
    (filled : env.var "SWE_EDGE_TENANT_ID" ≠ some "") :
    (∀ id cfg, loader.loadForTenant deps env id = .ok cfg →
      cfg.tenantId = some ((namedTenant deps env loader (loader.tenantPath env id)).getD id) ∧
      (cfg.tenantId = some id ↔
        ∀ name, namedTenant deps env loader (loader.tenantPath env id) = some name → name = id)) ∧
    (∀ cfg, loader.load deps env = .ok cfg →
      cfg.tenantId = none ∨ ∃ name, name ≠ "" ∧ cfg.tenantId = some name) := by
  constructor
  · intro id cfg loaded
    have label := tenantId_of_precedence (loadForTenant_follows_precedence loaded .tenantId)
    change cfg.tenantId = Option.or _ (some id) at label
    cases named : namedTenant deps env loader (loader.tenantPath env id) with
    | none => simp [label, named]
    | some name => simp [label, named]
  · intro cfg loaded
    have label := tenantId_of_precedence (load_follows_precedence loaded .tenantId)
    change cfg.tenantId = Option.or _ none at label
    rw [Option.or_none] at label
    cases held : cfg.tenantId with
    | none => exact .inl rfl
    | some name =>
      refine .inr ⟨name, ?_, rfl⟩
      rintro rfl
      exact namedTenant_ne_empty filled (label.symm.trans held)

omit [Platform] in
/-- The file selected for a tenant is that of a directory, and no later one has
any. -/
theorem tenantPath_eq_some {id path : String} (selected : loader.tenantPath env id = some path) :
    ∃ before dir after, loader.configDirs = before ++ dir :: after ∧ path = tenantFile id dir ∧
      ∀ dir' ∈ after, (env.files (tenantFile id dir')).pathExists = false := by
  rw [tenantPath_eq, findSome?_reverse, lastSet_eq_some_iff] at selected
  obtain ⟨before, dir, after, chain, found, later⟩ := selected
  refine ⟨before, dir, after, chain, ?_, ?_⟩
  · split at found
    · exact (Option.some.inj found).symm
    · cases found
  · intro dir' member
    have absent := later dir' member
    split at absent
    · cases absent
    · rename_i missing
      exact Bool.eq_false_of_not_eq_true missing

/-- Where the selected file sets a key, it is the last of the tenant's files
to. -/
theorem lastSet_of_selected {id path : String} {k : ConfigKey} {y : k.Value}
    (selected : loader.tenantPath env id = some path) (set : k.setAt deps env path = some y) :
    lastSet (fun dir => k.setAt deps env (tenantFile id dir)) loader.configDirs = some y := by
  obtain ⟨before, dir, after, chain, rfl, later⟩ := tenantPath_eq_some selected
  rw [lastSet_eq_some_iff]
  exact ⟨before, dir, after, chain, set, fun dir' member => setAt_of_absent (later dir' member) k⟩

/-- The last directory whose file for the tenant sets a key decides it exactly
when that file is the one selected, or sets the key to what the
`application.toml` layers give it anyway. -/
theorem tenant_overlay_iff (deps : LoaderDeps) (env : Env) (loader : ApplicationConfigLoader)
    (id : String) (cfg : RuntimeConfig) (k : ConfigKey) (x : k.Value) (other : k ≠ .tenantId)
    (ungoverned : k.variable.bind env.var = none)
    (set : lastSet (fun dir => k.setAt deps env (tenantFile id dir)) loader.configDirs = some x)
    (loaded : loader.loadForTenant deps env id = .ok cfg) :
    k.get cfg = x ↔
      (∃ path, loader.tenantPath env id = some path ∧ (k.setAt deps env path).isSome) ∨
        (lastSet (fun dir => k.setAt deps env (applicationFile dir)) loader.configDirs).getD
          (k.get .default) = x := by
  have layered := loadForTenant_follows_precedence loaded k
  have fallback : k.get { RuntimeConfig.default with tenantId := some id } = k.get .default := by
    cases k with
    | tenantId => exact absurd rfl other
    | _ => rfl
  unfold Precedence at layered
  simp only [ungoverned, fallback] at layered
  rw [layered]
  obtain ⟨_, path, _, _, _, _, selected, _, _, _⟩ := stages_of_loadForTenant loaded
  simp only [fromFiles, selected, Option.bind_some]
  cases here : k.setAt deps env path with
  | none => simp [here]
  | some y =>
    have decided : some y = some x := (lastSet_of_selected selected here).symm.trans set
    cases decided
    simp [here]

end ApplicationConfigLoader

end

section Reference
open ApplicationConfigLoader

attribute [local instance] Platform.reference

/-- Documents that name a tenant, a service and a binding. -/
def tenantDocuments : List (String × Table) :=
  [("tenant_id = \"globex\"\n", [("tenant_id", .str "globex")]),
    ("service_name = \"edge\"\n", [("service_name", .str "edge")]),
    ("http_bind = \"0.0.0.0:80\"\n", [("http_bind", .str "0.0.0.0:80")])]

/-- A directory whose own file names another tenant. -/
def globexEnv : Env := .holding
  [("config/application.toml", "tenant_id = \"globex\"\n"),
    ("config/tenants/acme.toml", "service_name = \"edge\"\n")] []

/-- Two directories that set different keys for one tenant. -/
def twoTenantFiles : Env := .holding
  [("system/tenants/acme.toml", "service_name = \"edge\"\n"),
    ("user/tenants/acme.toml", "http_bind = \"0.0.0.0:80\"\n")] []

theorem tenant_label_globex :
    (∀ id cfg, (ApplicationConfigLoader.withDir "config").loadForTenant (.parsing tenantDocuments)
        globexEnv id = .ok cfg →
      cfg.tenantId = some ((namedTenant (.parsing tenantDocuments) globexEnv (.withDir "config")
        ((ApplicationConfigLoader.withDir "config").tenantPath globexEnv id)).getD id) ∧
      (cfg.tenantId = some id ↔
        ∀ name, namedTenant (.parsing tenantDocuments) globexEnv (.withDir "config")
          ((ApplicationConfigLoader.withDir "config").tenantPath globexEnv id) = some name →
            name = id)) ∧
    (∀ cfg, (ApplicationConfigLoader.withDir "config").load (.parsing tenantDocuments) globexEnv =
        .ok cfg →
      cfg.tenantId = none ∨ ∃ name, name ≠ "" ∧ cfg.tenantId = some name) :=
  tenant_label (.parsing tenantDocuments) globexEnv (.withDir "config") nofun

/-- A tenant's configuration is labelled with another tenant. -/
theorem tenant_labelled_globex :
    ∃ cfg, (ApplicationConfigLoader.withDir "config").loadForTenant (.parsing tenantDocuments)
        globexEnv "acme" = .ok cfg ∧ cfg.tenantId ≠ some "acme" :=
  ⟨{ RuntimeConfig.default with serviceName := "edge", tenantId := some "globex" }, rfl, by decide⟩

private theorem twoTenantFiles_loaded :
    serviceLoader.loadForTenant (.parsing tenantDocuments) twoTenantFiles "acme" =
      .ok { RuntimeConfig.default with httpBind := "0.0.0.0:80", tenantId := some "acme" } := rfl

theorem tenant_overlay_iff_service :
    ConfigKey.serviceName.get
        { RuntimeConfig.default with httpBind := "0.0.0.0:80", tenantId := some "acme" } = "edge" ↔
      (∃ path, serviceLoader.tenantPath twoTenantFiles "acme" = some path ∧
        (ConfigKey.serviceName.setAt (.parsing tenantDocuments) twoTenantFiles path).isSome) ∨
      (lastSet (fun dir => ConfigKey.serviceName.setAt (.parsing tenantDocuments) twoTenantFiles
        (applicationFile dir)) serviceLoader.configDirs).getD
          (ConfigKey.serviceName.get .default) = "edge" :=
  tenant_overlay_iff (.parsing tenantDocuments) twoTenantFiles serviceLoader "acme" _ .serviceName
    "edge" nofun rfl rfl twoTenantFiles_loaded

/-- The lower directory's file for the tenant sets the service name, no other
file and no variable does, and the configuration does not have it. -/
theorem lower_tenant_file_ignored :
    lastSet (fun dir => ConfigKey.serviceName.setAt (.parsing tenantDocuments) twoTenantFiles
      (tenantFile "acme" dir)) serviceLoader.configDirs = some "edge" ∧
    ConfigKey.serviceName.variable.bind twoTenantFiles.var = none ∧
    ∃ cfg, serviceLoader.loadForTenant (.parsing tenantDocuments) twoTenantFiles "acme" = .ok cfg ∧
      ConfigKey.serviceName.get cfg ≠ "edge" := by
  refine ⟨rfl, rfl, _, twoTenantFiles_loaded, ?_⟩
  change "swe-edge" ≠ "edge"
  decide

end Reference

end EdgeBootstrap
