import EdgeBootstrap.Config.FailClosed
import EdgeBootstrap.Config.Layers

/-! A loaded configuration, written out and loaded in place of the chain it came
from. Loading sets no section that a file cannot carry, and what the environment
did to it, the same environment does again: so a snapshot stands for its chain,
whatever layers that had. -/
namespace EdgeBootstrap
open Toml RuntimeConfig

section
variable [Platform] {deps : LoaderDeps} {env env' : Env} {loader : ApplicationConfigLoader}
  {c cfg cfg' : RuntimeConfig}

namespace ApplicationConfigLoader

/-- The chain gives this configuration, to the runtime or to some tenant. -/
def Gives (deps : LoaderDeps) (env : Env) (loader : ApplicationConfigLoader) (c : RuntimeConfig) : Prop :=
  loader.load deps env = .ok c ∨ ∃ id, loader.loadForTenant deps env id = .ok c

/-- Files set the keys of an overlay and nothing else. -/
theorem onlyOverlayKeys_applyFileIfExists {path : String} (only : cfg.OnlyOverlayKeys)
    (applied : applyFileIfExists deps env cfg path = .ok cfg') : cfg'.OnlyOverlayKeys := by
  rw [applyFileIfExists_eq] at applied
  obtain ⟨taken, _, rfl⟩ := Except.map_eq_ok.mp applied
  cases taken with
  | none => exact only
  | some o => exact ⟨only.services, only.metricsBackend, only.tracerBackend, only.logBackend,
      only.deployDir, only.intrusion⟩

theorem onlyOverlayKeys_base (based : loader.base deps env = .ok cfg) : cfg.OnlyOverlayKeys := by
  have chain (dirs : List String) (start : RuntimeConfig) (only : start.OnlyOverlayKeys)
      (folded : dirs.foldlM (fun cfg dir =>
        applyFileIfExists deps env cfg (Rust.joinPath dir "application.toml")) start = .ok cfg) :
      cfg.OnlyOverlayKeys := by
    induction dirs generalizing start with
    | nil =>
      cases folded
      exact only
    | cons dir dirs ih =>
      obtain ⟨next, applied, rest⟩ := Except.bind_eq_ok.mp (List.foldlM_cons.symm.trans folded)
      exact ih next (onlyOverlayKeys_applyFileIfExists only applied) rest
  exact chain loader.configDirs .default ⟨rfl, rfl, rfl, rfl, rfl, rfl⟩ based

theorem onlyOverlayKeys_applyEnv (only : cfg.OnlyOverlayKeys) (applied : applyEnv env cfg = .ok cfg') :
    cfg'.OnlyOverlayKeys := by
  have kept (name httpBind grpcBind secs notify tenant) : OnlyOverlayKeys { cfg with
      serviceName := name, httpBind := httpBind, grpcBind := grpcBind, shutdownTimeoutSecs := secs,
      systemdNotify := notify, tenantId := tenant } :=
    ⟨only.services, only.metricsBackend, only.tracerBackend, only.logBackend, only.deployDir, only.intrusion⟩
  unfold applyEnv at applied
  cases given : env.var "SWE_EDGE_SHUTDOWN_TIMEOUT" with
  | none =>
    rw [given] at applied
    cases applied
    exact kept _ _ _ _ _ _
  | some v =>
    rw [given] at applied
    obtain ⟨secs, _, returned⟩ := Except.bind_eq_ok.mp applied
    cases returned
    exact kept _ _ _ _ _ _

/-- Whatever the chain, a file can carry all of what it gives. -/
theorem Gives.onlyOverlayKeys (gives : loader.Gives deps env c) : c.OnlyOverlayKeys := by
  rcases gives with loaded | ⟨id, loaded⟩
  · obtain ⟨based, base, environment⟩ := Except.bind_eq_ok.mp loaded
    exact onlyOverlayKeys_applyEnv (onlyOverlayKeys_base base) environment
  · obtain ⟨based, path, applied, enved, _, base, _, file, environment, rfl⟩ :=
      stages_of_loadForTenant loaded
    have only := onlyOverlayKeys_applyEnv
      (onlyOverlayKeys_applyFileIfExists (onlyOverlayKeys_base base) file) environment
    exact ⟨only.services, only.metricsBackend, only.tracerBackend, only.logBackend, only.deployDir,
      only.intrusion⟩

/-- The environment has had its say about the configuration. -/
def Settled (env : Env) (c : RuntimeConfig) : Prop :=
  ∀ (k : ConfigKey) (v : String), k.variable.bind env.var = some v → k.ofVariable v = some (k.get c)

theorem Gives.settled (gives : loader.Gives deps env c) : Settled env c := by
  intro k v governed
  rcases gives with loaded | ⟨id, loaded⟩
  · have precedence := load_follows_precedence loaded k
    simpa only [ConfigKey.Precedence, governed] using precedence
  · have precedence := loadForTenant_follows_precedence loaded k
    simpa only [ConfigKey.Precedence, governed] using precedence

/-- Only the environment gives an empty tenant id. -/
theorem Gives.tenantId_ne_empty (gives : loader.Gives deps env c)
    (unset : env.var "SWE_EDGE_TENANT_ID" = none) : c.tenantId ≠ some "" := by
  have free : ConfigKey.tenantId.variable.bind env.var = none := unset
  have given (x : Option (Option String)) (fallback : Option String)
      (named : ∀ y, x = some y → ∃ id, id ≠ "" ∧ y = some id) (fallen : fallback ≠ some "") :
      x.getD fallback ≠ some "" := by
    cases x with
    | none => exact fallen
    | some y =>
      obtain ⟨id, filled, rfl⟩ := named y rfl
      simpa using filled
  rcases gives with loaded | ⟨id, loaded⟩
  · have precedence := load_follows_precedence loaded .tenantId
    simp only [ConfigKey.Precedence, free] at precedence
    change c.tenantId = _ at precedence
    rw [precedence]
    exact given _ _ (fun _ => ConfigKey.named_of_fromFiles) nofun
  · have precedence := loadForTenant_follows_precedence loaded .tenantId
    simp only [ConfigKey.Precedence, free] at precedence
    change c.tenantId = _ at precedence
    obtain ⟨_, _, _, _, valid, _⟩ := stages_of_loadForTenant loaded
    have filled : id ≠ "" := by
      rintro rfl
      simp [validateTenantId] at valid
    rw [precedence]
    exact given _ _ (fun _ => ConfigKey.named_of_fromFiles) fun same => filled (Option.some.inj same)

end ApplicationConfigLoader

/-- What a file can carry is told by its keys. -/
theorem RuntimeConfig.ext_keys {c d : RuntimeConfig} (own : c.OnlyOverlayKeys) (other : d.OnlyOverlayKeys)
    (same : ∀ k : ConfigKey, k.get c = k.get d) : c = d := by
  have serviceName := same .serviceName
  have httpBind := same .httpBind
  have grpcBind := same .grpcBind
  have timeout := same .shutdownTimeoutSecs
  have notify := same .systemdNotify
  have tenant := same .tenantId
  have httpTls := same .httpTls
  have grpcTls := same .grpcTls
  have httpAuth := same .httpAuth
  have unauthenticated := same .grpcAllowUnauthenticated
  have egressHttp := same .egressHttp
  have egressGrpc := same .egressGrpc
  have reflection := same .grpcReflection
  have metrics := same .metrics
  have autoscale := same .autoscale
  have observability := same .observability
  obtain ⟨services, metricsBackend, tracerBackend, logBackend, deployDir, intrusion⟩ := own
  obtain ⟨services', metricsBackend', tracerBackend', logBackend', deployDir', intrusion'⟩ := other
  cases c
  cases d
  simp_all only [ConfigKey.get]

namespace ApplicationConfigLoader

/-- The overlay of a whole configuration gives back every key, but for an empty tenant
id. -/
theorem get_ofConfig (c : RuntimeConfig) (k : ConfigKey) (named : k = .tenantId → c.tenantId ≠ some "") :
    k.get ((ConfigOverride.ofConfig c).applyTo .default) = k.get c := by
  have optional {T : Type} (x : Option T) : (x.map some).getD none = x := by cases x <;> rfl
  rw [ConfigKey.get_applyTo]
  cases k with
  | tenantId =>
    have filled := named rfl
    change (c.tenantId.bind ConfigKey.named).getD none = c.tenantId
    cases held : c.tenantId with
    | none => rfl
    | some id =>
      have other : id ≠ "" := fun same => filled (by rw [held, same])
      simp [ConfigKey.named, other]
  | httpTls | grpcTls | httpAuth | egressHttp | egressGrpc | metrics | autoscale | observability =>
    exact optional _
  | serviceName | httpBind | grpcBind | shutdownTimeoutSecs | systemdNotify | grpcAllowUnauthenticated
  | grpcReflection => rfl

/-- What a snapshot gives before the environment is applied. -/
theorem base_document {dir s : String}
    (held : env'.files (applicationFile dir) = .file s.utf8ByteSize (.ok s)) (document : IsDocumentOf deps s c) :
    (withDir dir).base deps env' =
      if s.utf8ByteSize > maxConfigFileBytes then .error (tooLarge (applicationFile dir) s.utf8ByteSize)
      else .ok ((ConfigOverride.ofConfig c).applyTo .default) := by
  change (applyFileIfExists deps env' .default (applicationFile dir) >>= pure) = _
  rw [applyFileIfExists_file held, ConfigOverride.fromStr_document document]
  split <;> rfl

/-- The environment that had its say has it again, over what the snapshot kept. -/
theorem applyEnv_ofConfig (only : c.OnlyOverlayKeys) (settled : Settled env' c)
    (named : env'.var "SWE_EDGE_TENANT_ID" = none → c.tenantId ≠ some "") :
    applyEnv env' ((ConfigOverride.ofConfig c).applyTo .default) = .ok c := by
  have parses : ¬ BadTimeout env' := by
    rintro ⟨v, given, unparsed⟩
    have governed : ConfigKey.shutdownTimeoutSecs.variable.bind env'.var = some v := given
    have said : Rust.parseU64 v = some c.shutdownTimeoutSecs := settled _ v governed
    rw [unparsed] at said
    cases said
  obtain ⟨r, applied⟩ := (applyEnv_fails ((ConfigOverride.ofConfig c).applyTo .default)).iff_succeeded.mpr parses
  have start : ((ConfigOverride.ofConfig c).applyTo .default).OnlyOverlayKeys := ⟨rfl, rfl, rfl, rfl, rfl, rfl⟩
  rw [applied]
  refine congrArg Except.ok (ext_keys (onlyOverlayKeys_applyEnv start applied) only fun k => ?_)
  have said := get_applyEnv applied k
  cases governed : k.variable.bind env'.var with
  | some v =>
    simp only [governed] at said
    exact Option.some.inj (said.symm.trans (settled k v governed))
  | none =>
    simp only [governed] at said
    rw [said]
    refine get_ofConfig c k ?_
    rintro rfl
    exact named governed

/-- A configuration that a chain of any layers gave, to the runtime or to a tenant, and
that was written out as the one file of a directory: in the environment it was loaded
in, that directory gives it again exactly when the file is within the size limit; in
one without `SWE_EDGE_*` variables, exactly when besides the tenant id was not set to
nothing. -/
theorem snapshot_reloads_iff (deps : LoaderDeps) (env env' : Env) (loader : ApplicationConfigLoader)
    (c : RuntimeConfig) (gives : loader.Gives deps env c) (dir s : String)
    (document : IsDocumentOf deps s c)
    (held : env'.files (applicationFile dir) = .file s.utf8ByteSize (.ok s)) :
    (env'.var = env.var →
      ((withDir dir).load deps env' = .ok c ↔ s.utf8ByteSize ≤ maxConfigFileBytes)) ∧
    ((∀ name : String, "SWE_EDGE_".toList <+: name.toList → env'.var name = none) →
      ((withDir dir).load deps env' = .ok c ↔
        s.utf8ByteSize ≤ maxConfigFileBytes ∧ c.tenantId ≠ some "")) := by
  have only := gives.onlyOverlayKeys
  have loads (fits : s.utf8ByteSize ≤ maxConfigFileBytes) : (withDir dir).load deps env' =
      applyEnv env' ((ConfigOverride.ofConfig c).applyTo .default) := by
    rw [load, base_document held document, if_neg (by omega)]
    rfl
  have refused (large : ¬ s.utf8ByteSize ≤ maxConfigFileBytes) : (withDir dir).load deps env' ≠ .ok c := by
    rw [load, base_document held document, if_pos (by omega)]
    intro same
    cases same
  constructor
  · intro same
    by_cases fits : s.utf8ByteSize ≤ maxConfigFileBytes
    · have settled : Settled env' c := by
        intro k v governed
        rw [same] at governed
        exact gives.settled k v governed
      have named (unset : env'.var "SWE_EDGE_TENANT_ID" = none) : c.tenantId ≠ some "" :=
        gives.tenantId_ne_empty (by rwa [same] at unset)
      rw [loads fits, applyEnv_ofConfig only settled named]
      exact iff_of_true rfl fits
    · exact iff_of_false (refused fits) fits
  · intro unset
    by_cases fits : s.utf8ByteSize ≤ maxConfigFileBytes
    · rw [loads fits, applyEnv_of_unset unset]
      constructor
      · intro same
        refine ⟨fits, fun empty => ?_⟩
        have tenant : ((ConfigOverride.ofConfig c).applyTo .default).tenantId = c.tenantId :=
          congrArg RuntimeConfig.tenantId (Except.ok.inj same)
        simp [ConfigOverride.applyTo, ConfigOverride.ofConfig, empty, RuntimeConfig.default] at tenant
      · rintro ⟨_, named⟩
        rw [ConfigOverride.applyTo_ofConfig named, c.overlayKeys_eq_iff.mpr only]
    · exact iff_of_false (refused fits) fun both => fits both.1

end ApplicationConfigLoader

end

section Reference

attribute [local instance] Platform.reference

/-- The defaults under a tenant id that the environment sets to nothing. -/
private abbrev unnamedConfig : RuntimeConfig := { tenantId := some "" }

private abbrev unnamedDocument : String :=
  "service_name = \"swe-edge\"\nhttp_bind = \"0.0.0.0:8080\"\ngrpc_bind = \"0.0.0.0:50051\"\n" ++
  "shutdown_timeout_secs = 30\nsystemd_notify = false\ntenant_id = \"\"\n" ++
  "grpc_allow_unauthenticated = false\ngrpc_reflection = false\n\n[services]\n"

/-- A snapshot of a configuration without files, loaded where nothing is set. -/
theorem snapshot_reloads_iff_unnamed :
    let deps : LoaderDeps := .reading unnamedDocument unnamedConfig
    let clean : Env := .single "config/application.toml" unnamedDocument
    (ApplicationConfigLoader.withDir "config").load deps clean = .ok unnamedConfig ↔
      unnamedDocument.utf8ByteSize ≤ maxConfigFileBytes ∧ unnamedConfig.tenantId ≠ some "" := by
  intro deps clean
  obtain ⟨t, written⟩ : ∃ t, unnamedConfig.serialize .reference = .ok t := ⟨_, rfl⟩
  have document : IsDocumentOf deps unnamedDocument unnamedConfig :=
    ⟨t, written, by simp [deps, LoaderDeps.reading, written]⟩
  have path : ApplicationConfigLoader.applicationFile "config" = "config/application.toml" := by decide
  exact (ApplicationConfigLoader.snapshot_reloads_iff deps (.holding [] [("SWE_EDGE_TENANT_ID", "")]) clean
    (.withDir "config") unnamedConfig (.inl rfl) "config" unnamedDocument document
    (by simp [clean, path, Env.single])).2 fun _ _ => rfl

end Reference

end EdgeBootstrap
