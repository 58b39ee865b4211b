import EdgeBootstrap.Config.TenantLayers

/-! Whether a load fails when one of its files is in no state to be loaded.
What a file amounts to is read here from the file alone, not from the tests the
loader makes. A file that is there and cannot be examined passes for one that is
missing, so it is the one bad state a load does not report. -/
namespace EdgeBootstrap
open Toml Overlays

namespace FileState

variable {β : Type}

/-- Nothing there, or a document. -/
def Sound (read : String → Except ConfigError β) (f : FileState) : Prop :=
  f = missing ∨ (f.document read).isSome

/-- Metadata fails, and not because nothing is there. -/
def Hidden (f : FileState) : Prop := ∃ e, f = notExaminable e

variable {read : String → Except ConfigError β} {f : FileState}

/-- A file that is not broken is sound exactly when it can be examined. -/
theorem sound_iff_of_not_broken (unbroken : ¬ f.Broken read) : f.Sound read ↔ ¬ f.Hidden := by
  cases f with
  | missing => simp [Sound, Hidden]
  | notExaminable e => simp [Sound, Hidden, document]
  | file len text =>
    have held : ((file len text).document read).isSome := by
      by_contra none
      exact unbroken ⟨rfl, by simpa using none⟩
    simp [Sound, Hidden, held]

theorem exists_iff : f.pathExists ↔ f ≠ missing ∧ ¬ f.Hidden := by
  cases f <;> simp [pathExists, metadata, Hidden]

end FileState

section
variable [Platform]

namespace ApplicationConfigLoader
open FileState

variable (deps : LoaderDeps) (env : Env) (loader : ApplicationConfigLoader)

/-- The `application.toml` of each directory is missing or a document. -/
def SoundLayers {β : Type} (read : String → Except ConfigError β) : Prop :=
  ∀ dir ∈ loader.configDirs, (env.files (applicationFile dir)).Sound read

def HiddenLayer : Prop := ∃ dir ∈ loader.configDirs, (env.files (applicationFile dir)).Hidden

variable {deps env loader} {β : Type} {read : String → Except ConfigError β} {path key : String}

variable (deps env loader)

/-- The one variable that is parsed is given and cannot be. -/
def BadTimeout : Prop :=
  ∃ v, env.var "SWE_EDGE_SHUTDOWN_TIMEOUT" = some v ∧ Rust.parseU64 v = none

/-- The merged section is not of the type asked for. -/
def SectionRefused {T : Type} (de : Value → Except String T) (default : T) (key : String) : Prop :=
  ∃ e, ofMerged de default (loader.mergedSections deps env key) = .error e

/-- The tenant's file of the last directory with anything there. -/
def tenantFileOf (id : String) : Option String :=
  lastSet (fun dir => match env.files (tenantFile id dir) with
    | .missing => none
    | _ => some (tenantFile id dir)) loader.configDirs

/-- The file taken for the tenant's is broken, or there is none to take. -/
def TenantRefused (id : String) : Prop :=
  ∀ path, loader.tenantPath env id = some path → (env.files path).Broken (readOverride deps)

variable {deps env loader}

theorem applyEnv_fails (cfg : RuntimeConfig) :
    FailsExactly (fun _ => True) (BadTimeout env) (applyEnv env cfg) := by
  unfold applyEnv BadTimeout
  cases given : env.var "SWE_EDGE_SHUTDOWN_TIMEOUT" with
  | none => exact FailsExactly.ok_iff.mpr (by simp)
  | some v =>
    simp only [parseShutdownTimeout]
    cases parsed : Rust.parseU64 v with
    | none => exact FailsExactly.error_iff.mpr (by simp [parsed])
    | some n => exact FailsExactly.ok_iff.mpr (by simp [parsed])

/-- When `load` fails. -/
theorem load_fails : FailsExactly (fun _ => True)
    (loader.BrokenLayer env (readOverride deps) ∨ BadTimeout env) (loader.load deps env) :=
  base_fails.bind fun cfg _ => applyEnv_fails cfg

/-- When `load_section` fails. -/
theorem loadSection_fails {T : Type} (de : Value → Except String T) (default : T) (key : String) :
    FailsExactly (fun _ => True)
      (loader.BrokenLayer env (readTable deps) ∨ loader.SectionRefused deps env de default key)
      (loader.loadSection deps env de default key) := by
  rw [loadSection_eq]
  refine (layered_fails _ _).bind fun merged ran => ?_
  unfold SectionRefused mergedSections
  rw [eq_of_layered _ _ ran]
  cases ofMerged de default _ with
  | error e => exact ⟨⟨e, rfl⟩, trivial⟩
  | ok x => exact FailsExactly.ok_iff.mpr (by simp)

/-- When `load_for_tenant` fails. -/
theorem loadForTenant_fails (id : String) : FailsExactly (fun _ => True)
    ((∃ e, validateTenantId id = .error e) ∨ loader.BrokenLayer env (readOverride deps) ∨
      loader.TenantRefused deps env id ∨ BadTimeout env) (loader.loadForTenant deps env id) := by
  have valid : FailsExactly (fun _ => True) (∃ e, validateTenantId id = .error e)
      (validateTenantId id) := by
    cases validateTenantId id with
    | error e => exact ⟨⟨e, rfl⟩, trivial⟩
    | ok u => exact FailsExactly.ok_iff.mpr (by simp)
  unfold loadForTenant
  refine valid.bind fun _ _ => base_fails.bind fun cfg _ => ?_
  unfold TenantRefused
  cases loader.tenantPath env id with
  | none => exact ⟨.inl (by simp), trivial⟩
  | some path =>
    have file := takeFile_fails env (readOverride deps) path
    have applied : FailsExactly (fun _ => True) ((env.files path).Broken (readOverride deps))
        (applyFileIfExists deps env cfg path) := by
      rw [applyFileIfExists_eq]
      exact file.map _
    have rest (cfg : RuntimeConfig) : FailsExactly (fun _ => True) (BadTimeout env) (do
        let cfg ← applyEnv env cfg
        return { cfg with tenantId := cfg.tenantId.or (some id) }) :=
      (applyEnv_fails cfg).bind_pure _
    exact (applied.bind fun cfg _ => rest cfg).congr (by simp)

omit [Platform] in
/-- Where nothing is broken, the chain is sound exactly when nothing of it is
hidden. -/
theorem soundLayers_iff (unbroken : ¬ loader.BrokenLayer env read) :
    loader.SoundLayers env read ↔ ¬ loader.HiddenLayer env := by
  have each (dir : String) (member : dir ∈ loader.configDirs) :
      (env.files (applicationFile dir)).Sound read ↔ ¬ (env.files (applicationFile dir)).Hidden := by
    apply sound_iff_of_not_broken
    intro broken
    exact unbroken ⟨dir, member, broken⟩
  unfold SoundLayers HiddenLayer
  rw [forall₂_congr each]
  simp

omit [Platform] in
/-- The tenant's last file is the one taken, unless it is hidden. -/
theorem tenantPath_of_tenantFileOf {id : String} (last : loader.tenantFileOf env id = some path)
    (plain : ¬ (env.files path).Hidden) : loader.tenantPath env id = some path := by
  obtain ⟨before, dir, after, chain, there, later⟩ := (lastSet_eq_some_iff _ _).mp last
  rw [tenantPath_eq, findSome?_reverse, lastSet_eq_some_iff]
  refine ⟨before, dir, after, chain, ?_, fun dir' member => ?_⟩
  · split at there
    · cases there
    · rename_i occupied
      cases there
      rw [if_pos (exists_iff.mpr ⟨occupied, plain⟩)]
  · have absent := later dir' member
    split at absent
    · rename_i missing
      simp [missing, pathExists, metadata]
    · cases absent

omit [Platform] in
/-- The file taken for the tenant's is there, and is that of a directory. -/
theorem exists_of_tenantPath {id : String} (taken : loader.tenantPath env id = some path) :
    (env.files path).pathExists ∧ ∃ dir ∈ loader.configDirs, path = tenantFile id dir := by
  rw [tenantPath_eq] at taken
  obtain ⟨dir, member, found⟩ := List.exists_of_findSome?_eq_some taken
  split at found
  · rename_i there
    cases found
    exact ⟨there, dir, List.mem_reverse.mp member, rfl⟩
  · cases found

omit [Platform] in
/-- Where a file is taken, the tenant has a last one. -/
theorem tenantFileOf_of_tenantPath {id : String} (taken : loader.tenantPath env id = some path) :
    ∃ last, loader.tenantFileOf env id = some last := by
  obtain ⟨there, dir, member, rfl⟩ := exists_of_tenantPath taken
  rw [← Option.isSome_iff_exists, Option.isSome_iff_ne_none]
  intro none
  have absent := (lastSet_eq_none_iff _).mp none dir member
  split at absent
  · rename_i missing
    exact (exists_iff.mp there).1 missing
  · cases absent

variable (deps env loader)

/-- `load` succeeds only on a sound chain, and with every document of it
overlaid. -/
def LoadFailsClosed : Prop :=
  ∀ cfg, loader.load deps env = .ok cfg →
    loader.SoundLayers env (readOverride deps) ∧ applyEnv env (loader.overlaid deps env) = .ok cfg

/-- `load_section` succeeds only on a sound chain, and with the sections of
every document of it merged. -/
def SectionFailsClosed {T : Type} (de : Value → Except String T) (default : T) (key : String) :
    Prop :=
  ∀ x, loader.loadSection deps env de default key = .ok x →
    loader.SoundLayers env (readTable deps) ∧
      ofMerged de default (loader.mergedSections deps env key) = .ok x

/-- `load_for_tenant` succeeds only on a sound chain, when the tenant's last file
is a document, and with all of these overlaid. -/
def TenantFailsClosed (id : String) : Prop :=
  ∀ cfg, loader.loadForTenant deps env id = .ok cfg →
    loader.SoundLayers env (readOverride deps) ∧
      ∃ path o cfg', loader.tenantFileOf env id = some path ∧
        (env.files path).document (readOverride deps) = some o ∧
        applyEnv env (o.applyTo (loader.overlaid deps env)) = .ok cfg' ∧
        cfg = { cfg' with tenantId := cfg'.tenantId.or (some id) }

/-- Nothing that a load for the tenant should read is hidden. -/
def TenantInSight (id : String) : Prop :=
  ¬ loader.HiddenLayer env ∧
    ∀ path, loader.tenantFileOf env id = some path → ¬ (env.files path).Hidden

variable {deps env loader}

theorem loadFailsClosed_iff : loader.LoadFailsClosed deps env ↔
    ¬ loader.HiddenLayer env ∨ loader.BrokenLayer env (readOverride deps) ∨ BadTimeout env := by
  apply load_fails.forall_ok_iff
  intro cfg loaded
  obtain ⟨based, base, applied⟩ := Except.bind_eq_ok.mp loaded
  have unbroken : ¬ loader.BrokenLayer env (readOverride deps) :=
    base_fails.iff_succeeded.mp ⟨based, base⟩
  rw [eq_of_base base] at applied
  rw [soundLayers_iff unbroken]
  exact and_iff_left applied

theorem sectionFailsClosed_iff {T : Type} (de : Value → Except String T) (default : T)
    (key : String) : loader.SectionFailsClosed deps env de default key ↔
      ¬ loader.HiddenLayer env ∨ loader.BrokenLayer env (readTable deps) ∨
        loader.SectionRefused deps env de default key := by
  apply (loadSection_fails de default key).forall_ok_iff
  intro x loaded
  rw [loadSection_eq] at loaded
  obtain ⟨merged, ran, finished⟩ := Except.bind_eq_ok.mp loaded
  have unbroken : ¬ loader.BrokenLayer env (readTable deps) :=
    (layered_fails _ _).iff_succeeded.mp ⟨merged, ran⟩
  rw [eq_of_layered _ _ ran] at finished
  rw [soundLayers_iff unbroken]
  exact and_iff_left finished

theorem tenantFailsClosed_iff (id : String) : loader.TenantFailsClosed deps env id ↔
    loader.TenantInSight env id ∨ (∃ e, validateTenantId id = .error e) ∨
      loader.BrokenLayer env (readOverride deps) ∨ loader.TenantRefused deps env id ∨
      BadTimeout env := by
  apply (loadForTenant_fails id).forall_ok_iff
  intro cfg loaded
  obtain ⟨based, path, applied, enved, _, base, taken, file, environment, rfl⟩ :=
    stages_of_loadForTenant loaded
  have unbroken : ¬ loader.BrokenLayer env (readOverride deps) :=
    base_fails.iff_succeeded.mp ⟨based, base⟩
  rw [applyFileIfExists_eq] at file
  obtain ⟨document, took, rfl⟩ := Except.map_eq_ok.mp file
  have whole := not_broken_of_takeFile took
  rw [eq_of_base base, document_of_takeFile took] at environment
  rw [soundLayers_iff unbroken]
  refine and_congr_right fun _ => ⟨?_, fun plain => ?_⟩
  · rintro ⟨last, o, _, isLast, held, _⟩ last' isLast' ⟨e, hidden⟩
    cases isLast.symm.trans isLast'
    rw [hidden] at held
    cases held
  · -- what is in sight is taken, and what is taken was not refused
    obtain ⟨last, isLast⟩ := tenantFileOf_of_tenantPath taken
    cases taken.symm.trans (tenantPath_of_tenantFileOf isLast (plain last isLast))
    cases held : (env.files path).document (readOverride deps) with
    | none => exact absurd ⟨(exists_of_tenantPath taken).1, held⟩ whole
    | some o =>
      rw [held] at environment
      exact ⟨path, o, enved, isLast, held, environment, rfl⟩

/-- A load fails closed exactly when nothing that it should read is hidden from
it, or it fails for another reason. -/
theorem fails_closed_iff (deps : LoaderDeps) (env : Env) (loader : ApplicationConfigLoader) :
    (loader.LoadFailsClosed deps env ↔
      ¬ loader.HiddenLayer env ∨ loader.BrokenLayer env (readOverride deps) ∨ BadTimeout env) ∧
    (∀ (T : Type) (de : Value → Except String T) (default : T) (key : String),
      loader.SectionFailsClosed deps env de default key ↔
        ¬ loader.HiddenLayer env ∨ loader.BrokenLayer env (readTable deps) ∨
          loader.SectionRefused deps env de default key) ∧
    ∀ id, loader.TenantFailsClosed deps env id ↔
      loader.TenantInSight env id ∨ (∃ e, validateTenantId id = .error e) ∨
        loader.BrokenLayer env (readOverride deps) ∨ loader.TenantRefused deps env id ∨
        BadTimeout env :=
  ⟨loadFailsClosed_iff, fun _ => sectionFailsClosed_iff, tenantFailsClosed_iff⟩

end ApplicationConfigLoader

end

section Reference
open ApplicationConfigLoader

attribute [local instance] Platform.reference

/-- A chain whose higher directory the process may not search. -/
def lockedEnv : Env where
  files p :=
    if ["user/application.toml", "user/tenants/acme.toml"].contains p then
      .notExaminable "Permission denied (os error 13)"
    else (Env.holding [("system/application.toml", "service_name = \"edge\"\n"),
      ("system/tenants/acme.toml", "http_bind = \"0.0.0.0:80\"\n")] []).files p
  var _ := none
  configDir := none

private theorem lockedEnv_unsound {β : Type} (read : String → Except ConfigError β) :
    ¬ serviceLoader.SoundLayers lockedEnv read := by
  intro sound
  rcases sound "user" (by decide) with missing | document
  · cases missing
  · cases document

/-- All three loaders pass over the directory that the process may not search. -/
theorem hidden_layer_skipped :
    ¬ serviceLoader.LoadFailsClosed (.parsing serviceDocuments) lockedEnv ∧
    ¬ serviceLoader.SectionFailsClosed (.parsing serviceDocuments) lockedEnv
      (MetricsConfig.de .reference) {} "metrics" ∧
    ¬ serviceLoader.TenantFailsClosed (.parsing serviceDocuments) lockedEnv "acme" := by
  refine ⟨fun closed => ?_, fun closed => ?_, fun closed => ?_⟩
  · exact lockedEnv_unsound _ (closed { RuntimeConfig.default with serviceName := "edge" } rfl).1
  · exact lockedEnv_unsound _ (closed {} rfl).1
  · exact lockedEnv_unsound _ (closed { RuntimeConfig.default with
      serviceName := "edge"
      httpBind := "0.0.0.0:80"
      tenantId := some "acme" } rfl).1

end Reference

end EdgeBootstrap
