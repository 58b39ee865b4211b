import EdgeBootstrap.Config.TenantIsolation
import Mathlib.Data.List.Nodup

/-! Loads that overlap a deployment. The loaders look at a file up to three times, and other
processes may change any file in between. As long as they replace and add files, a load
comes to what it comes to where nothing changes, over files each of which is as it was at
some moment of the load: no configuration has two versions of one file in it. A file that is
removed while it is looked at is another matter. -/
namespace EdgeBootstrap
open Toml

/-- A file that is there stays there, and one within the limit stays within. -/
def FileState.Steady (before after : FileState) : Prop :=
  ∀ len, before.metadata = .ok len →
    ∃ len', after.metadata = .ok len' ∧ (len ≤ maxConfigFileBytes → len' ≤ maxConfigFileBytes)

namespace FileState

variable {f before after : FileState}

theorem pathExists_iff : f.pathExists = true ↔ ∃ len, f.metadata = .ok len := by
  cases f <;> simp [pathExists, metadata]

theorem Steady.refl (f : FileState) : f.Steady f := fun len examined => ⟨len, examined, id⟩

theorem Steady.trans {between : FileState} (first : before.Steady between)
    (second : between.Steady after) : before.Steady after := by
  intro len examined
  obtain ⟨len₁, examined₁, within₁⟩ := first len examined
  obtain ⟨len₂, examined₂, within₂⟩ := second len₁ examined₁
  exact ⟨len₂, examined₂, within₂ ∘ within₁⟩

theorem Steady.pathExists (steady : before.Steady after) (there : before.pathExists = true) :
    after.pathExists = true := by
  obtain ⟨len, examined⟩ := pathExists_iff.mp there
  obtain ⟨len', examined', _⟩ := steady len examined
  exact pathExists_iff.mpr ⟨len', examined'⟩

end FileState

namespace ApplicationConfigLoader
open FileState

section Timelines
variable {own : String → Prop} {timeline : Nat → String → FileState} {n k : Nat} {path : String}

/-- From a moment to the next, the files a load looks at are steady. -/
def Calm (own : String → Prop) (timeline : Nat → String → FileState) (k : Nat) : Prop :=
  ∀ path, own path → (timeline k path).Steady (timeline (k + 1) path)

/-- Through calm moments a file is steady. -/
theorem steady_of_calm (mine : own path) (quiet : ∀ j, n ≤ j → j < k → Calm own timeline j)
    (later : n ≤ k) : (timeline n path).Steady (timeline k path) := by
  induction k, later using Nat.le_induction with
  | base => exact Steady.refl _
  | succ k after ih =>
    have before := ih fun j started ended => quiet j started (Nat.lt_succ_of_lt ended)
    exact before.trans (quiet k after (Nat.lt_succ_self k) path mine)

end Timelines

/-- A file of the chain. -/
def ChainFile (loader : ApplicationConfigLoader) (path : String) : Prop :=
  ∃ dir ∈ loader.configDirs, path = applicationFile dir

namespace Looking

/-- A file that is looked at to see whether it exists, for its length, and for its text.
`apply_file_if_exists` and the loop body of `load_section` both do this. -/
def takeFile {β : Type} (absent : β) (read : String → Except ConfigError β) (path : String) :
    Looking β := do
  let there ← Inquiry.question path
  if there.pathExists then
    let examined ← Inquiry.question path
    match examined.metadata with
    | .error e => .done (.error (.io s!"{path}: {e}"))
    | .ok len =>
      if len > maxConfigFileBytes then .done (.error (tooLarge path len))
      else
        let opened ← Inquiry.question path
        match opened.readToString with
        | .error e => .done (.error (.io s!"{path}: {e}"))
        | .ok text => .done (read text)
  else .done (.ok absent)

section Taking
variable {β : Type} {absent : β} {read : String → Except ConfigError β} {path : String}
  {own : String → Prop} {timeline : Nat → String → FileState} {n len : Nat}

theorem along_takeFile_missing (missing : (timeline n path).pathExists = false) :
    (takeFile absent read path).along timeline n = (.ok absent, n + 1) := by
  simp [takeFile, missing]

theorem along_takeFile_large (there : (timeline n path).pathExists = true)
    (examined : (timeline (n + 1) path).metadata = .ok len) (large : len > maxConfigFileBytes) :
    (takeFile absent read path).along timeline n = (.error (tooLarge path len), n + 2) := by
  simp [takeFile, there, examined, large]

theorem along_takeFile_read (there : (timeline n path).pathExists = true)
    (examined : (timeline (n + 1) path).metadata = .ok len) (within : ¬ len > maxConfigFileBytes)
    {opened : Except String String} (held : (timeline (n + 2) path).readToString = opened) :
    (takeFile absent read path).along timeline n =
      (opened.mapError (fun e => .io s!"{path}: {e}") >>= read, n + 3) := by
  cases opened <;> simp [takeFile, there, examined, within, held] <;> rfl

/-- In calm moments a file is taken as it is at one of them: the last at which it was
looked at. -/
theorem takeFile_serial (mine : own path) :
    (takeFile absent read path).Serial timeline (Calm own timeline) := by
  intro n quiet
  cases there : (timeline n path).pathExists with
  | false =>
    rw [along_takeFile_missing there]
    refine ⟨timeline n, Inquiry.between_at (Nat.le_refl n) (Nat.le_succ n), ?_⟩
    rw [← Inquiry.along_const _ n]
    exact congrArg Prod.fst (along_takeFile_missing there)
  | true =>
    have started : n < ((takeFile absent read path).along timeline n).2 :=
      Inquiry.le_along _ (n + 1)
    obtain ⟨len, examined⟩ := pathExists_iff.mp there
    obtain ⟨len₁, examined₁, _⟩ := quiet n (Nat.le_refl n) started path mine len examined
    by_cases large : len₁ > maxConfigFileBytes
    · rw [along_takeFile_large there examined₁ large]
      refine ⟨timeline (n + 1), Inquiry.between_at (by omega) (by omega), ?_⟩
      rw [← Inquiry.along_const _ n]
      exact congrArg Prod.fst
        (along_takeFile_large (pathExists_iff.mpr ⟨len₁, examined₁⟩) examined₁ large)
    · have ran := @along_takeFile_read β absent read path timeline n len₁ there examined₁ large _ rfl
      obtain ⟨len₂, examined₂, within₂⟩ :=
        quiet (n + 1) (by omega) (by rw [ran]; omega) path mine len₁ examined₁
      have within : ¬ len₂ > maxConfigFileBytes := by
        have := within₂ (Nat.not_lt.mp large)
        omega
      rw [ran]
      refine ⟨timeline (n + 2), Inquiry.between_at (by omega) (by omega), ?_⟩
      rw [← Inquiry.along_const _ n]
      exact congrArg Prod.fst (@along_takeFile_read β absent read path (fun _ => timeline (n + 2)) n
        len₂ (pathExists_iff.mpr ⟨len₂, examined₂⟩) examined₂ within _ rfl)

theorem takeFile_asks : (takeFile absent read path).Asks (· = path) := by
  have own : (Inquiry.question path : Looking FileState).Asks (· = path) := .question rfl
  unfold takeFile
  apply own.bind
  intro there
  split
  · apply own.bind
    intro examined
    split
    · exact Inquiry.asks_done _
    · split
      · exact Inquiry.asks_done _
      · apply own.bind
        intro opened
        split <;> exact Inquiry.asks_done _
  · exact Inquiry.asks_done _

/-- Where nothing changes, a file is taken as the loaders take it. -/
theorem run_takeFile (env : Env) : (takeFile absent read path).run env.files =
    (ApplicationConfigLoader.takeFile env read path).map (·.getD absent) := by
  unfold ApplicationConfigLoader.takeFile
  rw [← Inquiry.along_const _ 0]
  cases there : (env.files path).pathExists with
  | false => simp [takeFile, there, Except.map]
  | true =>
    cases examined : (env.files path).metadata with
    | error e => simp [takeFile, there, examined, Except.map]
    | ok len =>
      by_cases large : len > maxConfigFileBytes
      · simp [takeFile, there, examined, large, Except.map]
      · cases opened : (env.files path).readToString with
        | error e => simp [takeFile, there, examined, large, opened, Except.map]
        | ok text =>
          cases parsed : read text <;>
            simp [takeFile, there, examined, large, opened, parsed, Except.map]

end Taking

section Search
variable {β : Type} {rest : Option String → Looking β} {own : String → Prop}
  {timeline : Nat → String → FileState} {id : String} {dirs : List String}

/-- Looking for a tenant's file, and going on with it. -/
theorem tenantPath_bind (dir : String) :
    (Looking.tenantPath id (dir :: dirs) >>= rest) = .ask (tenantFile id dir) fun there =>
      if there.pathExists then rest (some (tenantFile id dir))
      else Looking.tenantPath id dirs >>= rest := by
  refine congrArg (Inquiry.ask (tenantFile id dir)) (funext fun there => ?_)
  change ((ite _ _ _ : Looking (Option String)) >>= rest) = _
  by_cases held : there.pathExists
  · rw [if_pos held, if_pos held]
    rfl
  · rw [if_neg held, if_neg held]

/-- What goes on with a file that was found asks about that file only. -/
theorem search_asks (none_done : ∃ r, rest none = .done r)
    (asks : ∀ path, (rest (some path)).Asks (· = path)) :
    (Looking.tenantPath id dirs >>= rest).Asks fun path => ∃ dir ∈ dirs, path = tenantFile id dir := by
  induction dirs with
  | nil =>
    obtain ⟨r, same⟩ := none_done
    change (rest none).Asks _
    rw [same]
    exact Inquiry.asks_done r
  | cons dir dirs ih =>
    intro files path asked
    rw [tenantPath_bind, Inquiry.asked, List.mem_cons] at asked
    rcases asked with rfl | asked
    · exact ⟨dir, List.mem_cons_self, rfl⟩
    · split at asked
      · exact ⟨dir, List.mem_cons_self, asks _ files path asked⟩
      · obtain ⟨other, member, same⟩ := ih files path asked
        exact ⟨other, List.mem_cons_of_mem dir member, same⟩

/-- In calm moments a tenant's file that was found is there when it is taken. -/
theorem search_serial (none_done : ∃ r, rest none = .done r)
    (taken : ∀ path, own path → (rest (some path)).Serial timeline (Calm own timeline))
    (asks : ∀ path, (rest (some path)).Asks (· = path))
    (distinct : (dirs.map (tenantFile id)).Nodup) (mine : ∀ dir ∈ dirs, own (tenantFile id dir)) :
    (Looking.tenantPath id dirs >>= rest).Serial timeline (Calm own timeline) := by
  induction dirs with
  | nil =>
    obtain ⟨r, same⟩ := none_done
    change (rest none).Serial _ _
    rw [same]
    exact Inquiry.Serial.done r
  | cons dir dirs ih =>
    rw [List.map_cons, List.nodup_cons] at distinct
    intro n quiet
    rw [tenantPath_bind] at quiet ⊢
    have here : own (tenantFile id dir) := mine dir List.mem_cons_self
    cases there : (timeline n (tenantFile id dir)).pathExists with
    | true =>
      simp only [Inquiry.along, Inquiry.run, there, if_true] at quiet ⊢
      obtain ⟨answer, given, same⟩ := taken (tenantFile id dir) here (n + 1) fun k after before =>
        quiet k (Nat.le_of_succ_le after) before
      obtain ⟨k, after, before, held⟩ := given (tenantFile id dir)
      have steady := steady_of_calm here
        (fun j started ended => quiet j started (Nat.lt_of_lt_of_le ended before))
        (Nat.le_of_succ_le after)
      refine ⟨answer, fun path => ?_, ?_⟩
      · obtain ⟨k, after, before, held⟩ := given path
        exact ⟨k, Nat.le_of_succ_le after, before, held⟩
      · rw [held, steady.pathExists there, if_pos rfl, same]
    | false =>
      -- This directory's file is looked at once, so it can be missing in the snapshot.
      have fresh : (Looking.tenantPath id dirs >>= rest).Asks (· ≠ tenantFile id dir) := by
        intro answer path asked same
        obtain ⟨other, member, rfl⟩ := search_asks none_done asks answer path asked
        exact distinct.1 (List.mem_map.mpr ⟨other, member, same⟩)
      have goes_on : (if (timeline n (tenantFile id dir)).pathExists
          then rest (some (tenantFile id dir)) else Looking.tenantPath id dirs >>= rest) =
          (Looking.tenantPath id dirs >>= rest) := by simp [there]
      rw [Inquiry.along, goes_on] at quiet ⊢
      obtain ⟨answer, given, same⟩ := ih distinct.2
        (fun other member => mine other (List.mem_cons_of_mem dir member)) (n + 1)
        fun k after before => quiet k (Nat.le_of_succ_le after) before
      refine ⟨_, given.update (tenantFile id dir), ?_⟩
      rw [Inquiry.run_ask_update (by rwa [goes_on]), goes_on, same]

end Search

section Programs
variable [Platform] (deps : LoaderDeps) (var : String → Option String)
  (loader : ApplicationConfigLoader)

/-- `load`. -/
def load : Looking RuntimeConfig := do
  let cfg ← base deps loader
  .done (applyEnv (.ofVars var) cfg)

/-- One directory of `load_section`. -/
def mergeSection (key : String) (merged : Value) (path : String) : Looking Value :=
  takeFile merged (fun text => (readTable deps text).map (overSection key merged)) path

/-- `load_section`, into a type with this deserialisation and default. -/
def loadSection {T : Type} (de : Value → Except String T) (default : T) (key : String) :
    Looking T := do
  let merged ← loader.configDirs.foldlM
    (fun merged dir => mergeSection deps key merged (applicationFile dir)) (.table [])
  .done (ofMerged de default merged)

variable {deps var loader} {own : String → Prop} {timeline : Nat → String → FileState} {env : Env}
  {id key : String}

theorem run_load : (load deps env.var loader).run env.files = loader.load deps env := by
  unfold load ApplicationConfigLoader.load base ApplicationConfigLoader.base
  rw [Inquiry.run_bind, Inquiry.run_foldlM]
  simp only [run_applyFileIfExists]
  rfl

theorem run_mergeSection (merged : Value) (path : String) :
    (mergeSection deps key merged path).run env.files =
      ApplicationConfigLoader.mergeSection deps env key merged path := by
  rw [mergeSection, run_takeFile, mergeSection_eq]
  unfold ApplicationConfigLoader.takeFile
  cases env.files path with
  | missing | notExaminable e => rfl
  | file len text =>
    simp only [pathExists, metadata, readToString, if_true]
    by_cases large : len > maxConfigFileBytes
    · simp only [large, if_true]
      rfl
    · simp only [large, if_false]
      cases text with
      | error e => rfl
      | ok text => cases parsed : readTable deps text <;> simp [Except.map, parsed]

theorem run_loadSection {T : Type} (de : Value → Except String T) (default : T) :
    (loadSection deps loader de default key).run env.files =
      loader.loadSection deps env de default key := by
  unfold loadSection ApplicationConfigLoader.loadSection
  rw [Inquiry.run_bind, Inquiry.run_foldlM]
  simp only [run_mergeSection]
  rfl

/-- A load for a tenant, once its file was looked for. -/
def overTenantFile (deps : LoaderDeps) (var : String → Option String) (id : String)
    (cfg : RuntimeConfig) (found : Option String) : Looking RuntimeConfig := do
  let path ← .done (match found with
    | some p => .ok p
    | none => .error (.unknownTenant id))
  let cfg ← Looking.applyFileIfExists deps cfg path
  let cfg ← .done (applyEnv (.ofVars var) cfg)
  return { cfg with tenantId := cfg.tenantId.or (some id) }

theorem loadForTenant_eq : Looking.loadForTenant deps var loader id =
    (.done (validateTenantId id) >>= fun _ => base deps loader >>= fun cfg =>
      Looking.tenantPath id loader.configDirs.reverse >>= overTenantFile deps var id cfg) := rfl

theorem overTenantFile_asks (cfg : RuntimeConfig) (path : String) :
    (overTenantFile deps var id cfg (some path)).Asks (· = path) :=
  takeFile_asks.bind fun _ => (Inquiry.asks_done _).bind fun _ => Inquiry.asks_pure _

theorem overTenantFile_serial (cfg : RuntimeConfig) (path : String) (mine : own path) :
    (overTenantFile deps var id cfg (some path)).Serial timeline (Calm own timeline) := by
  apply (takeFile_serial mine).bind takeFile_asks
  · intro cfg
    exact Inquiry.Serial.done_bind fun labelled => Inquiry.Serial.done _
  · intro cfg
    exact (Inquiry.asks_done _).bind fun labelled => Inquiry.asks_pure _

theorem base_asks : (base deps loader).Asks (ChainFile loader) := by
  apply Inquiry.Asks.foldlM
  intro dir member cfg answer path asked
  exact ⟨dir, member, takeFile_asks answer path asked⟩

theorem base_serial (distinct : (loader.configDirs.map applicationFile).Nodup)
    (mine : ∀ path, ChainFile loader path → own path) :
    (base deps loader).Serial timeline (Calm own timeline) :=
  Inquiry.Serial.foldlM (fun dir member _ => takeFile_serial (mine _ ⟨dir, member, rfl⟩))
    (fun _ _ _ => takeFile_asks) distinct _

theorem load_serial (distinct : (loader.configDirs.map applicationFile).Nodup) :
    (load deps var loader).Serial timeline (Calm (ChainFile loader) timeline) :=
  (base_serial distinct fun _ => id).bind base_asks (fun _ => Inquiry.Serial.done _) fun _ => Inquiry.asks_done _

theorem loadSection_serial {T : Type} {de : Value → Except String T} {default : T}
    (distinct : (loader.configDirs.map applicationFile).Nodup) :
    (loadSection deps loader de default key).Serial timeline (Calm (ChainFile loader) timeline) := by
  have chain (merged : Value) : (loader.configDirs.foldlM (fun merged dir =>
      mergeSection deps key merged (applicationFile dir)) merged).Serial timeline
        (Calm (ChainFile loader) timeline) :=
    Inquiry.Serial.foldlM (fun dir member _ => takeFile_serial ⟨dir, member, rfl⟩)
      (fun _ _ _ => takeFile_asks) distinct merged
  exact (chain (.table [])).bind (P := fun _ => True) (fun _ _ _ => trivial)
    (fun _ => Inquiry.Serial.done _) fun _ => Inquiry.asks_done _

theorem loadForTenant_serial (distinct : (loader.configDirs.map applicationFile).Nodup)
    (tenants : (loader.configDirs.map (tenantFile id)).Nodup)
    (apart : ∀ dir ∈ loader.configDirs, ∀ dir' ∈ loader.configDirs,
      applicationFile dir ≠ tenantFile id dir') :
    (Looking.loadForTenant deps var loader id).Serial timeline (Calm (OwnFile loader id) timeline) := by
  have reversed : (loader.configDirs.reverse.map (tenantFile id)).Nodup := by
    rw [List.map_reverse]
    exact List.nodup_reverse.mpr tenants
  have unknown (cfg : RuntimeConfig) : ∃ r, overTenantFile deps var id cfg none = .done r :=
    ⟨.error (.unknownTenant id), rfl⟩
  rw [loadForTenant_eq]
  apply Inquiry.Serial.done_bind
  intro _
  have chain (path) : ChainFile loader path → OwnFile loader id path := by
    rintro ⟨dir, member, same⟩
    exact ⟨dir, member, .inl same⟩
  apply (base_serial distinct chain).bind base_asks
  · intro cfg
    refine search_serial (unknown cfg) (overTenantFile_serial cfg) (overTenantFile_asks cfg)
      reversed ?_
    intro dir member
    exact ⟨dir, List.mem_reverse.mp member, .inr rfl⟩
  · rintro cfg answer path asked ⟨dir, member, same⟩
    obtain ⟨dir', member', same'⟩ := search_asks (unknown cfg) (overTenantFile_asks cfg) answer path asked
    exact apart dir member dir' (List.mem_reverse.mp member') (same.symm.trans same')

end Programs

end Looking

section Overlapping
variable [Platform] {own : String → Prop} {timeline : Nat → String → FileState}
  {var : String → Option String} {loader : ApplicationConfigLoader} {id : String} {β : Type}

/-- Other processes may replace the files of a load while it runs. -/
structure OverlapsSafely (own : String → Prop) (timeline : Nat → String → FileState)
    (var : String → Option String) (m : Looking β) (load : Env → Except ConfigError β) : Prop where
  /-- The program is the load. -/
  loads : ∀ env, env.var = var → m.run env.files = load env
  /-- Through calm moments, the load comes to what it comes to in an environment in which
  each file is as it was at a moment of the load. -/
  serial : (∀ k < (m.along timeline 0).2, Calm own timeline k) → ∃ env : Env, env.var = var ∧
    Inquiry.Between timeline 0 (m.along timeline 0).2 env.files ∧ load env = (m.along timeline 0).1

omit [Platform] in
theorem OverlapsSafely.of_serial {m : Looking β} {load : Env → Except ConfigError β}
    (loads : ∀ env, env.var = var → m.run env.files = load env)
    (serial : m.Serial timeline (Calm own timeline)) : OverlapsSafely own timeline var m load where
  loads := loads
  serial quiet := by
    obtain ⟨files, given, same⟩ := serial 0 fun k _ before => quiet k before
    exact ⟨⟨files, var, none⟩, rfl, given, (loads ⟨files, var, none⟩ rfl).symm.trans same⟩

omit [Platform] in
/-- Files whose paths determine the directory are distinct where the directories are. -/
theorem nodup_of_components {file : String → String}
    (distinct : (loader.configDirs.map Rust.components).Nodup)
    (determines : ∀ dir dir', file dir = file dir' → Rust.components dir = Rust.components dir') :
    (loader.configDirs.map file).Nodup := by
  apply (List.Nodup.of_map _ distinct).map_on
  intro dir member dir' member' same
  exact List.inj_on_of_nodup_map distinct member member' (determines dir dir' same)

omit [Platform] in
theorem applicationFiles_nodup (distinct : (loader.configDirs.map Rust.components).Nodup) :
    (loader.configDirs.map applicationFile).Nodup := by
  have name : Rust.IsFileName "application.toml" := by decide
  apply nodup_of_components distinct
  intro dir dir' same
  have parts := congrArg Rust.components same
  rw [applicationFile, applicationFile, Rust.components_joinPath dir name,
    Rust.components_joinPath dir' name] at parts
  exact List.append_cancel_right parts

omit [Platform] in
theorem tenantFiles_nodup (accepted : AcceptedId id)
    (distinct : (loader.configDirs.map Rust.components).Nodup) :
    (loader.configDirs.map (tenantFile id)).Nodup := by
  have tenants : Rust.IsFileName "tenants" := by decide
  apply nodup_of_components distinct
  intro dir dir' same
  have parts := congrArg Rust.components same
  rw [components_tenantFile accepted, components_tenantFile accepted,
    Rust.components_joinPath dir tenants, Rust.components_joinPath dir' tenants] at parts
  exact List.append_cancel_right (List.append_cancel_right parts)

/-- A load that overlaps changes of its files, in a chain of distinct directories: as long
as none of its files is removed or outgrows the limit from one look to the next, it comes to
what it comes to where nothing changes, over files as they were while it ran. -/
theorem overlapping_loads_are_serial (deps : LoaderDeps) (loader : ApplicationConfigLoader)
    (timeline : Nat → String → FileState) (var : String → Option String) (id key : String)
    {T : Type} (de : Value → Except String T) (default : T)
    (distinct : (loader.configDirs.map Rust.components).Nodup)
    (outside : id = "application" → ∀ dir ∈ loader.configDirs, ∀ dir' ∈ loader.configDirs,
      Rust.components dir ≠ Rust.components dir' ++ ["tenants"]) :
    OverlapsSafely (ChainFile loader) timeline var (Looking.load deps var loader)
      (loader.load deps) ∧
    OverlapsSafely (OwnFile loader id) timeline var (Looking.loadForTenant deps var loader id)
      (loader.loadForTenant deps · id) ∧
    OverlapsSafely (ChainFile loader) timeline var (Looking.loadSection deps loader de default key)
      (loader.loadSection deps · de default key) := by
  have files := applicationFiles_nodup distinct
  refine ⟨.of_serial ?_ (Looking.load_serial files), .of_serial ?_ ?_,
    .of_serial ?_ (Looking.loadSection_serial files)⟩
  · rintro env rfl
    exact Looking.run_load
  · rintro env rfl
    exact run_loadForTenant id
  · by_cases accepted : AcceptedId id
    · refine Looking.loadForTenant_serial files (tenantFiles_nodup accepted distinct) ?_
      intro dir member dir' member' same
      obtain ⟨named, nested⟩ := application_of_same_file accepted (congrArg Rust.components same)
      exact outside named dir member dir' member' nested
    · rw [Looking.loadForTenant_eq, validateTenantId_eq, if_neg accepted]
      exact Inquiry.Serial.done _
  · rintro env rfl
    exact Looking.run_loadSection de default

end Overlapping

end ApplicationConfigLoader

section Reference
open ApplicationConfigLoader

attribute [local instance] Platform.reference

/-- A file that another is moved over, after two looks at it. -/
def replacedFile (k : Nat) : String → FileState :=
  (Env.holding [("config/application.toml",
    if k < 2 then "service_name = \"edge\"\n" else "http_bind = \"0.0.0.0:80\"\n")] []).files

theorem calm_replacedFile (own : String → Prop) (k : Nat) : Calm own replacedFile k := by
  intro path _ len examined
  by_cases same : path = "config/application.toml"
  · subst same
    refine ⟨_, rfl, fun _ => ?_⟩
    split <;> decide
  · have apart : (path == "config/application.toml") = false := by simpa using same
    simp [replacedFile, Env.holding, List.lookup_cons, apart, FileState.metadata] at examined

theorem overlapping_loads_are_serial_replaced :
    let loader := ApplicationConfigLoader.withDir "config"
    let deps := LoaderDeps.parsing tenantDocuments
    (∀ own k, Calm own replacedFile k) ∧
    OverlapsSafely (ChainFile loader) replacedFile (fun _ => none)
      (Looking.load deps (fun _ => none) loader) (loader.load deps) ∧
    OverlapsSafely (OwnFile loader "acme") replacedFile (fun _ => none)
      (Looking.loadForTenant deps (fun _ => none) loader "acme") (loader.loadForTenant deps · "acme") ∧
    OverlapsSafely (ChainFile loader) replacedFile (fun _ => none)
      (Looking.loadSection deps loader (fun _ => .ok ()) () "observability")
      (loader.loadSection deps · (fun _ => .ok ()) () "observability") := by
  intro loader deps
  refine ⟨calm_replacedFile, overlapping_loads_are_serial deps loader replacedFile (fun _ => none)
    "acme" "observability" (fun _ => .ok ()) () (by decide) ?_⟩
  intro named
  revert named
  decide

/-- A tenant's file that is removed once it was found is passed over in silence. -/
example :
    ((Looking.loadForTenant (.parsing tenantDocuments) (fun _ => none) (.withDir "conf")
      "acme").along (fun k => if k < 2 then soleTenant.files else fun _ => .missing) 0).1 =
      .ok { RuntimeConfig.default with tenantId := some "acme" } := rfl

end Reference

end EdgeBootstrap
