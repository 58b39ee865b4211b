import EdgeBootstrap.Config.Layers

/-! One section read in two ways. `load` deserialises a section of each layer,
defaults filled in, and lets the last one replace the others; `load_section`
merges the layers' entries and deserialises once. What a lower layer sets
survives the second and not the first. -/
namespace EdgeBootstrap
open Toml Overlays

/-- The entry of a section under a sub-key. -/
def Toml.subKey (key : String) : Value → Option Value
  | .table s => s.lookup key
  | _ => none

/-- A section as a table that lists each of its keys once. -/
def Toml.IsSection (v : Value) : Prop := ∃ s, v = .table s ∧ (s.map Prod.fst).Nodup

/-- What is set under a sub-key is set by the last layer to have the section, or
is what the layer would have had without. -/
def Survives {T : Type} (de : Value → Except String T) (d : T) (key : String) (layers : List Value) :
    Prop :=
  ∀ v, lastSet (subKey key) layers = some v →
    (layers.getLast?.bind (subKey key)).isSome ∨ de v = .ok d

section Merging
variable {T : Type} {de : Value → Except String T} {d x y : T} {key : String} {layers : List Value}

/-- Merged sections hold under each sub-key what the last layer to set it
does. -/
theorem merged_layers (sections : ∀ v ∈ layers, IsSection v) (b : Table) :
    ∃ m, layers.foldl ApplicationConfigLoader.mergeValues (.table b) = .table m ∧
      ∀ key, m.lookup key = (lastSet (subKey key) layers).or (b.lookup key) := by
  induction layers generalizing b with
  | nil => exact ⟨b, rfl, fun _ => rfl⟩
  | cons v layers ih =>
    obtain ⟨s, rfl, distinct⟩ := sections v List.mem_cons_self
    obtain ⟨m, folded, held⟩ := ih (fun w member => sections w (List.mem_cons_of_mem _ member))
      (s.foldl (fun t entry => Entries.insert entry.1 entry.2 t) b)
    refine ⟨m, folded, fun key => ?_⟩
    rw [held key, Entries.lookup_foldl_insert key distinct, lastSet_cons, Option.or_assoc]
    rfl

/-- Where each layer's field can be read, so can the merged one. -/
theorem fieldOr_merged {m : Table} (held : m.lookup key = lastSet (subKey key) layers)
    (typed : ∀ s, .table s ∈ layers → ∃ x, fieldOr de s key d = .ok x) :
    ∃ y, fieldOr de m key d = .ok y := by
  unfold fieldOr
  rw [held]
  cases set : lastSet (subKey key) layers with
  | none => exact ⟨d, rfl⟩
  | some v =>
    obtain ⟨before, layer, after, rfl, sub, _⟩ := (lastSet_eq_some_iff _ _).mp set
    cases layer with
    | table s =>
      obtain ⟨x, read⟩ := typed s (by simp)
      have present : s.lookup key = some v := sub
      rw [fieldOr, present] at read
      exact ⟨x, read⟩
    | _ => cases sub

/-- The field of the last layer and the merged one agree exactly when what is
set survives. -/
theorem fieldOr_eq_iff {m top : Table} {lower : List Value}
    (held : m.lookup key = lastSet (subKey key) (lower ++ [.table top]))
    (read : fieldOr de top key d = .ok x) (readMerged : fieldOr de m key d = .ok y) :
    x = y ↔ Survives de d key (lower ++ [.table top]) := by
  have last : lastSet (subKey key) (lower ++ [.table top]) =
      (top.lookup key).or (lastSet (subKey key) lower) := by
    rw [lastSet_append]
    rfl
  have ends : ((lower ++ [Value.table top]).getLast?.bind (subKey key)) = top.lookup key := by
    simp [subKey]
  unfold Survives
  rw [ends, last]
  rw [last] at held
  unfold fieldOr at read readMerged
  rw [held] at readMerged
  cases here : top.lookup key with
  | some v =>
    simp only [here, Option.some_or] at read readMerged
    have same : x = y := Except.ok.inj (read.symm.trans readMerged)
    simp [same]
  | none =>
    simp only [here, Option.none_or] at read readMerged ⊢
    cases read
    cases below : lastSet (subKey key) lower with
    | none =>
      simp only [below] at readMerged
      cases readMerged
      simp
    | some v =>
      simp only [below] at readMerged
      simp [readMerged, eq_comm]

/-- A field of the merged layers that each layer and the last one read. -/
theorem fieldOr_agrees {m top : Table} {lower : List Value}
    (held : m.lookup key = lastSet (subKey key) (lower ++ [.table top]))
    (typed : ∀ s, .table s ∈ lower ++ [.table top] → ∃ z, fieldOr de s key d = .ok z)
    (read : fieldOr de top key d = .ok x) :
    ∃ y, fieldOr de m key d = .ok y ∧ (x = y ↔ Survives de d key (lower ++ [.table top])) := by
  obtain ⟨y, readMerged⟩ := fieldOr_merged held typed
  exact ⟨y, readMerged, fieldOr_eq_iff held read readMerged⟩

end Merging

section
variable [Platform]

namespace ApplicationConfigLoader
open ConfigKey

/-- A file both readers take: nothing there, or a document within the limit that
reads as an overlay, in which no section lists a key twice. -/
def ValidLayer (deps : LoaderDeps) (env : Env) (path : String) : Prop :=
  (env.files path).pathExists = false ∨
    ∃ len text t o, env.files path = .file len (.ok text) ∧ len ≤ maxConfigFileBytes ∧
      deps.toml.parse text = .ok t ∧ ConfigOverride.deserialize deps.serde t = .ok o ∧
      ∀ name s, t.lookup name = some (.table s) → (s.map Prod.fst).Nodup

/-- What the file at a path holds under a key. -/
def sectionAt (deps : LoaderDeps) (env : Env) (name path : String) : Option Value :=
  match env.files path with
  | .file _ (.ok text) =>
    match deps.toml.parse text with
    | .ok t => t.lookup name
    | .error _ => none
  | _ => none

/-- A section in every directory whose `application.toml` has it, lowest
priority first. -/
def layersOf (deps : LoaderDeps) (env : Env) (loader : ApplicationConfigLoader) (name : String) :
    List Value :=
  loader.configDirs.filterMap fun dir => sectionAt deps env name (applicationFile dir)

variable {deps : LoaderDeps} {env : Env} {loader : ApplicationConfigLoader} {name path : String}

/-- A valid file without anything there is no document. -/
private theorem sectionAt_of_absent (absent : (env.files path).pathExists = false) (name : String) :
    sectionAt deps env name path = none := by
  unfold sectionAt
  cases there : env.files path with
  | file len text => simp [there, FileState.pathExists, FileState.metadata] at absent
  | _ => rfl

/-- Neither reader refuses a valid file. -/
theorem not_broken_of_valid (valid : ValidLayer deps env path) :
    ¬ (env.files path).Broken (readOverride deps) ∧ ¬ (env.files path).Broken (readTable deps) := by
  rcases valid with absent | ⟨len, text, t, o, held, small, parsed, read, _⟩
  · rw [FileState.Broken, FileState.Broken, absent]
    simp
  · have override : (env.files path).document (readOverride deps) = some o :=
      FileState.document_eq_some_iff.mpr ⟨len, text, held, small, readOverride_eq_ok.mpr ⟨t, parsed, read⟩⟩
    have table : (env.files path).document (readTable deps) = some t :=
      FileState.document_eq_some_iff.mpr ⟨len, text, held, small, readTable_eq_ok.mpr parsed⟩
    rw [FileState.Broken, FileState.Broken, override, table]
    simp

/-- What a valid file holds under a key is what its table does. -/
theorem sectionAt_of_valid (valid : ValidLayer deps env path) (name : String) :
    sectionAt deps env name path =
      ((env.files path).document (readTable deps)).bind fun t => t.lookup name := by
  have unbroken := (not_broken_of_valid valid).2
  rcases valid with absent | ⟨len, text, t, o, held, small, parsed, _, _⟩
  · rw [sectionAt_of_absent absent, (FileState.document_eq_none_iff unbroken).mpr absent]
    rfl
  · have table : (env.files path).document (readTable deps) = some t :=
      FileState.document_eq_some_iff.mpr ⟨len, text, held, small, readTable_eq_ok.mpr parsed⟩
    simp only [sectionAt, held, parsed] at table ⊢
    rw [table]
    rfl

/-- Over valid files the base can be built. -/
theorem base_of_valid (valid : ∀ dir ∈ loader.configDirs, ValidLayer deps env (applicationFile dir)) :
    ∃ cfg, loader.base deps env = .ok cfg := by
  apply base_fails.iff_succeeded.mpr
  rintro ⟨dir, member, broken⟩
  exact (not_broken_of_valid (valid dir member)).1 broken

/-- Over valid files `load_section` deserialises the layers merged. -/
theorem loadSection_of_valid {T : Type} (de : Value → Except String T) {default : T}
    (valid : ∀ dir ∈ loader.configDirs, ValidLayer deps env (applicationFile dir))
    (plain : Rust.split '.' name = [name]) (empty : de (.table []) = .ok default) :
    loader.loadSection deps env de default name =
      (de ((layersOf deps env loader name).foldl mergeValues (.table []))).mapError .parse := by
  have unbroken : ¬ loader.BrokenLayer env (readTable deps) := by
    rintro ⟨dir, member, broken⟩
    exact (not_broken_of_valid (valid dir member)).2 broken
  obtain ⟨merged, ran⟩ := (layered_fails (overSection name) (.table [])).iff_succeeded.mpr unbroken
  have layers : layersOf deps env loader name =
      (loader.documents env (readTable deps)).filterMap fun t => t.lookup name := by
    rw [layersOf, documents, List.filterMap_filterMap]
    exact List.filterMap_congr fun dir member => sectionAt_of_valid (valid dir member) name
  have extracted (t : Table) : extractDottedValue (.table t) name = t.lookup name := by
    simp [extractDottedValue, plain]
  have folded : merged = (layersOf deps env loader name).foldl mergeValues (.table []) := by
    rw [eq_of_layered _ _ ran, layers, List.foldl_filterMap]
    congr 1
    funext merged t
    rw [overSection, extracted]
    cases t.lookup name <;> rfl
  rw [loadSection_eq, ran, ← folded]
  change ofMerged de default merged = _
  unfold ofMerged
  split
  · rw [empty]
    rfl
  · rfl

/-- What the file at a path sets a key to is made of what it holds under it. -/
theorem setAt_eq_bind (k : ConfigKey) (path : String) :
    k.setAt deps env path = (sectionAt deps env k.name path).bind fun v =>
      match k.ofDocument deps.serde v with
      | .ok set => set
      | .error _ => none := by
  unfold setAt sectionAt
  cases env.files path with
  | file len text =>
    cases text with
    | error e => rfl
    | ok text =>
      cases parsed : deps.toml.parse text with
      | error e => simp only [parsed, Option.bind_none]
      | ok t =>
        simp only [parsed, setBy, setUnder]
        cases t.lookup k.name with
        | none => rfl
        | some v => cases set : k.ofDocument deps.serde v <;> simp only [Option.bind_some, set]
  | _ => rfl

/-- A section that the layers have comes out of `load` as its last layer reads. -/
theorem get_base_of_layers {k : ConfigKey} {cfg : RuntimeConfig} {lower : List Value} {top : Value}
    {x : k.Value} (based : loader.base deps env = .ok cfg)
    (layers : layersOf deps env loader k.name = lower ++ [top])
    (read : k.ofDocument deps.serde top = .ok (some x)) : k.get cfg = x := by
  have chain : lastSet (fun dir => k.setAt deps env (applicationFile dir)) loader.configDirs =
      lastSet (fun v => match k.ofDocument deps.serde v with
        | .ok set => set
        | .error _ => none) (layersOf deps env loader k.name) := by
    rw [layersOf, lastSet_filterMap]
    exact lastSet_congr fun dir _ => setAt_eq_bind k (applicationFile dir)
  rw [get_base based k, chain, layers, lastSet_append, lastSet_cons, lastSet_nil, read]
  rfl

/-- The layers of a section over valid files are tables that deserialise. -/
theorem layersOf_of_valid {T : Type} {de : Value → Except String T} {v : Value}
    (valid : ∀ dir ∈ loader.configDirs, ValidLayer deps env (applicationFile dir))
    (overlaid : ∀ t o, ConfigOverride.deserialize deps.serde t = .ok o →
      ∃ x : Option T, field de t name = .ok x)
    (tables : ∀ w x, de w = .ok x → ∃ s, w = .table s)
    (layer : v ∈ layersOf deps env loader name) : IsSection v ∧ ∃ x, de v = .ok x := by
  obtain ⟨dir, member, held⟩ := List.mem_filterMap.mp layer
  rcases valid dir member with absent | ⟨len, text, t, o, file, _, parsed, read, distinct⟩
  · rw [sectionAt_of_absent absent] at held
    cases held
  · simp only [sectionAt, file, parsed] at held
    obtain ⟨x, entry⟩ := overlaid t o read
    simp only [field, held] at entry
    cases readable : de v with
    | error e =>
      rw [readable] at entry
      cases entry
    | ok y =>
      obtain ⟨s, rfl⟩ := tables v y readable
      exact ⟨⟨s, rfl, distinct name s held⟩, y, rfl⟩

end ApplicationConfigLoader

/-- A metrics section that can be read is a table whose entries can. -/
theorem MetricsConfig.of_de {serde : Serde} {v : Value} {c : MetricsConfig}
    (read : MetricsConfig.de serde v = .ok c) :
    ∃ s, v = .table s ∧ fieldOr (deString serde.mismatch) s "bind" "0.0.0.0:9090" = .ok c.bind ∧
      fieldOr (deString serde.mismatch) s "path" "/metrics" = .ok c.path := by
  cases v with
  | table s =>
    simp only [MetricsConfig.de, Except.bind_eq_ok] at read
    obtain ⟨_, bind, _, path, returned⟩ := read
    cases returned
    exact ⟨s, rfl, bind, path⟩
  | _ => cases read

/-- An autoscale section that can be read is a table whose entries can. -/
theorem AutoscalePolicy.of_de {serde : Serde} {v : Value} {c : AutoscalePolicy}
    (read : AutoscalePolicy.de serde v = .ok c) :
    ∃ s, v = .table s ∧
      fieldOr (deU64 serde.mismatch) s "requests_active_max" 500 = .ok c.requestsActiveMax ∧
      fieldOr (deU64 serde.mismatch) s "requests_per_sec_max" 1000 = .ok c.requestsPerSecMax ∧
      fieldOr (deF64 serde.mismatch serde.floatOfInt) s "latency_p99_ms_max"
        AutoscalePolicy.latencyDefault = .ok c.latencyP99MsMax := by
  cases v with
  | table s =>
    simp only [AutoscalePolicy.de, Except.bind_eq_ok] at read
    obtain ⟨_, active, _, rate, _, latency, returned⟩ := read
    cases returned
    exact ⟨s, rfl, active, rate, latency⟩
  | _ => cases read

namespace ApplicationConfigLoader
open ConfigKey
variable {deps : LoaderDeps} {env : Env} {loader : ApplicationConfigLoader} {cfg : RuntimeConfig}

/-- Over valid files that have a section, both readers go by its layers: `load`
by the last, `load_section` by all of them merged. -/
theorem readers_of_valid {T : Type} {de : Value → Except String T} (default : T) {name : String}
    (valid : ∀ dir ∈ loader.configDirs, ValidLayer deps env (applicationFile dir))
    (plain : Rust.split '.' name = [name]) (empty : de (.table []) = .ok default)
    (overlaid : ∀ t o, ConfigOverride.deserialize deps.serde t = .ok o →
      ∃ x : Option T, field de t name = .ok x)
    (tables : ∀ w x, de w = .ok x → ∃ s, w = .table s)
    (defined : layersOf deps env loader name ≠ []) :
    ∃ m lower top c, layersOf deps env loader name = lower ++ [.table top] ∧
      de (.table top) = .ok c ∧
      (∀ s, .table s ∈ layersOf deps env loader name → ∃ x, de (.table s) = .ok x) ∧
      (∀ key, m.lookup key = lastSet (subKey key) (layersOf deps env loader name)) ∧
      loader.loadSection deps env de default name = (de (.table m)).mapError .parse := by
  have readable (v) (layer : v ∈ layersOf deps env loader name) : IsSection v ∧ ∃ x, de v = .ok x :=
    layersOf_of_valid valid overlaid tables layer
  obtain ⟨m, merged, held⟩ := merged_layers (fun v layer => (readable v layer).1) []
  rcases List.eq_nil_or_concat (layersOf deps env loader name) with none | ⟨lower, top, layers⟩
  · exact absurd none defined
  rw [List.concat_eq_append] at layers
  obtain ⟨c, read⟩ := (readable top (by simp [layers])).2
  obtain ⟨s, rfl⟩ := tables top c read
  refine ⟨m, lower, s, c, layers, read, fun s layer => (readable _ layer).2, fun key => ?_, ?_⟩
  · simpa using held key
  · rw [loadSection_of_valid de valid plain empty, merged]

/-- Both readers take the metrics section, and agree on it exactly when what is
set survives. -/
theorem metrics_agree (based : loader.base deps env = .ok cfg)
    (valid : ∀ dir ∈ loader.configDirs, ValidLayer deps env (applicationFile dir))
    (defined : layersOf deps env loader "metrics" ≠ []) :
    ∃ v, loader.loadSection deps env (MetricsConfig.de deps.serde) {} "metrics" = .ok v ∧
      (cfg.metrics = some v ↔
        Survives (deString deps.serde.mismatch) "0.0.0.0:9090" "bind"
          (layersOf deps env loader "metrics") ∧
        Survives (deString deps.serde.mismatch) "/metrics" "path"
          (layersOf deps env loader "metrics")) := by
  have overlaid (t o) (read : ConfigOverride.deserialize deps.serde t = .ok o) :
      ∃ x, field (MetricsConfig.de deps.serde) t "metrics" = .ok x := by
    obtain ⟨_, _, _, _, _, _, _, _, _, _, _, _, _, metrics, _⟩ := fields_of_deserialize read
    exact ⟨o.metrics, metrics⟩
  have tables (w c) (read : MetricsConfig.de deps.serde w = .ok c) : ∃ s, w = .table s := by
    obtain ⟨s, table, _⟩ := MetricsConfig.of_de read
    exact ⟨s, table⟩
  obtain ⟨m, lower, top, c, layers, read, readable, held, loaded⟩ :=
    readers_of_valid {} valid (by decide) rfl overlaid tables defined
  have got : cfg.metrics = some c :=
    get_base_of_layers (k := .metrics) based layers (by simp only [ofDocument, read]; rfl)
  rw [layers] at readable held ⊢
  have typed (s) (layer : .table s ∈ lower ++ [.table top]) :
      (∃ x, fieldOr (deString deps.serde.mismatch) s "bind" "0.0.0.0:9090" = .ok x) ∧
        ∃ x, fieldOr (deString deps.serde.mismatch) s "path" "/metrics" = .ok x := by
    obtain ⟨c, read⟩ := readable s layer
    obtain ⟨_, same, bind, path⟩ := MetricsConfig.of_de read
    cases same
    exact ⟨⟨c.bind, bind⟩, c.path, path⟩
  obtain ⟨_, same, top_bind, top_path⟩ := MetricsConfig.of_de read
  cases same
  obtain ⟨bind, merged_bind, bind_iff⟩ :=
    fieldOr_agrees (held "bind") (fun s layer => (typed s layer).1) top_bind
  obtain ⟨path, merged_path, path_iff⟩ :=
    fieldOr_agrees (held "path") (fun s layer => (typed s layer).2) top_path
  refine ⟨⟨bind, path⟩, ?_, ?_⟩
  · rw [loaded, MetricsConfig.de, merged_bind, merged_path]
    rfl
  · rw [got, ← bind_iff, ← path_iff]
    cases c
    simp

/-- The same of the autoscale section. -/
theorem autoscale_agree (based : loader.base deps env = .ok cfg)
    (valid : ∀ dir ∈ loader.configDirs, ValidLayer deps env (applicationFile dir))
    (defined : layersOf deps env loader "autoscale" ≠ []) :
    ∃ v, loader.loadSection deps env (AutoscalePolicy.de deps.serde) {} "autoscale" = .ok v ∧
      (cfg.autoscale = some v ↔
        Survives (deU64 deps.serde.mismatch) 500 "requests_active_max"
          (layersOf deps env loader "autoscale") ∧
        Survives (deU64 deps.serde.mismatch) 1000 "requests_per_sec_max"
          (layersOf deps env loader "autoscale") ∧
        Survives (deF64 deps.serde.mismatch deps.serde.floatOfInt) AutoscalePolicy.latencyDefault
          "latency_p99_ms_max" (layersOf deps env loader "autoscale")) := by
  have overlaid (t o) (read : ConfigOverride.deserialize deps.serde t = .ok o) :
      ∃ x, field (AutoscalePolicy.de deps.serde) t "autoscale" = .ok x := by
    obtain ⟨_, _, _, _, _, _, _, _, _, _, _, _, _, _, autoscale, _⟩ := fields_of_deserialize read
    exact ⟨o.autoscale, autoscale⟩
  have tables (w c) (read : AutoscalePolicy.de deps.serde w = .ok c) : ∃ s, w = .table s := by
    obtain ⟨s, table, _⟩ := AutoscalePolicy.of_de read
    exact ⟨s, table⟩
  obtain ⟨m, lower, top, c, layers, read, readable, held, loaded⟩ :=
    readers_of_valid {} valid (by decide) rfl overlaid tables defined
  have got : cfg.autoscale = some c :=
    get_base_of_layers (k := .autoscale) based layers (by simp only [ofDocument, read]; rfl)
  rw [layers] at readable held ⊢
  have typed (s) (layer : .table s ∈ lower ++ [.table top]) :
      (∃ x, fieldOr (deU64 deps.serde.mismatch) s "requests_active_max" 500 = .ok x) ∧
        (∃ x, fieldOr (deU64 deps.serde.mismatch) s "requests_per_sec_max" 1000 = .ok x) ∧
        ∃ x, fieldOr (deF64 deps.serde.mismatch deps.serde.floatOfInt) s "latency_p99_ms_max"
          AutoscalePolicy.latencyDefault = .ok x := by
    obtain ⟨c, read⟩ := readable s layer
    obtain ⟨_, same, active, rate, latency⟩ := AutoscalePolicy.of_de read
    cases same
    exact ⟨⟨_, active⟩, ⟨_, rate⟩, _, latency⟩
  obtain ⟨_, same, top_active, top_rate, top_latency⟩ := AutoscalePolicy.of_de read
  cases same
  obtain ⟨active, merged_active, active_iff⟩ :=
    fieldOr_agrees (held "requests_active_max") (fun s layer => (typed s layer).1) top_active
  obtain ⟨rate, merged_rate, rate_iff⟩ :=
    fieldOr_agrees (held "requests_per_sec_max") (fun s layer => (typed s layer).2.1) top_rate
  obtain ⟨latency, merged_latency, latency_iff⟩ :=
    fieldOr_agrees (held "latency_p99_ms_max") (fun s layer => (typed s layer).2.2) top_latency
  refine ⟨⟨active, rate, latency⟩, ?_, ?_⟩
  · rw [loaded, AutoscalePolicy.de, merged_active, merged_rate, merged_latency]
    rfl
  · rw [got, ← active_iff, ← rate_iff, ← latency_iff]
    cases c
    simp

/-- Over valid files and without variables, both readers take each section that
a layer has, and agree on it exactly when no sub-key of it is set by a lower
layer alone, to something other than its default. -/
theorem sections_agree_iff (deps : LoaderDeps) (env : Env) (loader : ApplicationConfigLoader)
    (valid : ∀ dir ∈ loader.configDirs, ValidLayer deps env (applicationFile dir))
    (unset : ∀ name : String, "SWE_EDGE_".toList <+: name.toList → env.var name = none) :
    ∃ cfg, loader.load deps env = .ok cfg ∧
      (layersOf deps env loader "metrics" ≠ [] →
        ∃ v, loader.loadSection deps env (MetricsConfig.de deps.serde) {} "metrics" = .ok v ∧
          (cfg.metrics = some v ↔
            Survives (deString deps.serde.mismatch) "0.0.0.0:9090" "bind"
              (layersOf deps env loader "metrics") ∧
            Survives (deString deps.serde.mismatch) "/metrics" "path"
              (layersOf deps env loader "metrics"))) ∧
      (layersOf deps env loader "autoscale" ≠ [] →
        ∃ v, loader.loadSection deps env (AutoscalePolicy.de deps.serde) {} "autoscale" = .ok v ∧
          (cfg.autoscale = some v ↔
            Survives (deU64 deps.serde.mismatch) 500 "requests_active_max"
              (layersOf deps env loader "autoscale") ∧
            Survives (deU64 deps.serde.mismatch) 1000 "requests_per_sec_max"
              (layersOf deps env loader "autoscale") ∧
            Survives (deF64 deps.serde.mismatch deps.serde.floatOfInt)
              AutoscalePolicy.latencyDefault "latency_p99_ms_max"
              (layersOf deps env loader "autoscale"))) := by
  obtain ⟨cfg, based⟩ := base_of_valid valid
  refine ⟨cfg, ?_, metrics_agree based valid, autoscale_agree based valid⟩
  rw [load, based]
  exact applyEnv_of_unset unset cfg

end ApplicationConfigLoader

end

section Reference
open ApplicationConfigLoader

attribute [local instance] Platform.reference

/-- A metrics section with a bind address, and one with a path. -/
def sectionDocuments : List (String × Table) :=
  [("[metrics]\nbind = \"0.0.0.0:90\"\n", [("metrics", .table [("bind", .str "0.0.0.0:90")])]),
    ("[metrics]\npath = \"/stats\"\n", [("metrics", .table [("path", .str "/stats")])])]

/-- Two directories that each set a part of the metrics section. -/
def sectionEnv : Env := .holding
  [("system/application.toml", "[metrics]\nbind = \"0.0.0.0:90\"\n"),
    ("user/application.toml", "[metrics]\npath = \"/stats\"\n")] []

private theorem sectionEnv_valid :
    ∀ dir ∈ serviceLoader.configDirs,
      ValidLayer (.parsing sectionDocuments) sectionEnv (applicationFile dir) := by
  intro dir member
  have cases : dir = "system" ∨ dir = "user" := by simpa [serviceLoader] using member
  have single (key : String) (sub : String) (v : Value) (name : String) (s : Table)
      (held : ([(key, Value.table [(sub, v)])] : Table).lookup name = some (.table s)) :
      (s.map Prod.fst).Nodup := by
    by_cases here : name = key
    · have same : [(sub, v)] = s := by simpa [here] using held
      simp [← same]
    · have differs : (name == key) = false := by simpa using here
      simp [List.lookup_cons, differs] at held
  rcases cases with rfl | rfl
  · exact .inr ⟨_, "[metrics]\nbind = \"0.0.0.0:90\"\n", _, _, rfl, by decide, rfl, rfl,
      single "metrics" "bind" (.str "0.0.0.0:90")⟩
  · exact .inr ⟨_, "[metrics]\npath = \"/stats\"\n", _, _, rfl, by decide, rfl, rfl,
      single "metrics" "path" (.str "/stats")⟩

theorem sections_agree_iff_partial :
    ∃ cfg, serviceLoader.load (.parsing sectionDocuments) sectionEnv = .ok cfg ∧
      (layersOf (.parsing sectionDocuments) sectionEnv serviceLoader "metrics" ≠ [] →
        ∃ v, serviceLoader.loadSection (.parsing sectionDocuments) sectionEnv
            (MetricsConfig.de .reference) {} "metrics" = .ok v ∧
          (cfg.metrics = some v ↔
            Survives (deString Serde.reference.mismatch) "0.0.0.0:9090" "bind"
              (layersOf (.parsing sectionDocuments) sectionEnv serviceLoader "metrics") ∧
            Survives (deString Serde.reference.mismatch) "/metrics" "path"
              (layersOf (.parsing sectionDocuments) sectionEnv serviceLoader "metrics"))) := by
  obtain ⟨cfg, loaded, metrics, _⟩ := sections_agree_iff (.parsing sectionDocuments) sectionEnv
    serviceLoader sectionEnv_valid (fun _ _ => rfl)
  exact ⟨cfg, loaded, metrics⟩

/-- The bind address that the lower directory alone sets is lost by `load` and
not by `load_section`. -/
theorem lower_section_entry_lost :
    (∀ dir ∈ serviceLoader.configDirs,
      ValidLayer (.parsing sectionDocuments) sectionEnv (applicationFile dir)) ∧
    ∃ cfg v, serviceLoader.load (.parsing sectionDocuments) sectionEnv = .ok cfg ∧
      serviceLoader.loadSection (.parsing sectionDocuments) sectionEnv (MetricsConfig.de .reference)
        {} "metrics" = .ok v ∧
      cfg.metrics ≠ some v := by
  refine ⟨sectionEnv_valid, { RuntimeConfig.default with metrics := some { path := "/stats" } },
    { bind := "0.0.0.0:90", path := "/stats" }, rfl, rfl, ?_⟩
  decide

end Reference

end EdgeBootstrap
