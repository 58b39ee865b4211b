import EdgeBootstrap.Config.DottedSections
import EdgeBootstrap.Config.FailClosed

/-! Chains that list a directory more than once, as `XDG_CONFIG_DIRS` may, or an
explicit directory that is also the user's. A layer hides what the same layer did
earlier, so the directory counts where it is listed last and nowhere else. -/
namespace EdgeBootstrap
open Toml Overlays

namespace ApplicationConfigLoader

/-- Every table this value is has its keys in order. -/
def KeysOrdered (v : Value) : Prop := ∀ t, v = .table t → Entries.Ordered t

section Merging
variable {m a b : Value}

/-- What is merged over a value: the value itself, unless both are tables. -/
theorem mergeValues_of_not_table (overlay : ∀ t, a ≠ .table t) : mergeValues m a = a := by
  cases a with
  | table t => exact absurd rfl (overlay t)
  | _ => cases m <;> rfl

theorem keysOrdered_mergeValues (base : KeysOrdered m) (overlay : KeysOrdered a) :
    KeysOrdered (mergeValues m a) := by
  cases m with
  | table t =>
    cases a with
    | table s =>
      intro u same
      cases same
      exact (base t rfl).foldl_insert s
    | _ => exact overlay
  | _ => exact overlay

private theorem lookup_merged {t s : Table} (ordered : Entries.Ordered s) (k : String) :
    (s.foldl (fun t entry => Entries.insert entry.1 entry.2 t) t).lookup k =
      (s.lookup k).or (t.lookup k) := Entries.lookup_foldl_insert k ordered.nodup t

/-- A merged table hides its own earlier merging, whatever is merged between. -/
theorem mergeValues_under (base : KeysOrdered m) (own : KeysOrdered a) (between : KeysOrdered b) :
    mergeValues (mergeValues (mergeValues m a) b) a = mergeValues (mergeValues m b) a := by
  by_cases replaces : ∀ r, b ≠ .table r
  · rw [mergeValues_of_not_table replaces, mergeValues_of_not_table replaces]
  by_cases last : ∀ s, a ≠ .table s
  · rw [mergeValues_of_not_table last, mergeValues_of_not_table last]
  push Not at replaces last
  obtain ⟨r, rfl⟩ := replaces
  obtain ⟨s, rfl⟩ := last
  have ordered := own s rfl
  have inner := between r rfl
  cases m with
  | table t =>
    have start := base t rfl
    refine congrArg Value.table (Entries.Ordered.ext ?_ ?_ fun k => ?_)
    · exact ((start.foldl_insert s).foldl_insert r).foldl_insert s
    · exact (start.foldl_insert r).foldl_insert s
    · simp only [lookup_merged ordered, lookup_merged inner]
      cases s.lookup k <;> simp
  | _ =>
    refine congrArg Value.table (Entries.Ordered.ext ?_ ?_ fun k => ?_)
    · exact (ordered.foldl_insert r).foldl_insert s
    · exact inner.foldl_insert s
    · simp only [lookup_merged ordered, lookup_merged inner]
      cases s.lookup k <;> simp

theorem mergeValues_again (base : KeysOrdered m) (own : KeysOrdered a) :
    mergeValues (mergeValues m a) a = mergeValues m a := by
  by_cases last : ∀ s, a ≠ .table s
  · rw [mergeValues_of_not_table last, mergeValues_of_not_table last]
  push Not at last
  obtain ⟨s, rfl⟩ := last
  have ordered := own s rfl
  cases m with
  | table t =>
    refine congrArg Value.table (Entries.Ordered.ext ?_ ?_ fun k => ?_)
    · exact ((base t rfl).foldl_insert s).foldl_insert s
    · exact (base t rfl).foldl_insert s
    · simp only [lookup_merged ordered]
      cases s.lookup k <;> simp
  | _ =>
    refine congrArg Value.table (Entries.Ordered.ext (ordered.foldl_insert s) ordered fun k => ?_)
    rw [lookup_merged ordered, Option.or_self]

end Merging

variable {σ β : Type} {put : σ → β → σ} {start : σ} {env : Env} {loader : ApplicationConfigLoader}
  {read : String → Except ConfigError β}

/-- The chain with each directory where it is listed last. -/
def once (loader : ApplicationConfigLoader) : ApplicationConfigLoader := ⟨loader.configDirs.dedup⟩

/-- What the file of a directory makes of what the ones before it made. -/
def overFile (put : σ → β → σ) (env : Env) (read : String → Except ConfigError β) (s : σ) (dir : String) :
    σ := ((env.files (applicationFile dir)).document read).elim s (put s)

/-- A chain is read when none of its files is broken, and makes what they make one over
the other. -/
theorem layered_eq_ok {s : σ} : layered put start env loader read = .ok s ↔
    ¬ loader.BrokenLayer env read ∧ s = loader.configDirs.foldl (overFile put env read) start := by
  have made (s : σ) (ran : layered put start env loader read = .ok s) :
      s = loader.configDirs.foldl (overFile put env read) start := by
    rw [eq_of_layered put start ran, documents, List.foldl_filterMap]
    congr 1
    funext s dir
    unfold overFile
    cases (env.files (applicationFile dir)).document read <;> rfl
  constructor
  · intro ran
    exact ⟨(layered_fails put start).iff_succeeded.mp ⟨s, ran⟩, made s ran⟩
  · rintro ⟨unbroken, rfl⟩
    obtain ⟨s, ran⟩ := (layered_fails put start).iff_succeeded.mpr unbroken
    rw [ran, made s ran]

theorem brokenLayer_once : loader.once.BrokenLayer env read ↔ loader.BrokenLayer env read := by
  simp [BrokenLayer, once]

theorem layered_once {P : σ → Prop} (absorbing : Absorbing P (overFile put env read)) (first : P start) :
    (layered put start env loader.once read).toOption = (layered put start env loader read).toOption := by
  have same : loader.once.configDirs.foldl (overFile put env read) start =
      loader.configDirs.foldl (overFile put env read) start := absorbing.foldl_dedup _ first
  ext s
  rw [Except.toOption_eq_some_iff, Except.toOption_eq_some_iff, layered_eq_ok, layered_eq_ok, brokenLayer_once, same]

theorem tenantPath_once (id : String) : loader.once.tenantPath env id = loader.tenantPath env id := by
  rw [tenantPath_eq, tenantPath_eq, findSome?_reverse, findSome?_reverse]
  exact lastSet_dedup _

end ApplicationConfigLoader

section
variable [Platform]

/-- An overlay hides its own earlier application, whatever is applied between. -/
theorem ConfigOverride.applyTo_under (o p : ConfigOverride) (base : RuntimeConfig) :
    o.applyTo (p.applyTo (o.applyTo base)) = o.applyTo (p.applyTo base) := by
  have plain {T : Type} (x y : Option T) (z : T) : x.getD (y.getD (x.getD z)) = x.getD (y.getD z) := by
    cases x <;> rfl
  have optional {T : Type} (x y z : Option T) : x.or (y.or (x.or z)) = x.or (y.or z) := by
    cases x <;> simp
  have tenant : (o.applyTo (p.applyTo (o.applyTo base))).tenantId = (o.applyTo (p.applyTo base)).tenantId := by
    cases given : o.tenantId with
    | none => simp [applyTo, given]
    | some id => by_cases empty : id = "" <;> simp [applyTo, given, empty]
  simp only [applyTo] at tenant ⊢
  simp only [plain, optional, tenant]

theorem ConfigOverride.applyTo_again (o : ConfigOverride) (base : RuntimeConfig) :
    o.applyTo (o.applyTo base) = o.applyTo base := by
  have plain {T : Type} (x : Option T) (z : T) : x.getD (x.getD z) = x.getD z := by cases x <;> rfl
  have optional {T : Type} (x z : Option T) : x.or (x.or z) = x.or z := by cases x <;> simp
  have tenant : (o.applyTo (o.applyTo base)).tenantId = (o.applyTo base).tenantId := by
    cases given : o.tenantId with
    | none => simp [applyTo, given]
    | some id => by_cases empty : id = "" <;> simp [applyTo, given, empty]
  simp only [applyTo] at tenant ⊢
  simp only [plain, optional, tenant]

namespace ApplicationConfigLoader
variable {deps : LoaderDeps} {env : Env} {loader : ApplicationConfigLoader}

theorem absorbing_override : Absorbing (fun _ => True)
    (overFile (fun cfg (o : ConfigOverride) => o.applyTo cfg) env (readOverride deps)) where
  keeps _ _ _ := trivial
  again cfg dir _ := by
    unfold overFile
    cases (env.files (applicationFile dir)).document (readOverride deps) with
    | none => rfl
    | some o => exact o.applyTo_again cfg
  under cfg dir dir' _ := by
    unfold overFile
    cases (env.files (applicationFile dir)).document (readOverride deps) with
    | none => rfl
    | some o =>
      cases (env.files (applicationFile dir')).document (readOverride deps) with
      | none => exact o.applyTo_again cfg
      | some p => exact o.applyTo_under p cfg

omit [Platform] in
/-- The section of a document whose tables have their keys in order. -/
theorem keysOrdered_of_extract {t : Table} {key : String} {v : Value} (ordered : InKeyOrder t)
    (extracted : extractDottedValue (.table t) key = some v) : KeysOrdered v := by
  rintro s rfl
  exact ordered (Rust.split '.' key) s extracted

theorem absorbing_section (ordered : ∀ text t, deps.toml.parse text = .ok t → InKeyOrder t)
    (key : String) : Absorbing KeysOrdered (overFile (overSection key) env (readTable deps)) := by
  have sections (dir : String) (t : Table)
      (held : (env.files (applicationFile dir)).document (readTable deps) = some t) (v : Value)
      (extracted : extractDottedValue (.table t) key = some v) : KeysOrdered v := by
    obtain ⟨_, text, _, _, read⟩ := FileState.document_eq_some_iff.mp held
    exact keysOrdered_of_extract (ordered text t (readTable_eq_ok.mp read)) extracted
  constructor
  · intro m dir first
    unfold overFile
    cases held : (env.files (applicationFile dir)).document (readTable deps) with
    | none => exact first
    | some t =>
      simp only [Option.elim, overSection]
      cases extracted : extractDottedValue (.table t) key with
      | none => exact first
      | some v => exact keysOrdered_mergeValues first (sections dir t held v extracted)
  · intro m dir first
    unfold overFile
    cases held : (env.files (applicationFile dir)).document (readTable deps) with
    | none => rfl
    | some t =>
      simp only [Option.elim, overSection]
      cases extracted : extractDottedValue (.table t) key with
      | none => rfl
      | some v => exact mergeValues_again first (sections dir t held v extracted)
  · intro m dir dir' first
    unfold overFile
    cases held : (env.files (applicationFile dir)).document (readTable deps) with
    | none => rfl
    | some t =>
      simp only [Option.elim, overSection]
      cases extracted : extractDottedValue (.table t) key with
      | none => rfl
      | some v =>
        have own := sections dir t held v extracted
        cases held' : (env.files (applicationFile dir')).document (readTable deps) with
        | none => exact mergeValues_again first own
        | some t' =>
          cases extracted' : extractDottedValue (.table t') key with
          | none =>
            simp only [overSection, extracted']
            exact mergeValues_again first own
          | some v' =>
            simp only [overSection, extracted']
            exact mergeValues_under first own (sections dir' t' held' v' extracted')

theorem base_once : (loader.once.base deps env).toOption = (loader.base deps env).toOption := by
  rw [base_eq, base_eq]
  exact layered_once absorbing_override trivial

/-- A chain that lists a directory more than once loads as the chain that lists it only
where it is last: the configuration, that of every tenant and every section are the
same, and one load fails when the other does. -/
theorem repeated_dirs_change_nothing (deps : LoaderDeps) (env : Env) (loader : ApplicationConfigLoader)
    (ordered : ∀ text t, deps.toml.parse text = .ok t → InKeyOrder t) :
    (loader.once.load deps env).toOption = (loader.load deps env).toOption ∧
    (∀ id, (loader.once.loadForTenant deps env id).toOption = (loader.loadForTenant deps env id).toOption) ∧
    ∀ {T : Type} (de : Value → Except String T) (default : T) (key : String),
      (loader.once.loadSection deps env de default key).toOption =
        (loader.loadSection deps env de default key).toOption := by
  refine ⟨?_, fun id => ?_, fun de default key => ?_⟩
  · rw [load, load, Except.toOption_bind, Except.toOption_bind, base_once]
  · simp only [loadForTenant, Except.toOption_bind, base_once, tenantPath_once]
  · have start : KeysOrdered (.table []) := by
      rintro t same
      cases same
      exact List.Pairwise.nil
    rw [loadSection_eq, loadSection_eq, Except.toOption_bind, Except.toOption_bind,
      layered_once (absorbing_section ordered key) start]

end ApplicationConfigLoader

end

section Reference

attribute [local instance] Platform.reference

private theorem serviceDocuments_ordered (text : String) (t : Table)
    (parsed : (LoaderDeps.parsing serviceDocuments).toml.parse text = .ok t) : InKeyOrder t := by
  have flat (key value : String) : InKeyOrder [(key, .str value)] := by
    refine .of_entries (List.pairwise_singleton _ _) fun entry member s same => ?_
    rw [List.mem_singleton.mp member] at same
    cases same
  simp only [LoaderDeps.parsing, serviceDocuments, List.lookup_cons, List.lookup_nil] at parsed
  split at parsed
  · rename_i found
    split at found
    · cases found
      cases parsed
      exact flat "service_name" "edge"
    · split at found
      · cases found
        cases parsed
        exact flat "http_bind" "0.0.0.0:80"
      · cases found
  · cases parsed

/-- A system directory that is also the explicit one. -/
theorem repeated_dirs_change_nothing_explicit :
    let loader : ApplicationConfigLoader := ⟨["system", "user", "system"]⟩
    let deps : LoaderDeps := .parsing serviceDocuments
    loader.once = ⟨["user", "system"]⟩ ∧
      (loader.once.load deps serviceEnv).toOption = (loader.load deps serviceEnv).toOption ∧
      (∀ id, (loader.once.loadForTenant deps serviceEnv id).toOption =
        (loader.loadForTenant deps serviceEnv id).toOption) ∧
      ∀ {T : Type} (de : Value → Except String T) (default : T) (key : String),
        (loader.once.loadSection deps serviceEnv de default key).toOption =
          (loader.loadSection deps serviceEnv de default key).toOption := by
  intro loader deps
  exact ⟨rfl, ApplicationConfigLoader.repeated_dirs_change_nothing deps serviceEnv loader
    serviceDocuments_ordered⟩

end Reference

end EdgeBootstrap
