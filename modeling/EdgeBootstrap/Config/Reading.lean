import EdgeBootstrap.Config.Loader
import EdgeBootstrap.Library.Fallible

/-! How the loaders read their files. Both readers treat a file alike before they
merge it with anything: a file that is there is refused, or taken as a document.
A chain of files is then refused exactly when one of them is, and otherwise has
every document of it put over the ones before. -/
namespace EdgeBootstrap
open Toml

namespace FileState

variable {β : Type}

/-- What a reader makes of a file it can read, within the limit. -/
def document (read : String → Except ConfigError β) : FileState → Option β
  | file len (.ok text) => if len ≤ maxConfigFileBytes then (read text).toOption else none
  | _ => none

/-- A file whose length is known, and not a document. -/
def Broken (read : String → Except ConfigError β) (f : FileState) : Prop :=
  f.pathExists ∧ f.document read = none

variable {read : String → Except ConfigError β} {f : FileState} {b : β}

theorem document_eq_some_iff : f.document read = some b ↔
    ∃ len text, f = file len (.ok text) ∧ len ≤ maxConfigFileBytes ∧ read text = .ok b := by
  constructor
  · intro held
    unfold document at held
    split at held
    · rename_i len text
      split at held
      · rename_i within
        cases parsed : read text with
        | error e =>
          rw [parsed] at held
          cases held
        | ok c =>
          rw [parsed] at held
          cases held
          exact ⟨len, text, rfl, within, parsed⟩
      · cases held
    · cases held
  · rintro ⟨len, text, rfl, within, parsed⟩
    simp [document, within, parsed, Except.toOption]

/-- Where nothing is taken for a file, there is none. -/
theorem document_eq_none_iff (unbroken : ¬ f.Broken read) :
    f.document read = none ↔ f.pathExists = false := by
  constructor
  · intro none
    by_contra there
    exact unbroken ⟨Bool.eq_true_of_not_eq_false there, none⟩
  · intro absent
    cases f with
    | file len text => cases absent
    | _ => rfl

end FileState

namespace ApplicationConfigLoader
open FileState

/-- The `application.toml` of a directory. -/
def applicationFile (dir : String) : String := Rust.joinPath dir "application.toml"

/-- A tenant's file in a directory. -/
def tenantFile (id dir : String) : String :=
  Rust.joinPath (Rust.joinPath dir "tenants") s!"{id}.toml"

variable [Platform] (deps : LoaderDeps) (env : Env) (loader : ApplicationConfigLoader)

/-- A file as `load` reads it. -/
def readOverride (text : String) : Except ConfigError ConfigOverride :=
  ConfigOverride.fromStr deps.toml deps.serde text

/-- A file as `load_section` reads it. -/
def readTable (text : String) : Except ConfigError Table :=
  (deps.toml.parse text).mapError .parse

def BrokenLayer {β : Type} (read : String → Except ConfigError β) : Prop :=
  ∃ dir ∈ loader.configDirs, (env.files (applicationFile dir)).Broken read

/-- The documents of the chain, lowest priority first. -/
def documents {β : Type} (read : String → Except ConfigError β) : List β :=
  loader.configDirs.filterMap fun dir => (env.files (applicationFile dir)).document read

/-- What the loader does with a file before it is merged with anything. -/
def takeFile {β : Type} (read : String → Except ConfigError β) (path : String) :
    Except ConfigError (Option β) :=
  if (env.files path).pathExists then
    match (env.files path).metadata with
    | .error e => .error (.io s!"{path}: {e}")
    | .ok len =>
      if len > maxConfigFileBytes then .error (tooLarge path len)
      else match (env.files path).readToString with
        | .error e => .error (.io s!"{path}: {e}")
        | .ok text => (read text).map some
  else .ok none

/-- A section of a document, merged over those of the documents before it. -/
def overSection (key : String) (merged : Value) (t : Table) : Value :=
  match extractDottedValue (.table t) key with
  | some found => mergeValues merged found
  | none => merged

variable {deps env loader} {β : Type} {read : String → Except ConfigError β} {path key : String}

omit [Platform] in
/-- A file is refused exactly when it is broken. -/
theorem takeFile_fails (env : Env) (read : String → Except ConfigError β) (path : String) :
    FailsExactly (fun _ => True) ((env.files path).Broken read) (takeFile env read path) := by
  unfold takeFile Broken
  cases env.files path with
  | missing | notExaminable e => simp [pathExists, metadata]
  | file len text =>
    by_cases large : len > maxConfigFileBytes
    · have excess : ¬ len ≤ maxConfigFileBytes := by omega
      cases text <;> simp [pathExists, metadata, large, document, excess]
    · have within : len ≤ maxConfigFileBytes := by omega
      cases text with
      | error e => simp [pathExists, metadata, readToString, large, document]
      | ok text =>
        cases parsed : read text <;>
          simp [pathExists, metadata, readToString, large, document, within, parsed, Except.map,
            Except.toOption]

omit [Platform] in
/-- What is taken of a file is its document. -/
theorem document_of_takeFile {taken : Option β} (ran : takeFile env read path = .ok taken) :
    taken = (env.files path).document read := by
  unfold takeFile at ran
  cases held : env.files path with
  | missing | notExaminable e =>
    simp only [held, pathExists, metadata, Bool.false_eq_true, if_false] at ran
    cases ran
    rfl
  | file len text =>
    simp only [held, pathExists, metadata, if_true] at ran
    split at ran
    · cases ran
    · rename_i within
      cases text with
      | error e => cases ran
      | ok text =>
        simp only [readToString] at ran
        obtain ⟨b, parsed, rfl⟩ := Except.map_eq_ok.mp ran
        simp [document, parsed, Except.toOption, Nat.not_lt.mp within]

omit [Platform] in
/-- A file that is taken was not broken. -/
theorem not_broken_of_takeFile {taken : Option β} (ran : takeFile env read path = .ok taken) :
    ¬ (env.files path).Broken read :=
  (takeFile_fails env read path).iff_succeeded.mp ⟨taken, ran⟩

/-- Reading an overlay is parsing a document and deserialising it. -/
theorem readOverride_eq_ok {text : String} {o : ConfigOverride} : readOverride deps text = .ok o ↔
    ∃ t, deps.toml.parse text = .ok t ∧ ConfigOverride.deserialize deps.serde t = .ok o := by
  unfold readOverride ConfigOverride.fromStr
  cases deps.toml.parse text with
  | error e => simp
  | ok t => cases read : ConfigOverride.deserialize deps.serde t <;> simp [read]

theorem readTable_eq_ok {text : String} {t : Table} :
    readTable deps text = .ok t ↔ deps.toml.parse text = .ok t := by
  unfold readTable
  cases deps.toml.parse text <;> simp [Except.mapError]

theorem applyFileIfExists_eq (cfg : RuntimeConfig) (path : String) :
    applyFileIfExists deps env cfg path =
      (takeFile env (readOverride deps) path).map fun taken => taken.elim cfg (·.applyTo cfg) := by
  unfold applyFileIfExists takeFile readOverride
  cases env.files path with
  | missing | notExaminable e => rfl
  | file len text =>
    simp only [pathExists, metadata, readToString, if_true]
    by_cases large : len > maxConfigFileBytes
    · simp only [large, if_true]
      rfl
    · simp only [large, if_false]
      cases text with
      | error e => rfl
      | ok text =>
        simp only
        cases ConfigOverride.fromStr deps.toml deps.serde text <;> rfl

theorem mergeSection_eq (merged : Value) (path : String) :
    mergeSection deps env key merged path =
      (takeFile env (readTable deps) path).map fun taken =>
        taken.elim merged (overSection key merged) := by
  unfold mergeSection takeFile readTable
  cases env.files path with
  | missing | notExaminable e => rfl
  | file len text =>
    simp only [pathExists, metadata, readToString, if_true]
    by_cases large : len > maxConfigFileBytes
    · simp only [large, if_true]
      rfl
    · simp only [large, if_false]
      cases text with
      | error e => rfl
      | ok text =>
        simp only
        cases deps.toml.parse text with
        | error e => rfl
        | ok t =>
          simp only [overSection, Except.mapError, Except.map, Option.elim]
          cases extractDottedValue (.table t) key <;> rfl

variable {σ : Type} (put : σ → β → σ) (start : σ)

/-- The chain's files, each put over what the ones before it make. -/
def layered (env : Env) (loader : ApplicationConfigLoader) (read : String → Except ConfigError β) :
    Except ConfigError σ :=
  loader.configDirs.foldlM (fun s dir =>
    (takeFile env read (applicationFile dir)).map fun taken => taken.elim s (put s)) start

omit [Platform] in
/-- A file that is taken is put over what there is as its document. -/
theorem computes_of_takeFile (s : σ) (dir : String) (s' : σ)
    (ran : (takeFile env read (applicationFile dir)).map (fun taken => taken.elim s (put s)) =
      .ok s') :
    s' = ((env.files (applicationFile dir)).document read).elim s (put s) := by
  obtain ⟨taken, took, rfl⟩ := Except.map_eq_ok.mp ran
  rw [document_of_takeFile took]

omit [Platform] in
/-- The chain is refused exactly when one of its files is broken. -/
theorem layered_fails : FailsExactly (fun _ => True) (loader.BrokenLayer env read)
    (layered put start env loader read) := by
  have each (s : σ) (dir : String) := (takeFile_fails env read (applicationFile dir)).map
    fun taken => taken.elim s (put s)
  refine (FailsExactly.foldlM each (computes_of_takeFile put) loader.configDirs start).congr ⟨?_, ?_⟩
  · rintro ⟨before, dir, after, chain, broken⟩
    exact ⟨dir, by simp [chain], broken⟩
  · rintro ⟨dir, member, broken⟩
    obtain ⟨before, after, chain⟩ := List.append_of_mem member
    exact ⟨before, dir, after, chain, broken⟩

omit [Platform] in
/-- A chain that is not refused has every document of it overlaid. -/
theorem eq_of_layered {s : σ} (ran : layered put start env loader read = .ok s) :
    s = (loader.documents env read).foldl put start := by
  rw [Except.foldlM_eq_ok (computes_of_takeFile put) ran, documents, List.foldl_filterMap]
  congr 1
  funext s dir
  cases (env.files (applicationFile dir)).document read <;> rfl

theorem base_eq : loader.base deps env =
    layered (fun cfg o => o.applyTo cfg) .default env loader (readOverride deps) := by
  unfold base layered
  simp only [applyFileIfExists_eq, applicationFile]

/-- A section that was merged, as the type asked for; an empty one is that
type's default. -/
def ofMerged {T : Type} (de : Value → Except String T) (default : T) : Value → Except ConfigError T
  | .table [] => .ok default
  | merged => (de merged).mapError .parse

theorem loadSection_eq {T : Type} (de : Value → Except String T) (default : T) :
    loader.loadSection deps env de default key =
      layered (overSection key) (.table []) env loader (readTable deps) >>= ofMerged de default := by
  unfold loadSection layered
  simp only [mergeSection_eq, applicationFile]
  congr 1

variable (deps env loader)

/-- The defaults under every document of the chain. -/
def overlaid : RuntimeConfig :=
  (loader.documents env (readOverride deps)).foldl (fun cfg o => o.applyTo cfg) .default

/-- The sections of every document of the chain, merged. -/
def mergedSections (key : String) : Value :=
  (loader.documents env (readTable deps)).foldl (overSection key) (.table [])

variable {deps env loader}

theorem base_fails : FailsExactly (fun _ => True) (loader.BrokenLayer env (readOverride deps))
    (loader.base deps env) := by
  rw [base_eq]
  exact layered_fails _ _

theorem eq_of_base {cfg : RuntimeConfig} (based : loader.base deps env = .ok cfg) :
    cfg = loader.overlaid deps env := by
  rw [base_eq] at based
  exact eq_of_layered _ _ based

end ApplicationConfigLoader

end EdgeBootstrap
