import EdgeBootstrap.Config.Sections
import EdgeBootstrap.Rust.Paths

/-! A section asked for by a dotted key, and the same section inside the one
around it. The entries that `load_section` merges are those of the section it is
asked for: asked for the outer one, it takes the inner one whole from the last
layer that has it. -/
namespace EdgeBootstrap
open Toml Overlays

/-- A path into a path. -/
def dotted (a b : String) : String := a ++ "." ++ b

/-- The key a dotted path starts with. -/
def firstPart (key : String) : String := (Rust.split '.' key).headD ""

/-- The table and those in it list their keys in order. -/
def Toml.InKeyOrder (t : Table) : Prop :=
  ∀ (parts : List String) (s : Table),
    parts.foldlM (fun v part => subKey part v) (Value.table t) = some (.table s) → Entries.Ordered s

/-- A table is in order when its own keys are, and so is each table in it. -/
theorem Toml.InKeyOrder.of_entries {t : Table} (ordered : Entries.Ordered t)
    (below : ∀ entry ∈ t, ∀ s, entry.2 = .table s → InKeyOrder s) : InKeyOrder t := by
  intro parts s held
  cases parts with
  | nil =>
    cases held
    exact ordered
  | cons part parts =>
    rw [List.foldlM_cons] at held
    obtain ⟨v, entry, later⟩ := Option.bind_eq_some_iff.mp held
    have member : (part, v) ∈ t := (ordered.mem_iff (part, v)).mpr entry
    cases v with
    | table inner => exact below _ member inner rfl parts s later
    | _ =>
      cases parts with
      | nil => cases later
      | cons part' parts =>
        rw [List.foldlM_cons] at later
        cases later

namespace ApplicationConfigLoader

section Paths
variable {a b key : String} {v : Value}

theorem extractDottedValue_eq (v : Value) (key : String) :
    extractDottedValue v key = (Rust.split '.' key).foldlM (fun v part => subKey part v) v := rfl

theorem split_dotted (a b : String) : Rust.split '.' (dotted a b) = Rust.split '.' a ++ Rust.split '.' b := by
  have chars : (dotted a b).toList = a.toList ++ '.' :: b.toList := by simp [dotted]
  rw [Rust.split, chars, Rust.splitChars_append, List.map_append]
  rfl

/-- A path into a path leads on from where that one leads. -/
theorem extract_dotted (v : Value) (a b : String) :
    extractDottedValue v (dotted a b) = (extractDottedValue v a).bind (extractDottedValue · b) := by
  simp only [extractDottedValue_eq, split_dotted, List.foldlM_append]
  rfl

/-- A path goes by its first key, and goes on from there. -/
theorem extract_firstPart (key : String) :
    ∃ rest : Value → Option Value, ∀ v,
      extractDottedValue v key = (subKey (firstPart key) v).bind rest := by
  have nonempty : Rust.split '.' key ≠ [] := by
    simpa [Rust.split] using Rust.splitChars_ne_nil '.' key.toList
  cases parts : Rust.split '.' key with
  | nil => exact absurd parts nonempty
  | cons part parts' =>
    refine ⟨parts'.foldlM fun v part => subKey part v, fun v => ?_⟩
    rw [extractDottedValue_eq, firstPart, parts]
    rfl

end Paths

section Merging
variable {docs : List Table} {a b key : String}

/-- Every document that has the section has a table there. -/
def HoldTables (docs : List Table) (key : String) : Prop :=
  ∀ t ∈ docs, ∀ v, extractDottedValue (.table t) key = some v → ∃ s, v = .table s

/-- The entry of a section under a sub-key, in a document. -/
def entryIn (key sub : String) (t : Table) : Option Value :=
  (extractDottedValue (.table t) key).bind (subKey sub)

/-- The sections of documents are merged like those there are. -/
theorem foldl_overSection (docs : List Table) (key : String) (start : Value) :
    docs.foldl (overSection key) start =
      (docs.filterMap fun t => extractDottedValue (.table t) key).foldl mergeValues start := by
  rw [List.foldl_filterMap]
  congr 1
  funext merged t
  rw [overSection]
  cases extractDottedValue (.table t) key <;> rfl

theorem ordered_mergeValues {layers : List Value} (sections : ∀ v ∈ layers, ∃ s, v = .table s)
    {base m : Table} (ordered : Entries.Ordered base)
    (merged : layers.foldl mergeValues (.table base) = .table m) : Entries.Ordered m := by
  induction layers generalizing base with
  | nil =>
    cases merged
    exact ordered
  | cons v layers ih =>
    obtain ⟨s, rfl⟩ := sections v List.mem_cons_self
    exact ih (fun w member => sections w (List.mem_cons_of_mem _ member)) (ordered.foldl_insert s) merged

/-- What the merged section is: entries in order, each as the last document to
have it has it. -/
theorem merged_spec (ordered : ∀ t ∈ docs, InKeyOrder t) (tables : HoldTables docs key) :
    ∃ m, docs.foldl (overSection key) (.table []) = .table m ∧ Entries.Ordered m ∧
      ∀ sub, m.lookup sub = lastSet (entryIn key sub) docs := by
  have each : ∀ v ∈ docs.filterMap (fun t => extractDottedValue (.table t) key),
      ∃ s, v = .table s ∧ Entries.Ordered s := by
    intro v member
    obtain ⟨t, held, extracted⟩ := List.mem_filterMap.mp member
    obtain ⟨s, rfl⟩ := tables t held v extracted
    exact ⟨s, rfl, ordered t held (Rust.split '.' key) s extracted⟩
  have sections : ∀ v ∈ docs.filterMap (fun t => extractDottedValue (.table t) key), IsSection v := by
    intro v member
    obtain ⟨s, rfl, inOrder⟩ := each v member
    exact ⟨s, rfl, inOrder.nodup⟩
  obtain ⟨m, merged, held⟩ := merged_layers sections []
  refine ⟨m, by rw [foldl_overSection, merged], ?_, fun sub => ?_⟩
  · exact ordered_mergeValues (fun v member => (each v member).imp fun _ => And.left)
      List.Pairwise.nil merged
  · rw [held sub, lastSet_filterMap]
    exact Option.or_none

end Merging

section Coherence
variable {docs : List Table} {a b : String}

/-- What `load_section` merges for a key. -/
def mergedOver (docs : List Table) (key : String) : Value := docs.foldl (overSection key) (.table [])

/-- The same, absent when no document has the section. -/
def rawSection (docs : List Table) (key : String) : Option Value :=
  if docs.any fun t => (extractDottedValue (.table t) key).isSome then some (mergedOver docs key)
  else none

/-- The inner section is what the outer one has there; so no leaf of it is lost
that no later document sets. -/
structure Coherent (docs : List Table) (a b : String) : Prop where
  value : extractDottedValue (mergedOver docs a) b = rawSection docs (dotted a b)
  leaves : ∀ before t after sub v, docs = before ++ t :: after →
    entryIn (dotted a b) sub t = some v → (∀ s, v ≠ .table s) →
    (∀ t' ∈ after, entryIn (dotted a b) sub t' = none) →
    (extractDottedValue (mergedOver docs a) b).bind (subKey sub) = some v

/-- The last document with what leads to the inner section has that section, with
every key another document has in it. -/
def HeldByLast (docs : List Table) (a b : String) : Prop :=
  ∀ t ∈ docs, ∀ s, extractDottedValue (.table t) (dotted a b) = some (.table s) →
    ∃ before last after m, docs = before ++ last :: after ∧
      (∀ t' ∈ after, entryIn a (firstPart b) t' = none) ∧
      extractDottedValue (.table last) (dotted a b) = some (.table m) ∧
      ∀ sub, s.lookup sub ≠ none → m.lookup sub ≠ none

theorem rawSection_of_mem {key : String} {t : Table} {v : Value} (member : t ∈ docs)
    (held : extractDottedValue (.table t) key = some v) :
    rawSection docs key = some (mergedOver docs key) := by
  rw [rawSection, if_pos]
  exact List.any_eq_true.mpr ⟨t, member, by simp [held]⟩

theorem rawSection_of_absent {key : String}
    (absent : ∀ t ∈ docs, extractDottedValue (.table t) key = none) : rawSection docs key = none := by
  rw [rawSection, if_neg]
  intro some
  obtain ⟨t, member, held⟩ := List.any_eq_true.mp some
  simp [absent t member] at held

/-- Inside the outer section stands what the last document with the way to it
has. -/
theorem extract_mergedOver (ordered : ∀ t ∈ docs, InKeyOrder t) (tables : HoldTables docs a) :
    ∃ rest : Value → Option Value,
      (∀ t, extractDottedValue (.table t) (dotted a b) = (entryIn a (firstPart b) t).bind rest) ∧
      extractDottedValue (mergedOver docs a) b = (lastSet (entryIn a (firstPart b)) docs).bind rest := by
  obtain ⟨rest, goes⟩ := extract_firstPart b
  obtain ⟨m, merged, _, held⟩ := merged_spec ordered tables
  refine ⟨rest, fun t => ?_, ?_⟩
  · rw [extract_dotted, entryIn, Option.bind_assoc]
    simp only [goes]
  · rw [mergedOver, merged, goes, subKey, held]

/-- A document that is the last with the way to the inner section decides what
stands there. -/
theorem extract_of_last {before after : List Table} {last m : Table}
    (ordered : ∀ t ∈ docs, InKeyOrder t) (outer : HoldTables docs a)
    (split : docs = before ++ last :: after) (silent : ∀ t ∈ after, entryIn a (firstPart b) t = none)
    (found : extractDottedValue (.table last) (dotted a b) = some (.table m)) :
    extractDottedValue (mergedOver docs a) b = some (.table m) ∧ Entries.Ordered m ∧
      ∀ sub v, m.lookup sub = some v → lastSet (entryIn (dotted a b) sub) docs = some v := by
  obtain ⟨rest, goes, inside⟩ := extract_mergedOver (b := b) ordered outer
  refine ⟨?_, ordered last (by simp [split]) (Rust.split '.' (dotted a b)) m found, fun sub v here => ?_⟩
  · rw [goes] at found
    obtain ⟨e, set, leads⟩ := Option.bind_eq_some_iff.mp found
    have decided : lastSet (entryIn a (firstPart b)) docs = some e :=
      (lastSet_eq_some_iff _ _).mpr ⟨before, last, after, split, set, silent⟩
    rw [inside, decided]
    exact leads
  · refine (lastSet_eq_some_iff _ _).mpr ⟨before, last, after, split, ?_, fun t member => ?_⟩
    · rw [entryIn, found]
      exact here
    · rw [entryIn, goes, silent t member]
      rfl

/-- A key that the section inside the outer one lacks is in no document's inner
section, when the last of them has it whole. -/
theorem HeldByLast.lastSet_eq_none {m : Table} {sub : String} (whole : HeldByLast docs a b)
    (ordered : ∀ t ∈ docs, InKeyOrder t) (outer : HoldTables docs a)
    (inner : HoldTables docs (dotted a b))
    (stands : extractDottedValue (mergedOver docs a) b = some (.table m))
    (absent : m.lookup sub = none) : lastSet (entryIn (dotted a b) sub) docs = none := by
  rw [lastSet_eq_none_iff]
  intro t member
  by_contra present
  obtain ⟨x, holds⟩ := Option.ne_none_iff_exists'.mp present
  obtain ⟨w, extracted, _⟩ := Option.bind_eq_some_iff.mp holds
  obtain ⟨s, rfl⟩ := inner t member w extracted
  obtain ⟨_, _, _, m', split, silent, found, keeps⟩ := whole t member s extracted
  -- the section that keeps the key is the one that stands inside the outer one
  have again := (extract_of_last ordered outer split silent found).1
  rw [stands] at again
  cases again
  rw [entryIn, extracted] at present
  exact keeps sub present absent

/-- The inner section is what the outer one has there exactly when the last
document with the way to it has it whole. -/
theorem value_iff_heldByLast (ordered : ∀ t ∈ docs, InKeyOrder t) (outer : HoldTables docs a)
    (inner : HoldTables docs (dotted a b)) :
    extractDottedValue (mergedOver docs a) b = rawSection docs (dotted a b) ↔ HeldByLast docs a b := by
  obtain ⟨rest, goes, inside⟩ := extract_mergedOver (b := b) ordered outer
  obtain ⟨n, merged, inOrder, held⟩ := merged_spec ordered inner
  constructor
  · intro same t member s extracted
    rw [inside, rawSection_of_mem member extracted, mergedOver, merged] at same
    obtain ⟨e, decided, found⟩ := Option.bind_eq_some_iff.mp same
    obtain ⟨before, last, after, split, set, silent⟩ := (lastSet_eq_some_iff _ _).mp decided
    refine ⟨before, last, after, n, split, silent, ?_, fun sub present absent => ?_⟩
    · rw [goes, set]
      exact found
    · rw [held, lastSet_eq_none_iff] at absent
      have missing := absent t member
      rw [entryIn, extracted] at missing
      exact present missing
  · intro whole
    by_cases none : ∀ t ∈ docs, extractDottedValue (.table t) (dotted a b) = none
    · rw [rawSection_of_absent none, inside]
      cases decided : lastSet (entryIn a (firstPart b)) docs with
      | none => rfl
      | some e =>
        obtain ⟨before, last, after, rfl, set, _⟩ := (lastSet_eq_some_iff _ _).mp decided
        have absent := none last (by simp)
        rwa [goes, set] at absent
    · simp only [not_forall] at none
      obtain ⟨t, member, there⟩ := none
      obtain ⟨v, extracted⟩ := Option.ne_none_iff_exists'.mp there
      obtain ⟨s, rfl⟩ := inner t member v extracted
      obtain ⟨before, last, after, m, split, silent, found, _⟩ := whole t member s extracted
      obtain ⟨stands, ordered_m, decides⟩ := extract_of_last ordered outer split silent found
      rw [stands, rawSection_of_mem member extracted, mergedOver, merged]
      have same : m = n := by
        refine ordered_m.ext inOrder fun sub => ?_
        rw [held]
        cases here : m.lookup sub with
        | some v => rw [decides sub v here]
        | none => rw [whole.lastSet_eq_none ordered outer inner stands here]
      rw [same]

/-- The sections are coherent exactly when the last document with the way to the
inner one has it whole. -/
theorem coherent_iff (ordered : ∀ t ∈ docs, InKeyOrder t) (outer : HoldTables docs a)
    (inner : HoldTables docs (dotted a b)) : Coherent docs a b ↔ HeldByLast docs a b := by
  constructor
  · intro coherent
    exact (value_iff_heldByLast ordered outer inner).mp coherent.value
  · intro whole
    have value := (value_iff_heldByLast ordered outer inner).mpr whole
    refine ⟨value, fun before t after sub v split here leaf silent => ?_⟩
    obtain ⟨m, merged, _, held⟩ := merged_spec ordered inner
    have member : t ∈ docs := by simp [split]
    obtain ⟨w, extracted, _⟩ := Option.bind_eq_some_iff.mp here
    rw [value, rawSection_of_mem member extracted, mergedOver, merged]
    change m.lookup sub = some v
    rw [held, lastSet_eq_some_iff]
    exact ⟨before, t, after, split, here, silent⟩

end Coherence

section Loading
variable [Platform]

/-- What the readers of a chain's valid files merge is in order when the crate's
tables are, and `load_section` returns it as the type asked for. -/
theorem loadSection_of_documents {deps : LoaderDeps} {env : Env} {loader : ApplicationConfigLoader}
    (valid : ¬ loader.BrokenLayer env (readTable deps)) {T : Type} (de : Value → Except String T)
    (default : T) (key : String) :
    loader.loadSection deps env de default key =
      ofMerged de default (mergedOver (loader.documents env (readTable deps)) key) := by
  obtain ⟨merged, ran⟩ := (layered_fails (overSection key) (.table [])).iff_succeeded.mpr valid
  rw [loadSection_eq, ran, eq_of_layered _ _ ran]
  rfl

/-- Over valid files that hold tables at a key and at one within it,
`load_section` merges for the inner key what stands there in what it merges for
the outer one, and no leaf is lost, exactly when the last file with the way to
the inner section has it with every key the others have in it. -/
theorem dotted_section_coherent_iff (deps : LoaderDeps) (env : Env) (loader : ApplicationConfigLoader)
    (a b : String) (ordered : ∀ text t, deps.toml.parse text = .ok t → InKeyOrder t)
    (valid : ¬ loader.BrokenLayer env (readTable deps))
    (outer : HoldTables (loader.documents env (readTable deps)) a)
    (inner : HoldTables (loader.documents env (readTable deps)) (dotted a b)) :
    (∀ (T : Type) (de : Value → Except String T) (default : T) (key : String),
      loader.loadSection deps env de default key =
        ofMerged de default (mergedOver (loader.documents env (readTable deps)) key)) ∧
    (Coherent (loader.documents env (readTable deps)) a b ↔
      HeldByLast (loader.documents env (readTable deps)) a b) := by
  refine ⟨fun T de default key => loadSection_of_documents valid de default key, ?_⟩
  apply coherent_iff _ outer inner
  intro t member
  obtain ⟨dir, _, held⟩ := List.mem_filterMap.mp member
  obtain ⟨_, text, _, _, read⟩ := FileState.document_eq_some_iff.mp held
  exact ordered text t (readTable_eq_ok.mp read)

end Loading

end ApplicationConfigLoader

section Reference
open ApplicationConfigLoader

attribute [local instance] Platform.reference

/-- A section inside another one. -/
def tracingTable (entries : Table) : Table := [("observability", .table [("tracing", .table entries)])]

/-- That section with one entry or with two. -/
def tracingDocuments : List (String × Table) :=
  [("[observability.tracing]\nlevel = \"debug\"\n", tracingTable [("level", .str "debug")]),
    ("[observability.tracing]\nenabled = false\n", tracingTable [("enabled", .bool false)]),
    ("[observability.tracing]\nenabled = false\nlevel = \"info\"\n",
      tracingTable [("enabled", .bool false), ("level", .str "info")])]

/-- A lower directory with the level alone, and a higher one. -/
def tracingEnv (higher : String) : Env := .holding
  [("system/application.toml", "[observability.tracing]\nlevel = \"debug\"\n"),
    ("user/application.toml", higher)] []

private theorem tracingTable_ordered {entries : Table} (ordered : Entries.Ordered entries)
    (flat : ∀ entry ∈ entries, ∀ s, entry.2 ≠ .table s) : InKeyOrder (tracingTable entries) := by
  have single (k : String) (s : Table) (inner : InKeyOrder s) : InKeyOrder [(k, .table s)] := by
    refine .of_entries (List.pairwise_singleton _ _) fun entry member s' same => ?_
    cases List.mem_singleton.mp member
    cases same
    exact inner
  apply single
  apply single
  exact .of_entries ordered fun entry member s' same => absurd same (flat entry member s')

private theorem tracingDocuments_ordered (text : String) (t : Table)
    (parsed : (LoaderDeps.parsing tracingDocuments).toml.parse text = .ok t) : InKeyOrder t := by
  have found : tracingDocuments.lookup text = some t := by
    simp only [LoaderDeps.parsing] at parsed
    split at parsed
    · rename_i same
      cases parsed
      exact same
    · cases parsed
  obtain ⟨before, after, documents, _⟩ := List.lookup_eq_some_iff.mp found
  have member : (text, t) ∈ tracingDocuments := by simp [documents]
  simp only [tracingDocuments, List.mem_cons, List.not_mem_nil, or_false, Prod.mk.injEq] at member
  rcases member with ⟨_, rfl⟩ | ⟨_, rfl⟩ | ⟨_, rfl⟩
  · exact tracingTable_ordered (List.pairwise_singleton _ _) (by simp)
  · exact tracingTable_ordered (List.pairwise_singleton _ _) (by simp)
  · refine tracingTable_ordered (List.pairwise_cons.mpr ⟨?_, List.pairwise_singleton _ _⟩) (by simp)
    intro entry member
    cases List.mem_singleton.mp member
    decide

private theorem extract_tracingTable (entries : Table) :
    extractDottedValue (.table (tracingTable entries)) "observability" =
        some (.table [("tracing", .table entries)]) ∧
      extractDottedValue (.table (tracingTable entries)) (dotted "observability" "tracing") =
        some (.table entries) := ⟨rfl, rfl⟩

private theorem tracingTables {docs : List Table} (shaped : ∀ t ∈ docs, ∃ entries, t = tracingTable entries) :
    HoldTables docs "observability" ∧ HoldTables docs (dotted "observability" "tracing") := by
  constructor
  · intro t member v held
    obtain ⟨entries, rfl⟩ := shaped t member
    rw [(extract_tracingTable entries).1] at held
    exact ⟨_, (Option.some.inj held).symm⟩
  · intro t member v held
    obtain ⟨entries, rfl⟩ := shaped t member
    rw [(extract_tracingTable entries).2] at held
    exact ⟨_, (Option.some.inj held).symm⟩

private theorem tracingEnv_read {higher : String} {entries : Table}
    (read : ((tracingEnv higher).files (applicationFile "user")).document
      (readTable (.parsing tracingDocuments)) = some (tracingTable entries)) :
    ¬ serviceLoader.BrokenLayer (tracingEnv higher) (readTable (.parsing tracingDocuments)) ∧
      serviceLoader.documents (tracingEnv higher) (readTable (.parsing tracingDocuments)) =
        [tracingTable [("level", .str "debug")], tracingTable entries] := by
  have low : ((tracingEnv higher).files (applicationFile "system")).document
      (readTable (.parsing tracingDocuments)) = some (tracingTable [("level", .str "debug")]) := rfl
  constructor
  · rintro ⟨dir, member, _, none⟩
    have cases : dir = "system" ∨ dir = "user" := by simpa [serviceLoader] using member
    rcases cases with rfl | rfl
    · rw [low] at none
      cases none
    · rw [read] at none
      cases none
  · simp only [documents, serviceLoader, List.filterMap_cons, List.filterMap_nil, low, read]

/-- A higher file with the whole section. -/
theorem dotted_section_coherent_iff_whole :
    Coherent (serviceLoader.documents
        (tracingEnv "[observability.tracing]\nenabled = false\nlevel = \"info\"\n")
        (readTable (.parsing tracingDocuments)))
      "observability" "tracing" := by
  let entries : Table := [("enabled", .bool false), ("level", .str "info")]
  let higher := "[observability.tracing]\nenabled = false\nlevel = \"info\"\n"
  have read : ((tracingEnv higher).files (applicationFile "user")).document
      (readTable (.parsing tracingDocuments)) = some (tracingTable entries) := rfl
  obtain ⟨valid, documents⟩ := tracingEnv_read read
  have tables : HoldTables [tracingTable [("level", .str "debug")], tracingTable entries] "observability" ∧
      HoldTables [tracingTable [("level", .str "debug")], tracingTable entries]
        (dotted "observability" "tracing") := tracingTables (by simp)
  rw [← documents] at tables
  refine (dotted_section_coherent_iff (.parsing tracingDocuments) _ serviceLoader "observability"
    "tracing" tracingDocuments_ordered valid tables.1 tables.2).2.mpr ?_
  rw [documents]
  intro t member s held
  refine ⟨[tracingTable [("level", .str "debug")]], tracingTable entries, [], entries, rfl, by simp,
    (extract_tracingTable _).2, fun sub present => ?_⟩
  simp only [List.mem_cons, List.not_mem_nil, or_false] at member
  rcases member with rfl | rfl
  · rw [(extract_tracingTable _).2] at held
    cases held
    by_cases here : sub = "level"
    · subst here
      decide
    · have other : (sub == "level") = false := by simpa using here
      simp [List.lookup_cons, other] at present
  · rw [(extract_tracingTable _).2] at held
    cases held
    exact present

/-- The level that the lower file alone sets is there when the inner section is
asked for, and lost in the outer one. -/
theorem lower_leaf_lost_in_outer_section :
    let docs := serviceLoader.documents (tracingEnv "[observability.tracing]\nenabled = false\n")
      (readTable (.parsing tracingDocuments))
    (HoldTables docs "observability" ∧ HoldTables docs (dotted "observability" "tracing")) ∧
      rawSection docs (dotted "observability" "tracing") =
        some (.table [("enabled", .bool false), ("level", .str "debug")]) ∧
      extractDottedValue (mergedOver docs "observability") "tracing" =
        some (.table [("enabled", .bool false)]) ∧
      ¬ Coherent docs "observability" "tracing" := by
  intro docs
  have documents : docs = [tracingTable [("level", .str "debug")], tracingTable [("enabled", .bool false)]] :=
    rfl
  refine ⟨?_, rfl, rfl, fun coherent => ?_⟩
  · rw [documents]
    exact tracingTables (by simp)
  · have value := coherent.value
    rw [documents] at value
    have lost := congrArg (fun v => (v.bind (subKey "level")).isSome) value
    exact absurd lost (by decide)

end Reference

end EdgeBootstrap
