import EdgeBootstrap.Library.PrometheusText
import EdgeBootstrap.Metrics.Handler

/-! Whether the metrics page decodes to the metrics it was rendered from. Label
values are written as they are: where none of them needs escaping the page is
the one the format asks for, and where one does the page has too few backslashes
to decode to it. -/
namespace EdgeBootstrap
open PrometheusText

/-- What `Display` writes for an `f64`: digits, a point among them when there is
a fraction, or a name. -/
inductive Rust.DisplaysF64 : List Char → Prop
  | nan : DisplaysF64 "NaN".toList
  | infinite : DisplaysF64 "inf".toList
  | negativeInfinite : DisplaysF64 "-inf".toList
  | finite {sign whole fraction : List Char} (signed : sign = [] ∨ sign = ['-']) (filled : whole ≠ [])
      (digits : ∀ c ∈ whole, c.isDigit = true)
      (ends : fraction = [] ∨ ∃ ds, fraction = '.' :: ds ∧ ∀ c ∈ ds, c.isDigit = true) :
      DisplaysF64 (sign ++ (whole ++ fraction))

/-- It is a number to the format, and one token without a backslash. -/
theorem Rust.DisplaysF64.spec {v : List Char} (displayed : Rust.DisplaysF64 v) :
    isFloat v = true ∧ ∀ c ∈ v, isBlank c = false ∧ c ≠ '\n' ∧ c ≠ '\\' := by
  have ofDigit (c : Char) (digit : c.isDigit = true) :
      isBlank c = false ∧ c ≠ '\n' ∧ c ≠ '\\' := by
    have space : c ≠ ' ' := ne_of_class digit (by decide)
    have tab : c ≠ '\t' := ne_of_class digit (by decide)
    exact ⟨by simp [isBlank, space, tab], ne_of_class digit (by decide),
      ne_of_class digit (by decide)⟩
  have ofName (v : List Char) (all : v.all (fun c => !isBlank c && c != '\n' && c != '\\') = true)
      (c : Char) (member : c ∈ v) : isBlank c = false ∧ c ≠ '\n' ∧ c ≠ '\\' := by
    simpa [and_assoc] using List.all_eq_true.mp all c member
  cases displayed with
  | nan => exact ⟨by decide, ofName _ (by decide)⟩
  | infinite => exact ⟨by decide, ofName _ (by decide)⟩
  | negativeInfinite => exact ⟨by decide, ofName _ (by decide)⟩
  | finite signed filled digits ends =>
    refine ⟨isFloat_decimal signed filled digits ends, fun c member => ?_⟩
    rcases List.mem_append.mp member with sign | number
    · rcases signed with rfl | rfl
      · cases sign
      · cases List.mem_singleton.mp sign
        decide
    rcases List.mem_append.mp number with whole | fraction
    · exact ofDigit c (digits c whole)
    rcases ends with rfl | ⟨ds, rfl, all⟩
    · cases fraction
    · rcases List.mem_cons.mp fraction with rfl | digit
      · decide
      · exact ofDigit c (all c digit)

namespace MetricSnapshot

/-- A snapshot as the format knows it. -/
def sample (snap : MetricSnapshot) : Sample where
  name := snap.name.toList
  labels := snap.labels.map fun l => (l.1.toList, l.2.toList)
  value := snap.value.toList

/-- The names are the format's own, and the value is that of an `f64`. -/
structure WellNamed (snap : MetricSnapshot) : Prop where
  name : isMetricName snap.name.toList = true
  labels : ∀ l ∈ snap.labels, isLabelName l.1.toList = true
  value : Rust.DisplaysF64 snap.value.toList

variable {snap : MetricSnapshot}

theorem valid_sample (named : snap.WellNamed) : snap.sample.Valid where
  name := named.name
  labels := by
    intro l member
    obtain ⟨l', inside, rfl⟩ := List.mem_map.mp member
    exact named.labels l' inside
  value := named.value.spec.1
  token c member := ⟨(named.value.spec.2 c member).1, (named.value.spec.2 c member).2.1⟩

/-- The kind a snapshot is declared with is one of the format's. -/
theorem declared_mem_kinds (kind : MetricType) : kind.declared.toList ∈ kinds := by
  cases kind <;> decide

/-- A label as rendered. -/
def renderedLabel (l : List Char × List Char) : List Char := l.1 ++ '=' :: '"' :: (l.2 ++ ['"'])

theorem toList_renderedLabels (snap : MetricSnapshot) : snap.renderedLabels.toList =
    if snap.sample.labels = [] then []
    else '{' :: ([','].intercalate (snap.sample.labels.map renderedLabel) ++ ['}']) := by
  have labels : (snap.labels.map fun l => l.1 ++ "=\"" ++ l.2 ++ "\"").map String.toList =
      snap.sample.labels.map renderedLabel := by
    simp [sample, renderedLabel, Function.comp_def]
  unfold renderedLabels
  by_cases none : snap.labels = []
  · simp [sample, none]
  · have some : snap.sample.labels ≠ [] := by simpa [sample] using none
    rw [if_neg (by simpa using none), if_neg some, String.toList_append, String.toList_append,
      String.toList_intercalate, labels]
    rfl

/-- The two lines of a snapshot. -/
theorem toList_rendered (snap : MetricSnapshot) : snap.rendered.toList =
    typeText snap.name.toList snap.metricType.declared.toList ++ '\n' ::
      (snap.sample.name ++ (snap.renderedLabels.toList ++ ' ' :: snap.sample.value) ++ ['\n']) := by
  have parts (mark name space kind newline labels value : String) :
      (mark ++ name ++ space ++ kind ++ newline ++ name ++ labels ++ space ++ value ++ newline).toList =
        mark.toList ++ (name.toList ++ (space.toList ++ kind.toList)) ++ (newline.toList ++
          (name.toList ++ (labels.toList ++ (space.toList ++ value.toList)) ++ newline.toList)) := by
    simp only [String.toList_append, List.append_assoc]
  exact parts "# TYPE " snap.name " " snap.metricType.declared "\n" snap.renderedLabels snap.value

/-- Plain label values are written as the format asks for. -/
theorem rendered_of_plain (plain : ∀ l ∈ snap.sample.labels, Plain l.2) :
    snap.rendered.toList = typeText snap.sample.name snap.metricType.declared.toList ++ '\n' ::
      (snap.sample.text ++ ['\n']) := by
  have labels : snap.renderedLabels.toList = labelSetText snap.sample.labels := by
    rw [toList_renderedLabels, labelSetText]
    have same : snap.sample.labels.map renderedLabel = snap.sample.labels.map labelText := by
      apply List.map_congr_left
      intro l member
      rw [renderedLabel, labelText, escape_of_plain (plain l member)]
    rw [same]
  rw [toList_rendered, labels]
  rfl

/-- What is written has the backslashes of the label values, and no others. -/
theorem count_rendered (named : snap.WellNamed) :
    snap.rendered.toList.count '\\' = (snap.sample.labels.map fun l => l.2.count '\\').sum := by
  have valid := valid_sample named
  have kind : '\\' ∉ typeText snap.name.toList snap.metricType.declared.toList :=
    not_mem_typeText named.name (declared_mem_kinds _) (by decide) (by decide) (by decide)
  have name : '\\' ∉ snap.sample.name := not_mem_of_isMetricName valid.name (by decide)
  have value : '\\' ∉ snap.sample.value := fun inside => (named.value.spec.2 _ inside).2.2 rfl
  have label : ∀ l ∈ snap.sample.labels, (renderedLabel l).count '\\' = l.2.count '\\' := by
    intro l member
    have labelName : '\\' ∉ l.1 :=
      not_mem_of_isMetricName (isMetricName_of_isLabelName (valid.labels l member)) (by decide)
    simp [renderedLabel, List.count_eq_zero.mpr labelName]
  have labels : snap.renderedLabels.toList.count '\\' =
      (snap.sample.labels.map fun l => l.2.count '\\').sum := by
    rw [toList_renderedLabels, ← List.map_congr_left label]
    split
    · rename_i none
      simp [none]
    · have inner := count_intercalate (show '\\' ∉ [','] by decide)
        (snap.sample.labels.map renderedLabel)
      rw [List.map_map] at inner
      simp [inner, Function.comp_def]
  rw [toList_rendered]
  simp [List.count_eq_zero.mpr kind, List.count_eq_zero.mpr name, List.count_eq_zero.mpr value, labels]

/-- A page has the backslashes of all label values, and no others. -/
theorem count_flatMap_rendered {snaps : List MetricSnapshot} (named : ∀ snap ∈ snaps, snap.WellNamed) :
    (snaps.flatMap (·.rendered.toList)).count '\\' =
      ((labelValues (snaps.map (·.sample))).map (List.count '\\')).sum := by
  induction snaps with
  | nil => rfl
  | cons snap snaps ih =>
    have rest := ih fun snap' member => named snap' (List.mem_cons_of_mem _ member)
    have here := count_rendered (named snap List.mem_cons_self)
    have values : labelValues ((snap :: snaps).map (·.sample)) =
        snap.sample.labels.map (·.2) ++ labelValues (snaps.map (·.sample)) := List.flatMap_cons
    rw [List.flatMap_cons, List.count_append, here, rest, values, List.map_append,
      List.sum_append, List.map_map]
    rfl

end MetricSnapshot

namespace MetricsHandler

theorem toList_renderPrometheus (provider : MetricsProvider) (records : List MetricRecord) :
    (renderPrometheus provider records).toList =
      (provider.exportSnapshots records).flatMap (·.rendered.toList) := by
  have folded (snaps : List MetricSnapshot) (out : String) :
      (snaps.foldl (fun out snap => out ++ snap.rendered) out).toList =
        out.toList ++ snaps.flatMap (·.rendered.toList) := by
    induction snaps generalizing out with
    | nil => simp
    | cons snap snaps ih =>
      rw [List.foldl_cons, ih, String.toList_append, List.append_assoc, List.flatMap_cons]
  exact folded (provider.exportSnapshots records) ""

/-- The metrics page decodes to the metrics exactly when no label value has a
backslash, a double quote or a line feed in it. -/
theorem page_decodes_iff (provider : MetricsProvider) (records : List MetricRecord)
    (named : ∀ snap ∈ provider.exportSnapshots records, snap.WellNamed) :
    parse (renderPrometheus provider records).toList =
        some ((provider.exportSnapshots records).map (·.sample)) ↔
      ∀ snap ∈ provider.exportSnapshots records, ∀ l ∈ snap.labels, Plain l.2.toList := by
  rw [toList_renderPrometheus]
  generalize provider.exportSnapshots records = snaps at named ⊢
  constructor
  · intro read
    have bare := MetricSnapshot.count_flatMap_rendered named
    intro snap member l inside
    apply plain_of_parse read bare.le
    exact List.mem_flatMap.mpr ⟨snap.sample, List.mem_map_of_mem member,
      List.mem_map.mpr ⟨_, List.mem_map_of_mem inside, rfl⟩⟩
  · intro plain
    have written : snaps.flatMap (·.rendered.toList) =
        page (snaps.map fun snap => (snap.metricType.declared.toList, snap.sample)) := by
      rw [page, List.flatMap_map]
      apply List.flatMap_congr
      intro snap member
      apply MetricSnapshot.rendered_of_plain
      intro l inside
      obtain ⟨l', held, rfl⟩ := List.mem_map.mp inside
      exact plain snap member l' held
    rw [written, parse_page, List.map_map]
    · rfl
    · intro e member
      obtain ⟨snap, held, rfl⟩ := List.mem_map.mp member
      exact ⟨MetricSnapshot.declared_mem_kinds _, MetricSnapshot.valid_sample (named snap held)⟩

/-- The gauge of a component's health. -/
def componentHealth (id value : String) : MetricSnapshot where
  name := "edge_component_health"
  metricType := .gauge
  labels := [("component", id)]
  value := value

private theorem displaysF64_one : Rust.DisplaysF64 "1".toList := by
  have digits : ∀ c ∈ ['1'], c.isDigit = true := by
    intro c member
    cases List.mem_singleton.mp member
    decide
  exact Rust.DisplaysF64.finite (.inl rfl) (List.cons_ne_nil '1' []) digits (.inl rfl)

private theorem componentHealth_named (id : String) : (componentHealth id "1").WellNamed where
  name := show isMetricName "edge_component_health".toList = true by decide
  labels := by
    intro l member
    cases List.mem_singleton.mp member
    exact show isLabelName "component".toList = true by decide
  value := displaysF64_one

/-- Two components, one of them with a comma and a brace in its id. -/
theorem page_decodes_iff_components :
    let snaps := [componentHealth "db" "1", componentHealth "cache\x7b0,1\x7d" "1"]
    parse (renderPrometheus ⟨fun _ => snaps⟩ []).toList = some (snaps.map (·.sample)) ↔
      ∀ snap ∈ snaps, ∀ l ∈ snap.labels, Plain l.2.toList := by
  intro snaps
  apply page_decodes_iff ⟨fun _ => snaps⟩ []
  intro snap member
  rcases List.mem_cons.mp member with rfl | second
  · exact componentHealth_named "db"
  · cases List.mem_singleton.mp second
    exact componentHealth_named _

/-- A component whose id has quotes in it makes the page unreadable, and one
with a whole label in it makes it decode to other labels. -/
theorem unescaped_component_id :
    let quoted := componentHealth "disk \"C\"" "1"
    let forged := componentHealth "disk\",host=\"a" "1"
    (quoted.WellNamed ∧ parse (renderPrometheus ⟨fun _ => [quoted]⟩ []).toList = none) ∧
      forged.WellNamed ∧
      parse (renderPrometheus ⟨fun _ => [forged]⟩ []).toList =
        some [{ forged.sample with
          labels := [("component".toList, "disk".toList), ("host".toList, "a".toList)] }] := by
  intro quoted forged
  refine ⟨⟨componentHealth_named _, ?_⟩, componentHealth_named _, ?_⟩
  · decide
  · decide

end MetricsHandler

end EdgeBootstrap
