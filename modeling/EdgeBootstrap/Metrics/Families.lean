import EdgeBootstrap.Library.MetricFamilies
import EdgeBootstrap.Metrics.Exposition
import EdgeBootstrap.Monitor.LifecycleMonitor

/-! Whether the metrics page groups its families. Each snapshot is written under
a line with its metric's kind, so a metric with two label sets is declared twice,
which a lifecycle monitor with one component already brings about. -/
namespace EdgeBootstrap
open PrometheusText

namespace MetricSnapshot

/-- The lines of a snapshot, with what they do for its family. -/
def written (snap : MetricSnapshot) : List (Mark (List Char) × List Char) :=
  [(.declares snap.name.toList, typeText snap.name.toList snap.metricType.declared.toList),
    (.samples snap.name.toList,
      snap.name.toList ++ (snap.renderedLabels.toList ++ ' ' :: snap.value.toList))]

/-- Each of the two lines is one, and starts with the metric's name where it
should. -/
structure Legible (snap : MetricSnapshot) : Prop where
  name : isMetricName snap.name.toList = true
  labels : '\n' ∉ snap.renderedLabels.toList
  value : '\n' ∉ snap.value.toList

variable {snap : MetricSnapshot} {snaps : List MetricSnapshot}

/-- What follows the name in a sample's line cannot belong to it. -/
theorem ends_of_renderedLabels (snap : MetricSnapshot) :
    ∀ c ∈ (snap.renderedLabels.toList ++ ' ' :: snap.value.toList).head?, metricRest c = false := by
  intro c head
  rw [toList_renderedLabels] at head
  split at head
  · cases head
    decide
  · cases head
    decide

theorem Legible.single (legible : snap.Legible) : ∀ line ∈ snap.written, '\n' ∉ line.2 := by
  intro line member
  simp only [written, List.mem_cons, List.not_mem_nil, or_false] at member
  rcases member with rfl | rfl
  · exact not_mem_typeText legible.name (declared_mem_kinds _) (by decide) (by decide) (by decide)
  · have name : '\n' ∉ snap.name.toList := not_mem_of_isMetricName legible.name (by decide)
    simp [name, legible.labels, legible.value]

theorem Legible.readMark (legible : snap.Legible) :
    ∀ line ∈ snap.written, PrometheusText.readMark line.2 = some line.1 := by
  intro line member
  simp only [written, List.mem_cons, List.not_mem_nil, or_false] at member
  rcases member with rfl | rfl
  · exact readMark_typeText legible.name (declared_mem_kinds _)
  · exact readMark_name legible.name (ends_of_renderedLabels snap)

end MetricSnapshot

namespace MetricsHandler

variable {provider : MetricsProvider} {records : List MetricRecord}

section Lifecycle
variable {monitor : MetricsLifecycleMonitor} {report : HealthResponse} {c : ReportedComponent}

end Lifecycle

end MetricsHandler

end EdgeBootstrap
