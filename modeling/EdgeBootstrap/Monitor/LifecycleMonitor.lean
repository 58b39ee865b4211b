import EdgeBootstrap.Runtime.Manager

/-! `MetricsLifecycleMonitor`: a lifecycle monitor whose reports are also recorded
with the metrics provider. -/
namespace EdgeBootstrap

structure MetricsLifecycleMonitor where
  inner : LifecycleMonitor

namespace MetricsLifecycleMonitor

def score : HealthStatus → Rat
  | .healthy => 1
  | .degraded => 1 / 2
  | .unhealthy => 0

/-- The gauge recorded under a component's id. -/
def gauge (id : String) (status : HealthStatus) : MetricRecord :=
  .gauge "edge_component_health" (score status) [("component", id)]

/-- `health`: its answer, and what the provider has then, given what was
recorded before. -/
def health (self : MetricsLifecycleMonitor) (records : List MetricRecord) :
    Except String HealthResponse × List MetricRecord :=
  match self.inner.health with
  | .error e => (.error e, records)
  | .ok report =>
    (.ok report, records ++ report.components.map (fun c => gauge c.id c.status) ++
      [gauge "overall" report.overall])

variable {self : MetricsLifecycleMonitor} {report : HealthResponse}

end MetricsLifecycleMonitor

end EdgeBootstrap
