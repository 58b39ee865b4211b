import EdgeBootstrap.Transport.Ingress

/-! `MetricsHandler`: the metrics provider as a page of Prometheus text. How a
provider aggregates what was recorded with it is its own affair. -/
namespace EdgeBootstrap

/-- `swe_observ_metrics::MetricType`. -/
inductive MetricType
  | counter | gauge | histogram
  deriving DecidableEq, Repr

/-- `MetricSnapshot`; the value is its `Display`. -/
structure MetricSnapshot where
  name : String
  metricType : MetricType
  labels : List (String × String)
  value : String
  deriving DecidableEq, Repr

/-- `dyn MetricsProvider`: what it exports, given what was recorded. -/
structure MetricsProvider where
  exportSnapshots : List MetricRecord → List MetricSnapshot

/-- The type a metric is declared with; a histogram is exported as a gauge. -/
def MetricType.declared : MetricType → String
  | .counter => "counter"
  | .gauge => "gauge"
  | .histogram => "gauge"

/-- The labels of a sample, as rendered. -/
def MetricSnapshot.renderedLabels (snap : MetricSnapshot) : String :=
  if snap.labels.isEmpty then ""
  else "\x7b" ++ ",".intercalate (snap.labels.map fun l => l.1 ++ "=\"" ++ l.2 ++ "\"") ++ "\x7d"

/-- The two lines of a sample. -/
def MetricSnapshot.rendered (snap : MetricSnapshot) : String :=
  "# TYPE " ++ snap.name ++ " " ++ snap.metricType.declared ++ "\n" ++
    snap.name ++ snap.renderedLabels ++ " " ++ snap.value ++ "\n"

structure MetricsHandler where
  provider : MetricsProvider
  path : String

namespace MetricsHandler

/-- `render_prometheus`, of what was recorded. -/
def renderPrometheus (provider : MetricsProvider) (records : List MetricRecord) : String :=
  (provider.exportSnapshots records).foldl (fun out snap => out ++ snap.rendered) ""

/-- What `handle` answers, given what was recorded. -/
def answer (self : MetricsHandler) (req : HttpRequest) (records : List MetricRecord) :
    Except HttpIngressError HttpResponse :=
  if req.method ≠ .get then .error (.invalidInput "metrics endpoint only accepts GET")
  else if endpointPath req.url ≠ Rust.trimEndMatches '/' self.path then
    .error (.notFound ("not found: " ++ req.url))
  else
    .ok { HttpResponse.new 200 (renderPrometheus self.provider records).toUTF8.toList with
      headers := [("content-type", "text/plain; version=0.0.4; charset=utf-8")] }

variable [Platform] {σ α : Type}

/-- The `HttpIngress` implementation. -/
def ingress (self : MetricsHandler) : HttpIngress σ α where
  handle req := (fun w => self.answer req.request w.counters.provider) <$> Traced.get
  healthCheck := .ok ⟨true, none⟩

/-- The metrics page calls nothing outside. -/
@[simp] theorem events_ingress (self : MetricsHandler) (req : InboundRequest) (w : World σ α) :
    ((self.ingress : HttpIngress σ α).handle req).events w = [] := rfl

end MetricsHandler

end EdgeBootstrap
