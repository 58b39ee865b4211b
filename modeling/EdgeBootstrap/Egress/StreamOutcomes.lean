import EdgeBootstrap.Egress.Selections

/-! What the two kinds of call tell the pool about one backend. A buffered call
is classified by its status; a stream counts as delivered once there is one,
with whatever status it opens. -/
namespace EdgeBootstrap
open LoadBalancedHttpEgress

/-- The backend is to be degraded. -/
def Outcome.IsFailure : Outcome → Prop
  | .failure _ => True
  | .success => False

/-- An error, or the status of a failing server. -/
def Degrading : Except HttpEgressError Nat → Prop
  | .error _ => True
  | .ok status => 500 ≤ status

section
variable [Platform]

/-- What a call reports to the pool. -/
def EgressCall.reports (deps : EgressDeps) (call : EgressCall) (pool : deps.loadbalancer.Pool) :
    List (BackendId × Outcome) := ((call.perform deps).events pool).filterMap (·.report?)

variable {deps : EgressDeps} {call : EgressCall} {request : HttpRequest}
  {pool pool' : deps.loadbalancer.Pool} {backend : Backend} {url : String}

/-- A call whose request can be sent to its backend reports one outcome. -/
theorem reports_of_usable (needs : call.request? = some request)
    (selected : deps.loadbalancer.select pool = (.ok backend, pool'))
    (usable : rewriteUrl deps request.url backend.url = .ok url) :
    call.reports deps pool = [(backend.id, call.outcomeAt deps url)] := by
  cases call.course pool with
  | untouched needless =>
    rw [needs] at needless
    cases needless
  | refused refused =>
    rw [selected] at refused
    cases refused
  | unusable needs' selected' unusable =>
    cases needs.symm.trans needs'
    rw [selected] at selected'
    cases selected'
    exact absurd (rewriteUrl_ok_iff.mp ⟨url, usable⟩) unusable
  | sent needs' selected' usable' _ events =>
    cases needs.symm.trans needs'
    rw [selected] at selected'
    cases selected'
    cases usable.symm.trans usable'
    rw [EgressCall.reports, events]
    rfl

/-- A buffered response is a failure by its status. -/
theorem sendOutcome_isFailure_iff
    (serverError : ∀ resp, deps.isServerError resp = decide (500 ≤ resp.status))
    (result : Except HttpEgressError HttpResponse) :
    (sendOutcome deps result).IsFailure ↔ Degrading (result.map (·.status)) := by
  cases result with
  | error e => exact Iff.rfl
  | ok resp =>
    simp only [sendOutcome, serverError, decide_eq_true_eq]
    split
    · rename_i degraded
      exact iff_of_true trivial degraded
    · rename_i healthy
      exact iff_of_false id healthy

/-- A stream is a failure only when there is none. -/
theorem streamOutcome_isFailure_iff (result : Except HttpEgressError HttpStreamResponse) :
    (streamOutcome deps result).IsFailure ↔ ∃ e, result = .error e := by
  cases result with
  | error e => exact iff_of_true trivial ⟨e, rfl⟩
  | ok resp =>
    refine iff_of_false id ?_
    rintro ⟨e, impossible⟩
    cases impossible

/-- A buffered call reports a failure for an error and for a status from 500 on,
a streaming call for an error alone. Given the same status or error they report
the same kind exactly when the status is below 500 or there is none. -/
theorem outcomes_agree_below_500 (deps : EgressDeps)
    (serverError : ∀ resp, deps.isServerError resp = decide (500 ≤ resp.status))
    (inner : HttpEgress) (request : HttpRequest) (pool pool' : deps.loadbalancer.Pool)
    (backend : Backend) (url : String)
    (selected : deps.loadbalancer.select pool = (.ok backend, pool'))
    (usable : rewriteUrl deps request.url backend.url = .ok url) :
    let buffered := (inner.send { request with url := url }).map (·.status)
    let streamed := (inner.sendStream { request with url := url }).map (·.status)
    ∃ sent opened, (EgressCall.send inner request).reports deps pool = [(backend.id, sent)] ∧
      (EgressCall.sendStream inner request).reports deps pool = [(backend.id, opened)] ∧
      (sent.IsFailure ↔ Degrading buffered) ∧ (opened.IsFailure ↔ ∃ e, streamed = .error e) ∧
      (buffered = streamed →
        ((sent.IsFailure ↔ opened.IsFailure) ↔ ∀ status, streamed = .ok status → status < 500)) := by
  intro buffered streamed
  have sends : (sendOutcome deps (inner.send { request with url := url })).IsFailure ↔
      Degrading buffered := sendOutcome_isFailure_iff serverError _
  have opens : (streamOutcome deps (inner.sendStream { request with url := url })).IsFailure ↔
      ∃ e, streamed = .error e := by
    rw [streamOutcome_isFailure_iff]
    show _ ↔ ∃ e, Except.map _ _ = _
    cases inner.sendStream { request with url := url } <;> simp [Except.map]
  refine ⟨_, _, reports_of_usable rfl selected usable, reports_of_usable rfl selected usable, sends,
    opens, fun same => ?_⟩
  change ((sendOutcome deps _).IsFailure ↔ (streamOutcome deps _).IsFailure) ↔ _
  rw [sends, opens, same]
  cases streamed with
  | error e => simp [Degrading]
  | ok status => simp [Degrading]

end

section Reference
attribute [local instance] Platform.pooled

/-- A backend that answers 404 to both kinds of call. -/
theorem outcomes_agree_below_500_not_found :
    let deps := EgressDeps.reference ["https://one.internal", "https://users.test"]
    let inner := HttpEgress.answering 404 (.ok ())
    let request : HttpRequest := ⟨.get, "https://users.test", [], none⟩
    let pool : List Slot := [⟨⟨"https://one.internal", 1⟩, true⟩]
    ∃ sent opened,
      (EgressCall.send inner request).reports deps pool = [(⟨"https://one.internal"⟩, sent)] ∧
      (EgressCall.sendStream inner request).reports deps pool =
        [(⟨"https://one.internal"⟩, opened)] ∧
      (sent.IsFailure ↔ opened.IsFailure) := by
  intro deps inner request pool
  obtain ⟨sent, opened, buffered, streamed, _, _, agree⟩ := outcomes_agree_below_500 deps
    (fun _ => rfl) inner request pool pool ⟨⟨"https://one.internal"⟩, "https://one.internal"⟩
    "https://one.internal/" rfl rfl
  refine ⟨sent, opened, buffered, streamed, (agree rfl).mpr ?_⟩
  rintro status ⟨⟩
  decide

/-- A backend that answers 503 to both kinds of call is degraded by the buffered
one and kept healthy by the stream. -/
theorem unavailable_backend_streams_successfully :
    let deps := EgressDeps.reference ["https://one.internal", "https://users.test"]
    let inner := HttpEgress.answering 503 (.ok ())
    let request : HttpRequest := ⟨.get, "https://users.test", [], none⟩
    let pool : List Slot := [⟨⟨"https://one.internal", 1⟩, true⟩]
    (∀ sent, (inner.send sent).map (·.status) = .ok 503 ∧
      (inner.sendStream sent).map (·.status) = .ok 503) ∧
    (EgressCall.send inner request).reports deps pool =
      [(⟨"https://one.internal"⟩, .failure "status 503")] ∧
    (EgressCall.sendStream inner request).reports deps pool =
      [(⟨"https://one.internal"⟩, .success)] :=
  ⟨fun _ => ⟨rfl, rfl⟩, rfl, rfl⟩

end Reference

end EdgeBootstrap
