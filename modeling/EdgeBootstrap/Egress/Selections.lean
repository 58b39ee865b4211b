import EdgeBootstrap.Egress.LoadBalanced

/-! Runs of calls on one load-balanced client, each with its own answers of the
inner client. What a call does is said once, in `perform_cases`; from it, a run
answers every selection exactly when every backend it selects can be sent the
request that selected it. -/
namespace EdgeBootstrap
open StepMachine LoadBalancedHttpEgress

section

variable [Platform]

/-- A call through the `HttpEgress` interface, and how the inner client answers
while it runs. -/
inductive EgressCall
  | send (inner : HttpEgress) (request : HttpRequest)
  | sendStream (inner : HttpEgress) (request : HttpRequest)
  | healthCheck (inner : HttpEgress)
  | config (inner : HttpEgress)

namespace EgressCall

/-- The request of a call that needs a backend. -/
def request? : EgressCall → Option HttpRequest
  | .send _ request | .sendStream _ request => some request
  | .healthCheck _ | .config _ => none

/-- The inner client of a call. -/
def inner : EgressCall → HttpEgress
  | .send inner _ | .sendStream inner _ | .healthCheck inner | .config inner => inner

variable (deps : EgressDeps)

/-- What the call reports when its request is sent to `url`. -/
def outcomeAt (url : String) : EgressCall → Outcome
  | .send inner request => sendOutcome deps (inner.send { request with url := url })
  | .sendStream inner request => streamOutcome deps (inner.sendStream { request with url := url })
  | .healthCheck _ | .config _ => .success

/-- The call on the pool, its answer left out. -/
def perform : EgressCall → OnPool deps Unit
  | .send inner request => (fun _ => ()) <$> LoadBalancedHttpEgress.send deps inner request
  | .sendStream inner request => (fun _ => ()) <$> LoadBalancedHttpEgress.sendStream deps inner request
  | .healthCheck inner => (fun _ => ()) <$> LoadBalancedHttpEgress.healthCheck deps inner
  | .config inner => (fun _ => ()) <$> LoadBalancedHttpEgress.config deps inner

variable {deps} {call : EgressCall} {pool : deps.loadbalancer.Pool}

/-- How a call can go: no backend is needed or found, the backend cannot be used,
or the request is sent to it and the outcome reported. -/
inductive Course (call : EgressCall) (pool : deps.loadbalancer.Pool) : Prop
  | untouched (needless : call.request? = none)
      (state : (call.perform deps).state pool = pool)
      (events : (call.perform deps).events pool = [])
  | refused {e : String} (selected : (deps.loadbalancer.select pool).1 = .error e)
      (state : (call.perform deps).state pool = (deps.loadbalancer.select pool).2)
      (events : (call.perform deps).events pool = [])
  | unusable {request : HttpRequest} {backend : Backend} (needs : call.request? = some request)
      (selected : (deps.loadbalancer.select pool).1 = .ok backend)
      (unusable : ¬ (deps.url.Parses backend.url ∧ deps.url.Parses request.url))
      (state : (call.perform deps).state pool = (deps.loadbalancer.select pool).2)
      (events : (call.perform deps).events pool = [.selected backend])
  | sent {request : HttpRequest} {backend : Backend} {url : String}
      (needs : call.request? = some request)
      (selected : (deps.loadbalancer.select pool).1 = .ok backend)
      (usable : rewriteUrl deps request.url backend.url = .ok url)
      (state : (call.perform deps).state pool = deps.loadbalancer.reportOutcome
        (deps.loadbalancer.select pool).2 backend.id (call.outcomeAt deps url))
      (events : (call.perform deps).events pool =
        [.selected backend, .delegated { request with url := url },
          .reported backend.id (call.outcomeAt deps url)])

/-- The course of the two calls that need a backend. -/
private theorem course_of_balanced {R : Type} {request : HttpRequest}
    (inner : HttpRequest → Except HttpEgressError R) (outcome : Except HttpEgressError R → Outcome)
    (needs : call.request? = some request)
    (performs : call.perform deps = (fun _ => ()) <$> balanced deps inner outcome request)
    (reports : ∀ url, call.outcomeAt deps url = outcome (inner { request with url := url })) :
    call.Course pool := by
  have state : (call.perform deps).state pool = (balanced deps inner outcome request pool).2.1 := by
    rw [performs, Traced.state_map]
    rfl
  have events : (call.perform deps).events pool = (balanced deps inner outcome request pool).2.2 := by
    rw [performs, Traced.events_map]
    rfl
  obtain ⟨answer, next, selects⟩ : ∃ answer next, deps.loadbalancer.select pool = (answer, next) :=
    ⟨_, _, rfl⟩
  cases answer with
  | error e =>
    rw [balanced_of_refused selects] at state events
    exact .refused (by rw [selects]) (by rw [state, selects]) events
  | ok backend =>
    cases rewritten : rewriteUrl deps request.url backend.url with
    | error failed =>
      rw [balanced_of_unusable selects rewritten] at state events
      have unusable : ¬ (deps.url.Parses backend.url ∧ deps.url.Parses request.url) := by
        rw [← rewriteUrl_ok_iff, rewritten]
        simp
      exact .unusable needs (by rw [selects]) unusable (by rw [state, selects]) events
    | ok url =>
      rw [balanced_of_usable selects rewritten] at state events
      exact .sent needs (by rw [selects]) rewritten (by rw [state, selects, reports])
        (by rw [events, reports])

variable (call pool) in
theorem course : call.Course pool := by
  cases call with
  | send inner request =>
    exact course_of_balanced inner.send (sendOutcome deps) rfl rfl fun _ => rfl
  | sendStream inner request =>
    exact course_of_balanced inner.sendStream (streamOutcome deps) rfl rfl fun _ => rfl
  | healthCheck inner | config inner => exact .untouched rfl rfl rfl

end EgressCall

section Runs
variable (deps : EgressDeps)

/-- A pool, and what was done with it so far. -/
structure ClientState where
  pool : deps.loadbalancer.Pool
  log : List EgressEvent

/-- The calls on a client with the given pool, one after the other. -/
def clientMachine (pool : deps.loadbalancer.Pool) : StepMachine (ClientState deps) EgressCall where
  init := ⟨pool, []⟩
  step s call := some ⟨(call.perform deps).state s.pool, s.log ++ (call.perform deps).events s.pool⟩

/-- A call answers the backend it selected with one outcome, a failure if the
backend's URL cannot be used. -/
def Answers (events : List EgressEvent) : Prop :=
  ∀ backend, .selected backend ∈ events →
    ∃ outcome, events.filterMap (·.report?) = [(backend.id, outcome)] ∧
      (¬ deps.url.Parses backend.url → outcome ≠ .success)

/-- The call and the backend it is about to be given both have a URL. -/
def Usable (pool : deps.loadbalancer.Pool) (call : EgressCall) : Prop :=
  ∀ request backend, call.request? = some request → (deps.loadbalancer.select pool).1 = .ok backend →
    deps.url.Parses backend.url ∧ deps.url.Parses request.url

variable {deps} {call : EgressCall} {pool : deps.loadbalancer.Pool}

/-- A call answers its selection exactly when its backend can be used. -/
theorem answers_iff_usable : Answers deps ((call.perform deps).events pool) ↔ Usable deps pool call := by
  cases call.course pool with
  | untouched needless _ events =>
    rw [events]
    refine iff_of_true (by simp [Answers]) fun request backend needs => ?_
    rw [needless] at needs
    cases needs
  | refused selected _ events =>
    rw [events]
    refine iff_of_true (by simp [Answers]) fun request backend _ selects => ?_
    rw [selected] at selects
    cases selects
  | @unusable request backend needs selected unusable _ events =>
    rw [events]
    refine iff_of_false ?_ fun usable => unusable (usable request backend needs selected)
    intro answers
    obtain ⟨outcome, reported, _⟩ := answers backend (by simp)
    simp [EgressEvent.report?] at reported
  | @sent request backend url needs selected usable _ events =>
    have parses := rewriteUrl_ok_iff.mp ⟨url, usable⟩
    rw [events]
    apply iff_of_true
    · intro other held
      have same : other = backend := by simpa using held
      subst same
      exact ⟨_, rfl, fun unparsable => absurd parses.1 unparsable⟩
    · intro request' backend' needs' selected'
      cases needs.symm.trans needs'
      cases selected.symm.trans selected'
      exact parses

/-- In every sequence of calls, each call that obtains a backend reports one
outcome for it, a failure if it cannot be used, exactly when every call and the
backend it obtains have URLs that parse. -/
theorem every_selection_answered_iff (start : deps.loadbalancer.Pool) (calls : List EgressCall) :
    (clientMachine deps start).Throughout
        (fun _ s call => Answers deps ((call.perform deps).events s.pool)) calls ↔
      (clientMachine deps start).Throughout (fun _ s call => Usable deps s.pool call) calls := by
  simp only [Throughout, answers_iff_usable]

end Runs

end

section Reference

attribute [local instance] Platform.pooled

/-- The pool accepts a backend without a scheme; a call that is given it leaves
with the selection unreported. -/
theorem schemeless_backend_goes_unreported :
    let deps := EgressDeps.reference ["https://irrelevant.test"]
    let inner := HttpEgress.answering 200 (.ok ())
    let request : HttpRequest := ⟨.get, "https://irrelevant.test", [], none⟩
    ∃ client, LoadBalancedHttpEgress.new deps inner [⟨"backend.internal", 1⟩] = .ok client ∧
      ((EgressCall.send inner request).perform deps).events client.pool =
        [.selected ⟨⟨"backend.internal"⟩, "backend.internal"⟩] ∧
      ¬ (clientMachine deps client.pool).Throughout
        (fun _ s call => Answers deps ((call.perform deps).events s.pool)) [.send inner request] := by
  refine ⟨_, rfl, rfl, fun all => ?_⟩
  obtain ⟨outcome, reported, _⟩ := all [] _ [] _ rfl rfl ⟨⟨"backend.internal"⟩, "backend.internal"⟩
    List.mem_cons_self
  cases reported

end Reference

end EdgeBootstrap
