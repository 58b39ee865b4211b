import EdgeBootstrap.Egress.Recovery
import EdgeBootstrap.Library.Tallies

/-! Calls of one load-balanced client at the same time, as the futures they are.
The first poll of a future selects a backend, rewrites the URL and hands the
request to the inner client; the poll the answer arrives in reports it. A future
dropped in between keeps the selection it made and reports nothing. -/
namespace EdgeBootstrap.ConcurrentCalls
open StepMachine LoadBalancedHttpEgress

section
variable [Platform]

/-- The call a future was made for. -/
inductive Operation
  | send (request : HttpRequest)
  | sendStream (request : HttpRequest)

def Operation.request : Operation → HttpRequest
  | .send request | .sendStream request => request

/-- What the inner client answers. -/
inductive Answer
  | sent (result : Except HttpEgressError HttpResponse)
  | streamed (result : Except HttpEgressError HttpStreamResponse)

/-- The answer is one of the operation's own kind. -/
def Answer.Fits : Answer → Operation → Prop
  | .sent _, .send _ | .streamed _, .sendStream _ => True
  | _, _ => False

instance (answer : Answer) (operation : Operation) : Decidable (answer.Fits operation) := by
  cases answer <;> cases operation <;> unfold Answer.Fits <;> infer_instance

/-- What is reported of an answer. -/
def Answer.outcome (deps : EgressDeps) : Answer → Outcome
  | .sent result => sendOutcome deps result
  | .streamed result => streamOutcome deps result

/-- How far a future has come, with the backend it was given. -/
inductive Future
  | called (operation : Operation)
  | awaiting (operation : Operation) (backend : Backend)
  | refused
  | unusable (backend : Backend)
  | answered (answer : Answer)
  | dropped (backend : Option Backend)

namespace Future

/-- Neither returned nor dropped. -/
def live : Future → Bool
  | .called _ | .awaiting _ _ => true
  | _ => false

/-- The backend whose selection the future has not answered, or never will. -/
def unanswered : Future → Option Backend
  | .awaiting _ backend | .unusable backend => some backend
  | .dropped backend => backend
  | _ => none

/-- The future owes a report on a backend of this id. -/
def owes (id : BackendId) (f : Future) : Bool := f.unanswered.any (·.id = id)

end Future

variable (deps : EgressDeps)

/-- The pool, every future so far, and what was done with the pool. -/
structure State where
  pool : deps.loadbalancer.Pool
  futures : List Future
  log : List EgressEvent

inductive Action
  | call (operation : Operation)
  | poll (i : Nat)
  | answer (i : Nat) (answer : Answer)
  | drop (i : Nat)

namespace Future

variable {deps}

/-- The first poll: everything up to the request that is handed on. -/
def poll (pool : deps.loadbalancer.Pool) :
    Future → Option (Future × deps.loadbalancer.Pool × List EgressEvent)
  | .called operation =>
    match deps.loadbalancer.select pool with
    | (.error _, pool) => some (.refused, pool, [])
    | (.ok backend, pool) =>
      match rewriteUrl deps operation.request.url backend.url with
      | .error _ => some (.unusable backend, pool, [.selected backend])
      | .ok url => some (.awaiting operation backend, pool,
          [.selected backend, .delegated { operation.request with url := url }])
  | _ => none

/-- The poll in which the inner client's answer arrives. -/
def answer (answer : Answer) (pool : deps.loadbalancer.Pool) :
    Future → Option (Future × deps.loadbalancer.Pool × List EgressEvent)
  | .awaiting operation backend =>
    if answer.Fits operation then
      some (.answered answer, deps.loadbalancer.reportOutcome pool backend.id (answer.outcome deps),
        [.reported backend.id (answer.outcome deps)])
    else none
  | _ => none

/-- A drop runs no code of the client. -/
def drop (pool : deps.loadbalancer.Pool) :
    Future → Option (Future × deps.loadbalancer.Pool × List EgressEvent)
  | .called _ => some (.dropped none, pool, [])
  | .awaiting _ backend => some (.dropped (some backend), pool, [])
  | _ => none

end Future

variable {deps}

/-- The future `i` takes a step on the pool. -/
def State.advance (s : State deps) (i : Nat)
    (f : Future → Option (Future × deps.loadbalancer.Pool × List EgressEvent)) :
    Option (State deps) :=
  (s.futures[i]?.bind f).map fun after =>
    ⟨after.2.1, s.futures.set i after.1, s.log ++ after.2.2⟩

def step (s : State deps) : Action → Option (State deps)
  | .call operation => some { s with futures := s.futures ++ [.called operation] }
  | .poll i => s.advance i (Future.poll s.pool)
  | .answer i answer => s.advance i (Future.answer answer s.pool)
  | .drop i => s.advance i (Future.drop s.pool)

/-- A client with the given pool, and no calls yet. -/
def machine (pool : deps.loadbalancer.Pool) : StepMachine (State deps) Action where
  init := ⟨pool, [], []⟩
  step := step

variable {s s' t : State deps} {i : Nat} {start : deps.loadbalancer.Pool}

/-- A step of a future, told by what it found. -/
theorem advance_spec {f : Future → Option (Future × deps.loadbalancer.Pool × List EgressEvent)}
    (advanced : s.advance i f = some s') :
    ∃ before after pool events, s.futures[i]? = some before ∧
      f before = some (after, pool, events) ∧
      s' = ⟨pool, s.futures.set i after, s.log ++ events⟩ := by
  simp only [State.advance, Option.map_eq_some_iff, Option.bind_eq_some_iff] at advanced
  obtain ⟨⟨after, pool, events⟩, ⟨before, found, stepped⟩, rfl⟩ := advanced
  exact ⟨before, after, pool, events, found, stepped, rfl⟩

section Undisturbed

/-- The future of a call. -/
def operation? : EgressCall → Option Operation
  | .send _ request => some (.send request)
  | .sendStream _ request => some (.sendStream request)
  | .healthCheck _ | .config _ => none

variable (deps) in
/-- The future of a call needs a backend for its request, and reports what the call
reports. -/
theorem operation?_spec {call : EgressCall} {operation : Operation}
    (needs : operation? call = some operation) :
    call.request? = some operation.request ∧
      ∃ answer : String → Answer, ∀ url, (answer url).Fits operation ∧
        (answer url).outcome deps = call.outcomeAt deps url := by
  cases call with
  | send inner request =>
    cases needs
    exact ⟨rfl, fun url => .sent (inner.send { request with url := url }), fun _ => ⟨trivial, rfl⟩⟩
  | sendStream inner request =>
    cases needs
    exact ⟨rfl, fun url => .streamed (inner.sendStream { request with url := url }),
      fun _ => ⟨trivial, rfl⟩⟩
  | healthCheck inner | config inner => cases needs

/-- The steps of a future that was just made. -/
theorem poll_last (operation : Operation) :
    (machine start).execFrom s [.call operation, .poll s.futures.length] =
      (Future.poll s.pool (.called operation)).map fun after =>
        ⟨after.2.1, s.futures ++ [after.1], s.log ++ after.2.2⟩ := by
  cases polled : Future.poll s.pool (.called operation) with
  | none => simp [machine, step, State.advance, polled]
  | some after => simp [machine, step, State.advance, polled]

/-- A call with nothing between its steps does to the pool what `perform` does. -/
theorem perform_steps (call : EgressCall) {operation : Operation}
    (needs : operation? call = some operation) (s : State deps) :
    ∃ actions after, (machine start).execFrom s actions =
      some ⟨(call.perform deps).state s.pool, s.futures ++ [after],
        s.log ++ (call.perform deps).events s.pool⟩ := by
  obtain ⟨request, answer, reports⟩ := operation?_spec deps needs
  obtain ⟨selection, pool, selects⟩ :
    ∃ selection pool, deps.loadbalancer.select s.pool = (selection, pool) := ⟨_, _, rfl⟩
  cases call.course s.pool with
  | untouched needless => cases needless.symm.trans request
  | refused selected state events =>
    rw [selects] at selected state
    cases selected
    refine ⟨[.call operation, .poll s.futures.length], .refused, ?_⟩
    rw [poll_last, state, events]
    simp [Future.poll, selects]
  | @unusable _ backend needs' selected unusable state events =>
    cases request.symm.trans needs'
    rw [selects] at selected state
    cases selected
    refine ⟨[.call operation, .poll s.futures.length], .unusable backend, ?_⟩
    rw [poll_last, state, events]
    rw [← rewriteUrl_ok_iff] at unusable
    cases rewritten : rewriteUrl deps operation.request.url backend.url with
    | ok url => exact absurd ⟨url, rewritten⟩ unusable
    | error e => simp [Future.poll, selects, rewritten]
  | @sent _ backend url needs' selected usable state events =>
    cases request.symm.trans needs'
    rw [selects] at selected state
    cases selected
    refine ⟨[.call operation, .poll s.futures.length] ++ [.answer s.futures.length (answer url)],
      .answered (answer url), ?_⟩
    rw [execFrom_append, poll_last, state, events, ← (reports url).2]
    simp [Future.poll, selects, usable, machine, step, State.advance, Future.answer,
      (reports url).1]

end Undisturbed

section Accounts

/-- How often a backend was selected. -/
def State.selections (s : State deps) (id : BackendId) : Nat :=
  s.log.countP fun e => e.selection? = some id

/-- How many outcomes were reported for a backend. -/
def State.reports (s : State deps) (id : BackendId) : Nat :=
  s.log.countP fun e => e.report?.map Prod.fst = some id

/-- What a step of a future adds to the selections of a backend, it adds to the
reports or to what the future owes. -/
def Settles (before after : Future) (events : List EgressEvent) : Prop :=
  ∀ id, events.countP (fun e => e.selection? = some id) + (if before.owes id then 1 else 0) =
    events.countP (fun e => e.report?.map Prod.fst = some id) + if after.owes id then 1 else 0

theorem settles_poll {before after : Future} {pool pool' : deps.loadbalancer.Pool}
    {events : List EgressEvent} (polled : before.poll pool = some (after, pool', events)) :
    Settles before after events := by
  unfold Future.poll at polled
  split at polled
  · split at polled
    · cases polled
      simp [Settles, Future.owes, Future.unanswered]
    · split at polled
      · cases polled
        intro id
        simp [List.countP_cons, EgressEvent.selection?, EgressEvent.report?, Future.owes,
          Future.unanswered]
      · cases polled
        intro id
        simp [List.countP_cons, EgressEvent.selection?, EgressEvent.report?, Future.owes,
          Future.unanswered]
  · cases polled

theorem settles_answer {answer : Answer} {before after : Future}
    {pool pool' : deps.loadbalancer.Pool} {events : List EgressEvent}
    (answered : before.answer answer pool = some (after, pool', events)) :
    Settles before after events := by
  unfold Future.answer at answered
  split at answered
  · split at answered
    · cases answered
      intro id
      simp [List.countP_cons, EgressEvent.selection?, EgressEvent.report?, Future.owes,
        Future.unanswered]
    · cases answered
  · cases answered

theorem settles_drop {before after : Future} {pool pool' : deps.loadbalancer.Pool}
    {events : List EgressEvent} (dropped : before.drop pool = some (after, pool', events)) :
    Settles before after events := by
  unfold Future.drop at dropped
  split at dropped
  · cases dropped
    simp [Settles, Future.owes, Future.unanswered]
  · cases dropped
    simp [Settles, Future.owes, Future.unanswered]
  · cases dropped

/-- The selections of a backend are its reports and what futures owe. -/
def Accounted (s : State deps) : Prop :=
  ∀ id, s.selections id = s.reports id + s.futures.countP (Future.owes id)

theorem Accounted.advance
    {f : Future → Option (Future × deps.loadbalancer.Pool × List EgressEvent)}
    (accounted : Accounted s)
    (each : ∀ before after pool events, f before = some (after, pool, events) →
      Settles before after events)
    (advanced : s.advance i f = some s') : Accounted s' := by
  obtain ⟨before, after, pool, events, found, stepped, rfl⟩ := advance_spec advanced
  intro id
  have settles := each before after pool events stepped id
  have counted := List.countP_set_of_getElem? (Future.owes id) found after
  have account := accounted id
  simp only [State.selections, State.reports, List.countP_append] at account ⊢
  omega

theorem accounted_of_exec {actions : List Action} (ran : (machine start).exec actions = some s) :
    Accounted s := by
  refine (machine start).invariant (I := Accounted) ?_ ?_ ran
  · intro id
    rfl
  · intro s a s' accounted stepped
    cases a with
    | call operation =>
      cases stepped
      intro id
      simpa [State.selections, State.reports, Future.owes, Future.unanswered] using accounted id
    | poll i => exact accounted.advance (fun _ _ _ _ => settles_poll) stepped
    | answer i answer => exact accounted.advance (fun _ _ _ _ => settles_answer) stepped
    | drop i => exact accounted.advance (fun _ _ _ _ => settles_drop) stepped

/-- In every interleaving of calls of one client, dropped at any point or not, the
selections of each backend are the outcomes reported for it, the futures waiting
for it, and those that ended without a report because it could not be used or
because they were dropped while they waited. With no future in progress, every
selection has been answered exactly when there is none of the last two kinds. -/
theorem selections_accounted (start : deps.loadbalancer.Pool) (actions : List Action)
    (s : State deps) (ran : (machine start).exec actions = some s) :
    (∀ id, s.selections id = s.reports id + s.futures.countP (Future.owes id)) ∧
    ((∀ f ∈ s.futures, f.live = false) →
      ((∀ id, s.selections id = s.reports id) ↔
        ∀ f ∈ s.futures, ∀ backend, f ≠ .unusable backend ∧ f ≠ .dropped (some backend))) := by
  have accounted := accounted_of_exec ran
  refine ⟨accounted, fun quiet => ?_⟩
  have owes : ∀ f ∈ s.futures, f.unanswered = none ↔
      ∀ backend, f ≠ .unusable backend ∧ f ≠ .dropped (some backend) := by
    intro f held
    cases f with
    | called _ | awaiting _ _ => cases quiet _ held
    | refused | answered _ | unusable _ => simp [Future.unanswered]
    | dropped backend => cases backend <;> simp [Future.unanswered]
  constructor
  · intro balanced f held
    rw [← owes f held]
    cases left : f.unanswered with
    | none => rfl
    | some backend =>
      have none : s.futures.countP (Future.owes backend.id) = 0 := by
        have account := accounted backend.id
        have same := balanced backend.id
        omega
      have spared := List.countP_eq_zero.mp none f held
      simp [Future.owes, left] at spared
  · intro settled id
    have none : s.futures.countP (Future.owes id) = 0 := by
      rw [List.countP_eq_zero]
      intro f held
      rw [Future.owes, (owes f held).mpr (settled f held)]
      simp
    rw [accounted id, none, Nat.add_zero]

end Accounts

section Recovery
variable (health : deps.loadbalancer.Health)

/-- The future waits for this backend. -/
def Future.Awaits (backend : Backend) (f : Future) : Prop :=
  ∃ operation, f = .awaiting operation backend

/-- Futures wait for backends of the pool only. -/
structure Sound (start : deps.loadbalancer.Pool) (s : State deps) : Prop where
  member : ∀ b, health.Member s.pool b ↔ health.Member start b
  awaited : ∀ f ∈ s.futures, ∀ b, f.Awaits b → health.Member s.pool b

/-- What a step of a future does to the pool: it keeps the backends; it waits for
one only if that was selectable; and it changes the health of none, or of the one
it waited for. -/
structure Keeps (before after : Future) (pool pool' : deps.loadbalancer.Pool) : Prop where
  member : ∀ b, health.Member pool' b ↔ health.Member pool b
  awaits : ∀ b, after.Awaits b → health.Member pool b ∧ health.Selectable pool b.id
  selectable : ∀ id, health.Selectable pool' id → health.Selectable pool id ∨
    ∃ b, before.Awaits b ∧ b.id = id

variable {health} {before after : Future} {pool pool' : deps.loadbalancer.Pool}
  {events : List EgressEvent}

/-- A step that leaves the pool. -/
theorem Keeps.of_same (left : ∀ b, ¬ after.Awaits b) : Keeps health before after pool pool where
  member _ := Iff.rfl
  awaits b awaits := absurd awaits (left b)
  selectable _ := .inl

theorem keeps_poll (polled : before.poll pool = some (after, pool', events)) :
    Keeps health before after pool pool' := by
  unfold Future.poll at polled
  split at polled
  · split at polled
    · rename_i e next selects
      cases polled
      have after_select : (deps.loadbalancer.select pool).2 = pool' := congrArg Prod.snd selects
      constructor
      · intro b
        rw [← after_select, health.member_select]
      · rintro b ⟨_, other⟩
        cases other
      · intro id
        rw [← after_select, health.selectable_select]
        exact .inl
    · rename_i backend next selects
      have after_select : (deps.loadbalancer.select pool).2 = next := congrArg Prod.snd selects
      have chosen := health.selected (congrArg Prod.fst selects)
      have member : ∀ b, health.Member next b ↔ health.Member pool b := by
        intro b
        rw [← after_select, health.member_select]
      have selectable : ∀ id, health.Selectable next id → health.Selectable pool id := by
        intro id
        rw [← after_select, health.selectable_select]
        exact fun held => held
      split at polled
      · cases polled
        refine ⟨member, ?_, fun id held => .inl (selectable id held)⟩
        rintro b ⟨_, other⟩
        cases other
      · cases polled
        refine ⟨member, ?_, fun id held => .inl (selectable id held)⟩
        rintro b ⟨_, same⟩
        cases same
        exact chosen
  · cases polled

theorem keeps_answer {answer : Answer}
    (answered : before.answer answer pool = some (after, pool', events))
    (member : ∀ b, before.Awaits b → health.Member pool b) :
    Keeps health before after pool pool' := by
  unfold Future.answer at answered
  split at answered
  · rename_i operation backend
    split at answered
    · cases answered
      refine ⟨fun b => health.member_report pool _ _ b, ?_, fun id => ?_⟩
      · rintro b ⟨_, other⟩
        cases other
      · rw [health.selectable_report (member backend ⟨operation, rfl⟩)]
        split
        · rename_i same
          exact fun _ => .inr ⟨backend, ⟨operation, rfl⟩, same.symm⟩
        · exact .inl
    · cases answered
  · cases answered

theorem keeps_drop (dropped : before.drop pool = some (after, pool', events)) :
    Keeps health before after pool pool' := by
  unfold Future.drop at dropped
  split at dropped
  · cases dropped
    exact .of_same fun _ ⟨_, other⟩ => by cases other
  · cases dropped
    exact .of_same fun _ ⟨_, other⟩ => by cases other
  · cases dropped

/-- Nothing puts the backend back: it cannot be selected, and no future waits for
it. -/
structure Lost (health : deps.loadbalancer.Health) (id : BackendId) (s : State deps) : Prop where
  unselectable : ¬ health.Selectable s.pool id
  unawaited : ∀ f ∈ s.futures, ∀ b, f.Awaits b → b.id ≠ id

/-- A step of a future keeps the invariant and what is lost. -/
theorem Sound.advance
    {f : Future → Option (Future × deps.loadbalancer.Pool × List EgressEvent)}
    (sound : Sound health start s)
    (each : ∀ before after pool' events, (∀ b, before.Awaits b → health.Member s.pool b) →
      f before = some (after, pool', events) → Keeps health before after s.pool pool')
    (advanced : s.advance i f = some s') :
    Sound health start s' ∧ ∀ id, Lost health id s → Lost health id s' := by
  obtain ⟨before, after, pool', events, found, stepped, rfl⟩ := advance_spec advanced
  have here := List.mem_of_getElem? found
  have keeps := each before after pool' events (sound.awaited before here) stepped
  refine ⟨⟨fun b => (keeps.member b).trans (sound.member b), ?_⟩, fun id lost => ⟨?_, ?_⟩⟩
  · intro f held b awaits
    rw [keeps.member]
    rcases List.mem_or_eq_of_mem_set held with earlier | rfl
    · exact sound.awaited f earlier b awaits
    · exact (keeps.awaits b awaits).1
  · intro selectable
    rcases keeps.selectable id selectable with already | ⟨b, awaits, same⟩
    · exact lost.unselectable already
    · exact lost.unawaited before here b awaits same
  · intro f held b awaits same
    rcases List.mem_or_eq_of_mem_set held with earlier | rfl
    · exact lost.unawaited f earlier b awaits same
    · exact lost.unselectable (same ▸ (keeps.awaits b awaits).2)

theorem Sound.step {a : Action} (sound : Sound health start s) (stepped : step s a = some s') :
    Sound health start s' ∧ ∀ id, Lost health id s → Lost health id s' := by
  cases a with
  | call operation =>
    cases stepped
    have fresh : ∀ f ∈ s.futures ++ [Future.called operation], ∀ b, f.Awaits b → f ∈ s.futures := by
      rintro f held b ⟨_, rfl⟩
      simpa using held
    exact ⟨⟨sound.member, fun f held b awaits => sound.awaited f (fresh f held b awaits) b awaits⟩,
      fun id lost => ⟨lost.unselectable,
        fun f held b awaits => lost.unawaited f (fresh f held b awaits) b awaits⟩⟩
  | poll i => exact sound.advance (fun _ _ _ _ _ => keeps_poll) stepped
  | answer i answer =>
    exact sound.advance (fun _ _ _ _ member stepped => keeps_answer stepped member) stepped
  | drop i => exact sound.advance (fun _ _ _ _ _ => keeps_drop) stepped

variable (health) in
theorem sound_of_exec {actions : List Action} (ran : (machine start).exec actions = some s) :
    Sound health start s := by
  refine (machine start).invariant (I := Sound health start) ?_
    (fun _ _ _ sound stepped => (sound.step stepped).1) ran
  exact ⟨fun _ => Iff.rfl, by simp [machine]⟩

/-- What is lost stays lost. -/
theorem Lost.later {id : BackendId} {later : List Action} (sound : Sound health start s)
    (lost : Lost health id s) (ran : (machine start).execFrom s later = some t) :
    Lost health id t := by
  induction later generalizing s with
  | nil =>
    cases ran
    exact lost
  | cons a later ih =>
    obtain ⟨next, stepped, rest⟩ := Option.bind_eq_some_iff.mp ran
    obtain ⟨kept, still⟩ := sound.step stepped
    exact ih kept (still id lost) rest

/-- A future that waits for a backend puts it back when its answer is good. -/
theorem restores {b : Backend} {f : Future} (fine : deps.isServerError (.new 200 []) = false)
    (sound : Sound health start s) (held : f ∈ s.futures) (awaits : f.Awaits b) :
    ∃ later t, (machine start).execFrom s later = some t ∧ health.Selectable t.pool b.id := by
  obtain ⟨i, found⟩ := List.getElem?_of_mem held
  have member := sound.awaited f held b awaits
  obtain ⟨operation, rfl⟩ := awaits
  obtain ⟨answer, fits, success⟩ : ∃ answer : Answer, answer.Fits operation ∧
      answer.outcome deps = .success := by
    cases operation with
    | send request =>
      exact ⟨.sent (.ok (.new 200 [])), trivial, by simp [Answer.outcome, sendOutcome, fine]⟩
    | sendStream request => exact ⟨.streamed (.ok ⟨200, []⟩), trivial, rfl⟩
  refine ⟨[.answer i answer], ⟨deps.loadbalancer.reportOutcome s.pool b.id (answer.outcome deps),
    s.futures.set i (.answered answer), s.log ++ [.reported b.id (answer.outcome deps)]⟩, ?_, ?_⟩
  · simp [machine, step, State.advance, found, Future.answer, fits]
  · rw [health.selectable_report member, if_pos rfl, success]

/-- In every interleaving, a backend can be selected again, or still, in some
continuation exactly when it can be now or some future waits for its answer: a
backend that failed and that nobody waits for is out for good. -/
theorem backend_returns_iff (health : deps.loadbalancer.Health)
    (fine : deps.isServerError (.new 200 []) = false) (start : deps.loadbalancer.Pool)
    (actions : List Action) (s : State deps) (ran : (machine start).exec actions = some s)
    (id : BackendId) :
    (∃ later t, (machine start).execFrom s later = some t ∧ health.Selectable t.pool id) ↔
      health.Selectable s.pool id ∨ ∃ f ∈ s.futures, ∃ b, f.Awaits b ∧ b.id = id := by
  have sound := sound_of_exec health ran
  constructor
  · rintro ⟨later, t, further, selectable⟩
    by_contra gone
    rw [not_or] at gone
    have lost : Lost health id s :=
      ⟨gone.1, fun f held b awaits same => gone.2 ⟨f, held, b, awaits, same⟩⟩
    exact (lost.later sound further).unselectable selectable
  · rintro (now | ⟨f, held, b, awaits, rfl⟩)
    · exact ⟨[], s, rfl, now⟩
    · exact restores fine sound held awaits

end Recovery

end

section Reference

attribute [local instance] Platform.pooled

private abbrev twoBackends : EgressDeps :=
  .reference ["https://a.internal", "https://b.internal", "https://irrelevant.test"]

private abbrev twoSlots : List Slot := [⟨⟨"https://a.internal", 1⟩, true⟩, ⟨⟨"https://b.internal", 1⟩, true⟩]

private abbrev twoBackendMachine : StepMachine (State twoBackends) Action := machine twoSlots

private abbrev overlapping : List Action :=
  [.call (.send ⟨.get, "https://irrelevant.test", [], none⟩),
    .call (.send ⟨.get, "https://irrelevant.test", [], none⟩),
    .call (.sendStream ⟨.get, "https://irrelevant.test", [], none⟩), .poll 1, .poll 0, .poll 2,
    .answer 1 (.sent (.ok (.new 503 []))), .drop 2]

/-- Three calls on two backends: one fails its backend, one is dropped while it waits
for the same backend, and one still waits for the other. -/
theorem selections_accounted_overlapping :
    ∃ s, twoBackendMachine.exec overlapping = some s ∧
      (∀ id, s.selections id = s.reports id + s.futures.countP (Future.owes id)) ∧
      ((∀ f ∈ s.futures, f.live = false) →
        ((∀ id, s.selections id = s.reports id) ↔
          ∀ f ∈ s.futures, ∀ backend, f ≠ .unusable backend ∧ f ≠ .dropped (some backend))) :=
  ⟨_, rfl, @selections_accounted Platform.pooled twoBackends twoSlots overlapping _ rfl⟩

/-- The failed backend is out for good: its second call was dropped. -/
theorem backend_returns_iff_overlapping :
    ∃ s, twoBackendMachine.exec overlapping = some s ∧
      ((∃ later t, twoBackendMachine.execFrom s later = some t ∧
          RoundRobin.health.Selectable t.pool ⟨"https://a.internal"⟩) ↔
        RoundRobin.health.Selectable s.pool ⟨"https://a.internal"⟩ ∨
          ∃ f ∈ s.futures, ∃ b, f.Awaits b ∧ b.id = ⟨"https://a.internal"⟩) :=
  ⟨_, rfl, @backend_returns_iff Platform.pooled twoBackends RoundRobin.health rfl twoSlots overlapping _ rfl _⟩

end Reference

end EdgeBootstrap.ConcurrentCalls
