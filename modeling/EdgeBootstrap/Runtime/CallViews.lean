import EdgeBootstrap.Runtime.Manager

/-! The manager as each of its callers sees it. Whatever other calls do between the
steps of a call, it makes a few steps at most, can make the next one unless it waits for
its hook, and returns what it would have returned alone from the status it found. -/
namespace EdgeBootstrap
namespace ManagerSteps
open StepMachine

namespace Op

/-- The step a call begins with. -/
def begins : Op → Nat → Step
  | .start, i => .startBegin i
  | .shutdown, i => .shutdownBegin i

/-- The step that brings a call the answer of its hook. -/
def answers : Op → Nat → Except String Unit → Step
  | .start, i, answer => .startHookReturn i answer
  | .shutdown, i, answer => .shutdownHookReturn i answer

/-- The status in which a call has nothing to do. -/
def settled : Op → RuntimeStatus
  | .start => .running
  | .shutdown => .stopped

/-- The steps of a call, at most. -/
def most : Op → Nat
  | .start => 5
  | .shutdown => 4

/-- What a call returns that nothing interleaves with, from the status it finds and the
answer of its hook. -/
def alone (hasAny : Bool) (found : RuntimeStatus) (answer : Except String Unit) :
    Op → Except RuntimeError Unit
  | .start =>
    if found = .running then .ok ()
    else if hasAny then answer.mapError .startFailed
    else .error (.startFailed "no ingress transport configured — add http or grpc")
  | .shutdown => if found = .stopped then .ok () else answer.mapError .shutdownFailed

end Op

/-- The steps that are left to a call, at most. -/
def Phase.left : Op → Phase → Nat
  | .start, .guarded => 4
  | .start, .hooking | .shutdown, .guarded => 3
  | .start, .hooked | .shutdown, .hooking => 2
  | .start, .probed | .shutdown, .hooked => 1
  | _, _ => 0

/-- What a call in a phase has to do with the status it found, and with the answer of
its hook. -/
def Told (hasAny : Bool) (history : List Step) (i : Nat) (found : RuntimeStatus) (op : Op) :
    Phase → Prop
  | .guarded => found ≠ op.settled
  | .hooking => found ≠ op.settled ∧ (op = .start → hasAny = true)
  | .hooked =>
    found ≠ op.settled ∧ (op = .start → hasAny = true) ∧ op.answers i (.ok ()) ∈ history
  | .probed => op = .start ∧ found ≠ .running ∧ hasAny = true ∧ op.answers i (.ok ()) ∈ history
  | .returned r => ∀ answer, (∀ given, op.answers i given ∈ history → given = answer) →
    op.alone hasAny found answer = r

/-- A call that has come to a phase: when it began, the steps it had, and what they told
it. -/
structure Going (hasAny : Bool) (history : List Step) (i : Nat) (op : Op) (phase : Phase) : Prop where
  few : history.countP (fun a => a.call.2 = i) + phase.left op ≤ op.most
  began : ∃ pre post before, history = pre ++ op.begins i :: post ∧
    (machine hasAny).exec pre = some before ∧ Told hasAny history i before.status op phase

variable {hasAny : Bool} {history : List Step} {s s' : State} {a : Step} {i : Nat} {op : Op}
  {phase : Phase} {found : RuntimeStatus}

theorem Told.later (told : Told hasAny history i found op phase) (a : Step) :
    Told hasAny (history ++ [a]) i found op phase := by
  cases phase with
  | guarded | hooking => exact told
  | hooked =>
    obtain ⟨unsettled, any, answered⟩ := told
    exact ⟨unsettled, any, List.mem_append_left _ answered⟩
  | probed =>
    obtain ⟨starts, unsettled, any, answered⟩ := told
    exact ⟨starts, unsettled, any, List.mem_append_left _ answered⟩
  | returned r =>
    exact fun answer only => told answer fun given member => only given (List.mem_append_left _ member)

/-- Steps of other calls take a call nowhere. -/
theorem Going.later (going : Going hasAny history i op phase) (other : a.call.2 ≠ i) :
    Going hasAny (history ++ [a]) i op phase := by
  obtain ⟨few, pre, post, before, rfl, ran, told⟩ := going
  refine ⟨?_, pre, post ++ [a], before, by simp, ran, told.later a⟩
  rw [List.countP_append, List.countP_singleton]
  simpa [other] using few

/-- A call that begins. -/
theorem going_begins (op : Op) (ran : (machine hasAny).exec history = some s)
    (unnamed : history.countP (fun a => a.call.2 = i) = 0)
    (same : (op.begins i).call.2 = i) (few : 1 + phase.left op ≤ op.most)
    (told : Told hasAny (history ++ [op.begins i]) i s.status op phase) :
    Going hasAny (history ++ [op.begins i]) i op phase := by
  refine ⟨?_, history, [], s, rfl, ran, told⟩
  rw [List.countP_append, unnamed, List.countP_singleton]
  simpa [same] using few

/-- A call that goes on has one step fewer left. -/
theorem Going.next {phase' : Phase} (going : Going hasAny history i op phase)
    (own : a.call.2 = i) (less : phase'.left op + 1 ≤ phase.left op)
    (told : ∀ found, Told hasAny history i found op phase →
      Told hasAny (history ++ [a]) i found op phase') :
    Going hasAny (history ++ [a]) i op phase' := by
  obtain ⟨few, pre, post, before, rfl, ran, known⟩ := going
  refine ⟨?_, pre, post ++ [a], before, by simp, ran, told _ known⟩
  rw [List.countP_append, List.countP_singleton]
  simp only [own, decide_true, if_true]
  omega

/-- What the history says of every call. -/
structure Views (hasAny : Bool) (history : List Step) (s : State) : Prop where
  unnamed : ∀ i, s.calls i = none → history.countP (fun a => a.call.2 = i) = 0
  going : ∀ i op phase, s.At i op phase → Going hasAny history i op phase

/-- What a step tells its own call. -/
theorem Views.own (views : Views hasAny history s) (ran : (machine hasAny).exec history = some s)
    (stepped : step hasAny s a = some s') :
    Going hasAny (history ++ [a]) a.call.2 a.call.1 (a.reaches s.status) := by
  have found := (step_spec stepped).1
  cases a with
  | startBegin i =>
    have unnamed := views.unnamed i found
    simp only [Step.reaches]
    split
    · rename_i running
      refine going_begins .start ran unnamed rfl (by simp [Phase.left, Op.most]) ?_
      exact fun _ _ => if_pos running
    · rename_i unsettled
      exact going_begins .start ran unnamed rfl le_rfl unsettled
  | shutdownBegin i =>
    have unnamed := views.unnamed i found
    simp only [Step.reaches]
    split
    · rename_i stopped
      refine going_begins .shutdown ran unnamed rfl (by simp [Phase.left, Op.most]) ?_
      exact fun _ _ => if_pos stopped
    · rename_i unsettled
      exact going_begins .shutdown ran unnamed rfl le_rfl unsettled
  | startRefuse i =>
    simp only [step, Option.ite_none_right_eq_some] at stepped
    obtain ⟨⟨_, refused⟩, _⟩ := stepped
    refine (views.going i .start .guarded found).next rfl (by simp [Phase.left, Step.reaches]) ?_
    intro status unsettled answer _
    simp [Op.alone, show status ≠ .running from unsettled, refused]
  | startHookCall i =>
    simp only [step, Option.ite_none_right_eq_some] at stepped
    obtain ⟨⟨_, any⟩, _⟩ := stepped
    refine (views.going i .start .guarded found).next rfl le_rfl ?_
    exact fun status unsettled => ⟨unsettled, fun _ => any⟩
  | shutdownHookCall i =>
    refine (views.going i .shutdown .guarded found).next rfl le_rfl ?_
    exact fun status unsettled => ⟨unsettled, fun other => by cases other⟩
  | startHookReturn i result =>
    have answered : Op.start.answers i result ∈ history ++ [.startHookReturn i result] := by
      simp [Op.answers]
    cases result with
    | ok done =>
      refine (views.going i .start .hooking found).next rfl le_rfl ?_
      rintro status ⟨unsettled, any⟩
      exact ⟨unsettled, any, answered⟩
    | error e =>
      refine (views.going i .start .hooking found).next rfl (by simp [Phase.left, Step.reaches]) ?_
      rintro status ⟨unsettled, any⟩ answer only
      have given := only _ answered
      simp [Op.alone, show status ≠ .running from unsettled, any rfl, ← given, Except.mapError]
  | shutdownHookReturn i result =>
    have answered : Op.shutdown.answers i result ∈ history ++ [.shutdownHookReturn i result] := by
      simp [Op.answers]
    cases result with
    | ok done =>
      refine (views.going i .shutdown .hooking found).next rfl le_rfl ?_
      rintro status ⟨unsettled, any⟩
      exact ⟨unsettled, any, answered⟩
    | error e =>
      refine (views.going i .shutdown .hooking found).next rfl (by simp [Phase.left, Step.reaches]) ?_
      rintro status ⟨unsettled, _⟩ answer only
      have given := only _ answered
      simp [Op.alone, show status ≠ .stopped from unsettled, ← given, Except.mapError]
  | startProbe i =>
    refine (views.going i .start .hooked found).next rfl le_rfl ?_
    rintro status ⟨unsettled, any, answered⟩
    exact ⟨rfl, unsettled, any rfl, List.mem_append_left _ answered⟩
  | startFinish i =>
    refine (views.going i .start .probed found).next rfl le_rfl ?_
    rintro status ⟨_, unsettled, any, answered⟩ answer only
    have given := only _ (List.mem_append_left _ answered)
    simp [Op.alone, unsettled, any, ← given, Except.mapError]
  | shutdownFinish i =>
    refine (views.going i .shutdown .hooked found).next rfl le_rfl ?_
    rintro status ⟨unsettled, _, answered⟩ answer only
    have given := only _ (List.mem_append_left _ answered)
    simp [Op.alone, show status ≠ .stopped from unsettled, ← given, Except.mapError]

theorem Views.step (views : Views hasAny history s) (ran : (machine hasAny).exec history = some s)
    (stepped : step hasAny s a = some s') : Views hasAny (history ++ [a]) s' := by
  have own := views.own ran stepped
  rw [(step_spec stepped).2]
  constructor
  · intro i absent
    rcases eq_or_ne i a.call.2 with rfl | other
    · simp [State.advance] at absent
    · have unnamed := views.unnamed i (by simpa [State.advance, other] using absent)
      rw [List.countP_append, unnamed, List.countP_singleton]
      simp [Ne.symm other]
  · intro i op phase held
    rcases (State.at_advance ..).mp held with ⟨rfl, rfl, rfl⟩ | ⟨other, held⟩
    · exact own
    · exact (views.going i op phase held).later (Ne.symm other)

theorem views_of_exec (ran : (machine hasAny).exec history = some s) : Views hasAny history s := by
  refine run_induction (P := Views hasAny) ?_ ?_ ran
  · constructor
    · exact fun _ _ => rfl
    · intro i op phase held
      cases held
  · exact fun history s a s' ran views stepped => views.step ran stepped

/-- A call that is under way can make its next step, when its hook answers. -/
theorem Going.enabled (going : Going hasAny history i op phase) (held : s.At i op phase)
    (live : phase.Live) : ∃ a, a.call = (op, i) ∧ (step hasAny s a).isSome := by
  obtain ⟨_, _, _, before, _, _, told⟩ := going
  cases phase with
  | returned r => exact absurd live id
  | guarded =>
    cases op with
    | start =>
      cases any : hasAny with
      | true => exact ⟨.startHookCall i, rfl, by simp [ManagerSteps.step, held]⟩
      | false => exact ⟨.startRefuse i, rfl, by simp [ManagerSteps.step, held]⟩
    | shutdown => exact ⟨.shutdownHookCall i, rfl, by simp [ManagerSteps.step, held]⟩
  | hooking =>
    cases op with
    | start => exact ⟨.startHookReturn i (.ok ()), rfl, by simp [ManagerSteps.step, held]⟩
    | shutdown => exact ⟨.shutdownHookReturn i (.ok ()), rfl, by simp [ManagerSteps.step, held]⟩
  | hooked =>
    cases op with
    | start => exact ⟨.startProbe i, rfl, by simp [ManagerSteps.step, held]⟩
    | shutdown => exact ⟨.shutdownFinish i, rfl, by simp [ManagerSteps.step, held]⟩
  | probed =>
    obtain ⟨rfl, _⟩ := told
    exact ⟨.startFinish i, rfl, by simp [ManagerSteps.step, held]⟩

section Calls
variable [Platform] {σ α : Type}

/-- The hook of a lifecycle monitor that a call calls. -/
def Op.hook (lifecycle : LifecycleMonitor) : Op → Except String Unit
  | .start => lifecycle.startBackgroundTasks
  | .shutdown => lifecycle.shutdown

/-- What a call of an idle manager returns. -/
def Op.callOn (manager : DefaultRuntimeManager σ α) (now : UInt64) : Op → Except RuntimeError Unit
  | .start => (manager.start now).1
  | .shutdown => manager.shutdown.1

theorem Op.callOn_eq_alone (manager : DefaultRuntimeManager σ α) (now : UInt64) (op : Op) :
    op.callOn manager now =
      op.alone manager.ingress.hasAny manager.status (op.hook manager.lifecycle) := by
  cases op with
  | start =>
    simp only [callOn, alone, hook, DefaultRuntimeManager.start]
    split
    · rfl
    · split
      · cases manager.lifecycle.startBackgroundTasks <;> rfl
      · rfl
  | shutdown =>
    simp only [callOn, alone, hook, DefaultRuntimeManager.shutdown]
    split
    · rfl
    · cases manager.lifecycle.shutdown <;> rfl

/-- Whatever the other calls do: a call makes five steps at most, or four if it shuts
down; it is never kept from its next one; and what it returns is what a manager returns
to it alone in the status it found, where the hook answers the same. -/
theorem calls_answer_as_alone (hasAny : Bool) (history : List Step) (s : State)
    (ran : (machine hasAny).exec history = some s) (i : Nat) (op : Op) (phase : Phase)
    (held : s.At i op phase) :
    history.countP (fun a => a.call.2 = i) ≤ op.most ∧
      (phase.Live → ∃ a, a.call = (op, i) ∧ (step hasAny s a).isSome) ∧
      ∃ pre post before, history = pre ++ op.begins i :: post ∧
        (machine hasAny).exec pre = some before ∧
        ∀ r, phase = .returned r → ∀ (manager : DefaultRuntimeManager σ α) (now : UInt64),
          manager.ingress.hasAny = hasAny → manager.status = before.status →
          (∀ answer, op.answers i answer ∈ history → answer = op.hook manager.lifecycle) →
          op.callOn manager now = r := by
  have going := (views_of_exec ran).going i op phase held
  refine ⟨le_trans (Nat.le_add_right _ _) going.few, going.enabled held, ?_⟩
  obtain ⟨pre, post, before, split, reached, told⟩ := going.began
  refine ⟨pre, post, before, split, reached, ?_⟩
  rintro r rfl manager now any status answers
  rw [Op.callOn_eq_alone, any, status]
  exact told _ answers

end Calls

section Reference
attribute [local instance] Platform.reference

/-- A shutdown that overtakes a start, and whose hook fails. -/
theorem calls_answer_as_alone_overtaking :
    let history : List Step := [.startBegin 0, .shutdownBegin 1, .startHookCall 0,
      .shutdownHookCall 1, .startHookReturn 0 (.ok ()), .shutdownHookReturn 1 (.error "busy"),
      .startProbe 0, .startFinish 0]
    ∃ s, (machine true).exec history = some s ∧
      s.At 1 .shutdown (.returned (.error (.shutdownFailed "busy"))) ∧
      ∃ pre post before, history = pre ++ .shutdownBegin 1 :: post ∧
        (machine true).exec pre = some before ∧
        ∀ manager : DefaultRuntimeManager Unit Unit,
          manager.ingress.hasAny = true → manager.status = before.status →
          (∀ answer, .shutdownHookReturn 1 answer ∈ history → answer = manager.lifecycle.shutdown) →
          manager.shutdown.1 = .error (.shutdownFailed "busy") := by
  intro history
  obtain ⟨s, ran, held⟩ : ∃ s, (machine true).exec history = some s ∧
      s.At 1 .shutdown (.returned (.error (.shutdownFailed "busy"))) := ⟨_, rfl, rfl⟩
  obtain ⟨_, _, pre, post, before, split, reached, returns⟩ :=
    calls_answer_as_alone (σ := Unit) (α := Unit) true history s ran 1 .shutdown _ held
  exact ⟨s, ran, held, pre, post, before, split, reached, fun manager => returns _ rfl manager 0⟩

end Reference

end ManagerSteps

end EdgeBootstrap
