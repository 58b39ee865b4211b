import EdgeBootstrap.Library.Overlays
import EdgeBootstrap.Library.StepMachine
import EdgeBootstrap.Runtime.Manager

/-! Calls of `health` while starts and shutdowns are under way. A call reads the
status under its lock, asks the lifecycle monitor, reads the start instant under
another lock and then probes the transports; the manager may change between any
two of these. Status and uptime of a report are so of two moments. A report that
says `Running` is nevertheless right at one. -/
namespace EdgeBootstrap.HealthRaces
open StepMachine

/-- What `health` probes besides the egress HTTP client, which is always there. -/
structure Transports where
  http : Bool
  grpc : Bool
  egressGrpc : Bool
  messageBroker : Bool
  deriving DecidableEq, Repr

namespace Transports

variable (transports : Transports)

def hasAny : Bool := transports.http || transports.grpc

/-- The components `health` probes, in order. -/
def probes : List String :=
  (if transports.http then ["ingress.http"] else []) ++
    (if transports.grpc then ["ingress.grpc"] else []) ++ ["egress.http"] ++
    (if transports.egressGrpc then ["egress.grpc"] else []) ++
    (if transports.messageBroker then ["message-broker"] else [])

end Transports

/-- What a probe answers: success, or the text of its error. -/
abbrev Answer : Type := Except String Unit

/-- How far a call of `health` has come, with what it has read. -/
inductive HealthCall
  | called
  | observed (status : RuntimeStatus)
  | reported (status : RuntimeStatus) (report : HealthResponse)
  | probing (status : RuntimeStatus) (uptimeSecs : UInt64) (components : List ComponentHealth)
      (left : List String)
  | returned (health : RuntimeHealth)

/-- The manager, the instant of its last completed start, and the calls of
`health` so far. -/
structure State where
  manager : ManagerSteps.State
  startedAt : Option UInt64
  healths : List HealthCall

/-- A step of a start or a shutdown, at an instant, or of the call of `health` with
the given number. -/
inductive Action
  | manager (a : ManagerSteps.Step) (now : UInt64)
  | health
  | readStatus (i : Nat)
  | report (i : Nat) (answer : Except String HealthResponse)
  | readUptime (i : Nat) (now : UInt64)
  | probe (i : Nat) (answer : Answer)
  | respond (i : Nat)

/-- The instant the final write of a start records. -/
def Action.started : Action → Option UInt64
  | .manager (.startFinish _) now => some now
  | _ => none

/-- The elapsed seconds a start instant gives. -/
def uptimeSecs (startedAt : Option UInt64) (now : UInt64) : UInt64 :=
  match startedAt with
  | some since => if since ≤ now then (now - since) / 1000000 else 0
  | none => 0

/-- The report a call goes by; a monitor that fails counts as one without components. -/
def reportOf : Except String HealthResponse → HealthResponse
  | .ok report => report
  | .error _ => ⟨.unhealthy, []⟩

namespace HealthCall

def readStatus (status : RuntimeStatus) : HealthCall → Option HealthCall
  | .called => some (.observed status)
  | _ => none

def report (answer : Except String HealthResponse) : HealthCall → Option HealthCall
  | .observed status => some (.reported status (reportOf answer))
  | _ => none

def readUptime (transports : Transports) (startedAt : Option UInt64) (now : UInt64) :
    HealthCall → Option HealthCall
  | .reported status report =>
    some (.probing status (uptimeSecs startedAt now)
      (report.components.map ComponentHealth.ofReported) transports.probes)
  | _ => none

/-- The next probe answers. -/
def probe (answer : Answer) : HealthCall → Option HealthCall
  | .probing status uptime components (name :: left) =>
    some (.probing status uptime (components ++ [.ofProbe name id answer]) left)
  | _ => none

def respond : HealthCall → Option HealthCall
  | .probing status uptime components [] => some (.returned ⟨status, components, uptime⟩)
  | _ => none

end HealthCall

/-- The call `i` takes a step; no call of `health` writes to the manager. -/
def State.advance (s : State) (i : Nat) (f : HealthCall → Option HealthCall) : Option State :=
  (s.healths[i]?.bind f).map fun call => { s with healths := s.healths.set i call }

def step (transports : Transports) (s : State) : Action → Option State
  | .manager a now =>
    (ManagerSteps.step transports.hasAny s.manager a).map fun manager =>
      { s with manager, startedAt := (Action.started (.manager a now)).or s.startedAt }
  | .health => some { s with healths := s.healths ++ [.called] }
  | .readStatus i => s.advance i (HealthCall.readStatus s.manager.status)
  | .report i answer => s.advance i (HealthCall.report answer)
  | .readUptime i now => s.advance i (HealthCall.readUptime transports s.startedAt now)
  | .probe i answer => s.advance i (HealthCall.probe answer)
  | .respond i => s.advance i HealthCall.respond

/-- A new manager, and no calls yet. -/
def machine (transports : Transports) : StepMachine State Action where
  init := ⟨⟨.stopped, fun _ => none⟩, none, []⟩
  step := step transports

variable {transports : Transports} {s s' t : State} {call call' : HealthCall} {i : Nat}

/-- A step of a call, told by what it found. -/
theorem advance_spec {f : HealthCall → Option HealthCall} (advanced : s.advance i f = some s') :
    ∃ before after, s.healths[i]? = some before ∧ f before = some after ∧
      s' = { s with healths := s.healths.set i after } := by
  simp only [State.advance, Option.map_eq_some_iff, Option.bind_eq_some_iff] at advanced
  obtain ⟨after, ⟨before, found, stepped⟩, rfl⟩ := advanced
  exact ⟨before, after, found, stepped, rfl⟩

/-- The components of the probes that have answered. -/
def probedBy (names : List String) (answers : List Answer) : List ComponentHealth :=
  List.zipWith (fun name answer => .ofProbe name id answer) names answers

/-- The probes of the last call, one after the other. -/
theorem probe_steps (s : State) (status : RuntimeStatus) (uptime : UInt64)
    (components : List ComponentHealth) (left : List String) (answers : List Answer)
    (all : answers.length = left.length) :
    (machine transports).execFrom
        { s with healths := s.healths ++ [.probing status uptime components left] }
        (answers.map (.probe s.healths.length)) =
      some { s with healths := s.healths ++
        [.probing status uptime (components ++ probedBy left answers) []] } := by
  induction answers generalizing components left with
  | nil =>
    cases List.length_eq_zero_iff.mp all.symm
    simp [probedBy]
  | cons answer answers ih =>
    cases left with
    | nil => cases all
    | cons name left =>
      have rest := ih (components ++ [.ofProbe name id answer]) left (by simpa using all)
      have once : (machine transports).step
          { s with healths := s.healths ++ [.probing status uptime components (name :: left)] }
          (.probe s.healths.length answer) = some { s with healths := s.healths ++
            [.probing status uptime (components ++ [.ofProbe name id answer]) left] } := by
        simp [machine, step, State.advance, HealthCall.probe]
      rw [List.map_cons, execFrom_cons, once, Option.bind_some, rest]
      simp [probedBy]

/-- An answer with its error as text. -/
def textual {ε β : Type} (text : ε → String) : Except ε β → Answer
  | .ok _ => .ok ()
  | .error e => .error (text e)

theorem ofProbe_textual {ε β : Type} (name : String) (text : ε → String) (answer : Except ε β) :
    ComponentHealth.ofProbe name id (textual text answer) = .ofProbe name text answer := by
  cases answer <;> rfl

section Undisturbed
variable {σ α : Type} [Platform] (self : DefaultRuntimeManager σ α)

/-- The transports of a manager. -/
def transportsOf : Transports where
  http := self.ingress.http.isSome
  grpc := self.ingress.grpc.isSome
  egressGrpc := self.egress.grpc.isSome
  messageBroker := self.messageBroker.isSome

/-- What the probes of a manager answer, in order. -/
def answersOf : List Answer :=
  (self.ingress.http.map fun h => textual Platform.httpErrorText h.healthCheck).toList ++
    (self.ingress.grpc.map fun g => textual Platform.grpcErrorText g.healthCheck).toList ++
    [textual id self.egress.http] ++ (self.egress.grpc.map (textual id)).toList ++
    (self.messageBroker.map (textual id)).toList

theorem probedBy_answersOf : probedBy (transportsOf self).probes (answersOf self) = self.probed := by
  unfold probedBy transportsOf Transports.probes answersOf DefaultRuntimeManager.probed
  cases self.ingress.http <;> cases self.ingress.grpc <;> cases self.egress.grpc <;>
    cases self.messageBroker <;> simp [ofProbe_textual]

theorem length_answersOf : (answersOf self).length = (transportsOf self).probes.length := by
  unfold transportsOf Transports.probes answersOf
  cases self.ingress.http <;> cases self.ingress.grpc <;> cases self.egress.grpc <;>
    cases self.messageBroker <;> rfl

/-- A call with nothing between its steps is `health`. -/
theorem health_steps (now : UInt64) (status : s.manager.status = self.status)
    (startedAt : s.startedAt = self.startedAt) :
    ∃ actions, (machine (transportsOf self)).execFrom s actions =
      some { s with healths := s.healths ++ [.returned (self.health now)] } := by
  let i := s.healths.length
  let reported := (reportOf self.lifecycle.health).components.map ComponentHealth.ofReported
  have first : (machine (transportsOf self)).execFrom s
      [.health, .readStatus i, .report i self.lifecycle.health, .readUptime i now] =
      some { s with healths := s.healths ++
        [.probing s.manager.status (uptimeSecs s.startedAt now) reported (transportsOf self).probes] } := by
    simp [machine, step, State.advance, i, reported, HealthCall.readStatus, HealthCall.report,
      HealthCall.readUptime]
  have same : self.health now =
      ⟨self.status, reported ++ self.probed, uptimeSecs self.startedAt now⟩ := rfl
  refine ⟨[.health, .readStatus i, .report i self.lifecycle.health, .readUptime i now] ++
    ((answersOf self).map (.probe i) ++ [.respond i]), ?_⟩
  rw [execFrom_append, first, Option.bind_some, execFrom_append,
    probe_steps s _ _ reported _ _ (length_answersOf self), Option.bind_some, probedBy_answersOf,
    status, startedAt, same]
  simp [machine, step, State.advance, HealthCall.respond, i]

end Undisturbed

/-- The start instant as a history gives it: that of its last completed start. -/
def lastStart (history : List Action) : Option UInt64 := Overlays.lastSet Action.started history

/-- The step of a start or a shutdown in an action. -/
def Action.managerStep : Action → Option ManagerSteps.Step
  | .manager a _ => some a
  | _ => none

/-- An answer to a probe of the call `i`. -/
def Action.answers (i : Nat) : Action → Option Answer
  | .probe j answer => if j = i then some answer else none
  | _ => none

/-- The answers the probes of the call `i` have had. -/
def probeAnswers (i : Nat) (history : List Action) : List Answer :=
  history.filterMap (Action.answers i)

variable {history pre mid : List Action} {a : Action}

@[simp] theorem lastStart_snoc :
    lastStart (history ++ [a]) = a.started.or (lastStart history) := by
  simp [lastStart, Overlays.lastSet_append]

@[simp] theorem probeAnswers_snoc :
    probeAnswers i (history ++ [a]) = probeAnswers i history ++ (a.answers i).toList := by
  unfold probeAnswers
  cases found : a.answers i <;> simp [found]

/-- What the manager is, whatever calls of `health` there are. -/
structure Follows (transports : Transports) (history : List Action) (s : State) : Prop where
  manager : (ManagerSteps.machine transports.hasAny).exec (history.filterMap Action.managerStep) =
    some s.manager
  startedAt : s.startedAt = lastStart history
  started : s.manager.status = .running → s.startedAt.isSome

/-- A call of `health` leaves the manager. -/
theorem manager_of_advance {f : HealthCall → Option HealthCall} (advanced : s.advance i f = some s') :
    s'.manager = s.manager ∧ s'.startedAt = s.startedAt := by
  obtain ⟨_, _, _, _, rfl⟩ := advance_spec advanced
  exact ⟨rfl, rfl⟩

theorem Follows.of_same (follows : Follows transports history s)
    (same : s'.manager = s.manager ∧ s'.startedAt = s.startedAt)
    (no_step : a.managerStep = none) (no_start : a.started = none) :
    Follows transports (history ++ [a]) s' where
  manager := by simpa [no_step, same.1] using follows.manager
  startedAt := by rw [same.2, follows.startedAt, lastStart_snoc, no_start, Option.none_or]
  started := by
    rw [same.1, same.2]
    exact follows.started

theorem Follows.step (follows : Follows transports history s)
    (stepped : step transports s a = some s') : Follows transports (history ++ [a]) s' := by
  cases a with
  | manager b now =>
    simp only [HealthRaces.step, Option.map_eq_some_iff] at stepped
    obtain ⟨m, ran, rfl⟩ := stepped
    constructor
    · rw [List.filterMap_append]
      exact exec_snoc.mpr ⟨_, follows.manager, ran⟩
    · simp [follows.startedAt]
    · intro running
      rcases ManagerSteps.running_of_step ran running with before | ⟨i, rfl⟩
      · simp [follows.started before]
      · rfl
  | health =>
    cases stepped
    exact follows.of_same ⟨rfl, rfl⟩ rfl rfl
  | readStatus i | report i answer | readUptime i now | probe i answer | respond i =>
    exact follows.of_same (manager_of_advance stepped) rfl rfl

theorem follows_of_exec (ran : (machine transports).exec history = some s) :
    Follows transports history s := by
  refine run_induction (P := Follows transports) ?_ (fun _ _ _ _ _ follows stepped =>
    follows.step stepped) ran
  exact ⟨rfl, rfl, nofun⟩

/-- The manager had this status when a history had come so far. -/
def HadStatus (transports : Transports) (history : List Action) (status : RuntimeStatus) : Prop :=
  ∃ s, (machine transports).exec history = some s ∧ s.manager.status = status

/-- Up from a moment when the manager was `Running`, whatever starts complete, the
last of them was the last at a moment when the manager was `Running`. -/
theorem running_moment (ran : (machine transports).exec (pre ++ mid) = some t)
    (running : HadStatus transports pre .running) :
    ∃ early late, mid = early ++ late ∧ HadStatus transports (pre ++ early) .running ∧
      (lastStart (pre ++ early)).isSome ∧ lastStart (pre ++ early) = lastStart (pre ++ mid) := by
  induction mid using List.reverseRecOn generalizing t with
  | nil =>
    obtain ⟨s, reached, now⟩ := running
    have follows := follows_of_exec reached
    refine ⟨[], [], rfl, by simpa using ⟨s, reached, now⟩, ?_, rfl⟩
    rw [List.append_nil, ← follows.startedAt]
    exact follows.started now
  | append_singleton mid a ih =>
    rw [← List.append_assoc] at ran ⊢
    obtain ⟨u, before, stepped⟩ := exec_snoc.mp ran
    cases start : a.started with
    | none =>
      obtain ⟨early, late, rfl, was, found, same⟩ := ih before
      refine ⟨early, late ++ [a], by simp, was, found, ?_⟩
      rw [same, lastStart_snoc, start, Option.none_or]
    | some now =>
      have follows := follows_of_exec ran
      have status : t.manager.status = .running := by
        unfold Action.started at start
        split at start
        · obtain ⟨m, moved, rfl⟩ := Option.map_eq_some_iff.mp stepped
          exact ManagerSteps.status_of_step moved
        · cases start
      refine ⟨mid ++ [a], [], by simp, ⟨t, by rwa [← List.append_assoc], status⟩, ?_, ?_⟩
      · rw [← List.append_assoc, ← follows.startedAt]
        exact follows.started status
      · rw [← List.append_assoc]

/-- The call `i` has read this status. -/
def Observed (transports : Transports) (history : List Action) (i : Nat) (status : RuntimeStatus) : Prop :=
  ∃ pre mid, history = pre ++ .readStatus i :: mid ∧ HadStatus transports pre status

/-- The call `i` has read this status, and later the start instant, for this uptime. -/
def Timed (transports : Transports) (history : List Action) (i : Nat) (status : RuntimeStatus)
    (uptime : UInt64) : Prop :=
  ∃ pre mid post now, history = pre ++ .readStatus i :: (mid ++ .readUptime i now :: post) ∧
    HadStatus transports pre status ∧ uptime = uptimeSecs (lastStart (pre ++ .readStatus i :: mid)) now

/-- The call `i` has had an answer of the monitor. -/
def Asked (history : List Action) (i : Nat) (report : HealthResponse) : Prop :=
  ∃ answer, .report i answer ∈ history ∧ report = reportOf answer

/-- The call `i` has the components of the monitor's answer, and of the first probes. -/
def Probed (history : List Action) (i : Nat) (components : List ComponentHealth)
    (names : List String) : Prop :=
  ∃ report, Asked history i report ∧ (probeAnswers i history).length = names.length ∧
    components = report.components.map .ofReported ++ probedBy names (probeAnswers i history)

/-- What a history tells of the call `i`. -/
def Told (transports : Transports) (history : List Action) (i : Nat) : Option HealthCall → Prop
  | none | some .called => probeAnswers i history = []
  | some (.observed status) => probeAnswers i history = [] ∧ Observed transports history i status
  | some (.reported status report) =>
    probeAnswers i history = [] ∧ Observed transports history i status ∧ Asked history i report
  | some (.probing status uptime components left) =>
    Timed transports history i status uptime ∧
      ∃ done, transports.probes = done ++ left ∧ Probed history i components done
  | some (.returned health) =>
    Timed transports history i health.status health.uptimeSecs ∧
      Probed history i health.components transports.probes

variable {status : RuntimeStatus} {uptime : UInt64} {components : List ComponentHealth}
  {given : HealthResponse} {names : List String}

theorem Observed.later (observed : Observed transports history i status) :
    Observed transports (history ++ [a]) i status := by
  obtain ⟨pre, mid, rfl, had⟩ := observed
  exact ⟨pre, mid ++ [a], by simp, had⟩

theorem Timed.later (timed : Timed transports history i status uptime) :
    Timed transports (history ++ [a]) i status uptime := by
  obtain ⟨pre, mid, post, now, rfl, had, rfl⟩ := timed
  exact ⟨pre, mid, post ++ [a], now, by simp, had, rfl⟩

theorem Asked.later (asked : Asked history i given) : Asked (history ++ [a]) i given := by
  obtain ⟨answer, member, rfl⟩ := asked
  exact ⟨answer, List.mem_append_left _ member, rfl⟩

theorem Probed.later (probed : Probed history i components names) (quiet : a.answers i = none) :
    Probed (history ++ [a]) i components names := by
  obtain ⟨report, asked, all, rfl⟩ := probed
  refine ⟨report, asked.later, ?_, ?_⟩ <;> simp [quiet, all]

/-- What was told of a call stays true while no probe of it answers. -/
theorem Told.later {call : Option HealthCall} (told : Told transports history i call)
    (quiet : a.answers i = none) : Told transports (history ++ [a]) i call := by
  have empty (before : probeAnswers i history = []) : probeAnswers i (history ++ [a]) = [] := by
    simp [before, quiet]
  cases call with
  | none => exact empty told
  | some call =>
    cases call with
    | called => exact empty told
    | observed status => exact ⟨empty told.1, told.2.later⟩
    | reported status report => exact ⟨empty told.1, told.2.1.later, told.2.2.later⟩
    | probing status uptime components left =>
      obtain ⟨timed, done, split, probed⟩ := told
      exact ⟨timed.later, done, split, probed.later quiet⟩
    | returned health => exact ⟨told.1.later, told.2.later quiet⟩

/-- The history tells of every call. -/
def Sound (transports : Transports) (history : List Action) (s : State) : Prop :=
  ∀ i, Told transports history i s.healths[i]?

theorem Sound.advance {f : HealthCall → Option HealthCall} (sound : Sound transports history s)
    (advanced : s.advance i f = some s') (others : ∀ j, j ≠ i → a.answers j = none)
    (own : ∀ before after, f before = some after → Told transports history i (some before) →
      Told transports (history ++ [a]) i (some after)) : Sound transports (history ++ [a]) s' := by
  obtain ⟨before, after, found, stepped, rfl⟩ := advance_spec advanced
  intro j
  by_cases same : j = i
  · subst same
    obtain ⟨inside, _⟩ := List.getElem?_eq_some_iff.mp found
    rw [List.getElem?_set_self inside]
    exact own before after stepped (found ▸ sound j)
  · rw [List.getElem?_set_ne (Ne.symm same)]
    exact (sound j).later (others j same)

theorem Told.readStatus (reached : (machine transports).exec history = some s)
    (stepped : call.readStatus s.manager.status = some call')
    (told : Told transports history i (some call)) :
    Told transports (history ++ [.readStatus i]) i (some call') := by
  unfold HealthCall.readStatus at stepped
  split at stepped
  · cases stepped
    have none : probeAnswers i history = [] := told
    exact ⟨by simp [none, Action.answers], history, [], rfl, s, reached, rfl⟩
  · cases stepped

theorem Told.report {answer : Except String HealthResponse} (stepped : call.report answer = some call')
    (told : Told transports history i (some call)) :
    Told transports (history ++ [.report i answer]) i (some call') := by
  unfold HealthCall.report at stepped
  split at stepped
  · cases stepped
    exact ⟨by simp [told.1, Action.answers], told.2.later, answer, by simp, rfl⟩
  · cases stepped

theorem Told.readUptime {now : UInt64} (startedAt : s.startedAt = lastStart history)
    (stepped : call.readUptime transports s.startedAt now = some call')
    (told : Told transports history i (some call)) :
    Told transports (history ++ [.readUptime i now]) i (some call') := by
  unfold HealthCall.readUptime at stepped
  split at stepped
  · cases stepped
    obtain ⟨none, ⟨pre, mid, rfl, had⟩, asked⟩ := told
    have still : probeAnswers i (pre ++ .readStatus i :: mid ++ [.readUptime i now]) = [] := by
      rw [probeAnswers_snoc, none]
      rfl
    refine ⟨⟨pre, mid, [], now, by simp, had, by rw [startedAt]⟩, [], rfl, _, asked.later, ?_, ?_⟩
    · rw [still]
      rfl
    · simp [probedBy]
  · cases stepped

/-- The answer of a probe is for the first of the names left. -/
theorem Told.probe {answer : Answer} (stepped : call.probe answer = some call')
    (told : Told transports history i (some call)) :
    Told transports (history ++ [.probe i answer]) i (some call') := by
  unfold HealthCall.probe at stepped
  split at stepped
  · rename_i name left
    cases stepped
    obtain ⟨timed, done, split, report, asked, all, rfl⟩ := told
    refine ⟨timed.later, done ++ [name], by simp [split], report, asked.later, ?_, ?_⟩
    · simp [all, Action.answers]
    · simp [probedBy, Action.answers, List.zipWith_append all.symm]
  · cases stepped

theorem Told.respond (stepped : call.respond = some call')
    (told : Told transports history i (some call)) :
    Told transports (history ++ [.respond i]) i (some call') := by
  unfold HealthCall.respond at stepped
  split at stepped
  · cases stepped
    obtain ⟨timed, done, split, probed⟩ := told
    rw [List.append_nil] at split
    refine ⟨timed.later, ?_⟩
    rw [split]
    exact probed.later rfl
  · cases stepped

theorem Sound.step (sound : Sound transports history s)
    (reached : (machine transports).exec history = some s)
    (stepped : step transports s a = some s') : Sound transports (history ++ [a]) s' := by
  cases a with
  | manager b now =>
    obtain ⟨_, _, rfl⟩ := Option.map_eq_some_iff.mp stepped
    exact fun i => (sound i).later rfl
  | health =>
    cases stepped
    intro i
    have kept := (sound i).later (a := .health) rfl
    rcases Nat.lt_trichotomy i s.healths.length with inside | rfl | outside
    · rwa [List.getElem?_append_left inside]
    · simpa [Told] using kept
    · rw [List.getElem?_eq_none (by omega)] at kept
      rwa [List.getElem?_eq_none (by simp; omega)]
  | readStatus i =>
    exact sound.advance stepped (fun _ _ => rfl) fun _ _ stepped told => told.readStatus reached stepped
  | report i answer =>
    exact sound.advance stepped (fun _ _ => rfl) fun _ _ stepped told => told.report stepped
  | readUptime i now =>
    exact sound.advance stepped (fun _ _ => rfl) fun _ _ stepped told =>
      told.readUptime (follows_of_exec reached).startedAt stepped
  | probe i answer =>
    exact sound.advance stepped (fun j other => by simp [Action.answers, Ne.symm other])
      fun _ _ stepped told => told.probe stepped
  | respond i =>
    exact sound.advance stepped (fun _ _ => rfl) fun _ _ stepped told => told.respond stepped

/-- What a report of the call `i` is worth: its status was the manager's at one moment,
its uptime counts from the last start that had completed at a later one, and its
components are those of the monitor's answer and one of each probe, in order. If it says
`Running`, the manager was, at a moment when the start the uptime counts from was the last. -/
structure Truthful (transports : Transports) (history : List Action) (i : Nat)
    (health : RuntimeHealth) : Prop where
  reads : ∃ pre mid post now, history = pre ++ .readStatus i :: (mid ++ .readUptime i now :: post) ∧
    HadStatus transports pre health.status ∧
    health.uptimeSecs = uptimeSecs (lastStart (pre ++ .readStatus i :: mid)) now ∧
    (health.status = .running → ∃ early late, .readStatus i :: mid = early ++ late ∧
      HadStatus transports (pre ++ early) .running ∧ (lastStart (pre ++ early)).isSome ∧
      lastStart (pre ++ early) = lastStart (pre ++ .readStatus i :: mid))
  components : Probed history i health.components transports.probes

/-- Calls of `health` do not disturb the manager, and whatever starts and shutdowns go on
meanwhile, every report is truthful. -/
theorem reports_truthful (transports : Transports) (history : List Action) (s : State)
    (ran : (machine transports).exec history = some s) :
    (ManagerSteps.machine transports.hasAny).exec (history.filterMap Action.managerStep) =
        some s.manager ∧
      ∀ i health, s.healths[i]? = some (.returned health) → Truthful transports history i health := by
  refine ⟨(follows_of_exec ran).manager, fun i health returned => ?_⟩
  have sound : Sound transports history s := by
    refine run_induction (P := Sound transports) ?_ (fun _ _ _ _ reached sound stepped =>
      sound.step reached stepped) ran
    intro i
    simp [machine, Told, probeAnswers]
  have told := sound i
  rw [returned] at told
  obtain ⟨⟨pre, mid, post, now, rfl, had, uptime⟩, probed⟩ := told
  refine ⟨⟨pre, mid, post, now, rfl, had, uptime, fun running => ?_⟩, probed⟩
  have front : pre ++ .readStatus i :: mid <+:
      pre ++ .readStatus i :: (mid ++ .readUptime i now :: post) := by simp
  obtain ⟨t, reached⟩ := exec_of_prefix ran front
  exact running_moment reached (running ▸ had)

/-- A restart between the two reads of a call: it says `Running` with the uptime of the
second start. -/
theorem reports_truthful_restart :
    let transports : Transports := ⟨true, false, false, false⟩
    let start (i : Nat) (now : UInt64) : List Action :=
      [.manager (.startBegin i) now, .manager (.startHookCall i) now,
        .manager (.startHookReturn i (.ok ())) now, .manager (.startProbe i) now,
        .manager (.startFinish i) now]
    let history : List Action := start 0 5 ++ [.health, .readStatus 0,
      .manager (.shutdownBegin 1) 6, .manager (.shutdownHookCall 1) 6,
      .manager (.shutdownHookReturn 1 (.ok ())) 6, .manager (.shutdownFinish 1) 6] ++ start 2 7000000 ++
      [.report 0 (.error "no answer"), .readUptime 0 9000000, .probe 0 (.ok ()),
        .probe 0 (.error "refused"), .respond 0]
    ∃ s, (machine transports).exec history = some s ∧
      s.healths[0]? = some (.returned ⟨.running,
        [.ofHealthy "ingress.http", .ofUnhealthy "egress.http" "refused"], 2⟩) ∧
      (ManagerSteps.machine transports.hasAny).exec (history.filterMap Action.managerStep) =
        some s.manager ∧
      ∀ i health, s.healths[i]? = some (.returned health) → Truthful transports history i health := by
  intro transports start history
  obtain ⟨s, ran, returned⟩ : ∃ s, (machine transports).exec history = some s ∧
    s.healths[0]? = some (.returned ⟨.running,
      [.ofHealthy "ingress.http", .ofUnhealthy "egress.http" "refused"], 2⟩) := ⟨_, rfl, rfl⟩
  exact ⟨s, ran, returned, reports_truthful transports history s ran⟩

end EdgeBootstrap.HealthRaces
