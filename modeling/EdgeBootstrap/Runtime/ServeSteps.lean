import EdgeBootstrap.Runtime.Builder

/-! `serve` and its requests as interleaved steps, from the first server it spawns.
The servers run on their own from the moment they are spawned, so between any two
steps of `serve` a request may be handed to an ingress; the manager takes its own
steps while `serve` waits for it to start and to shut down. -/
namespace EdgeBootstrap.ServeSteps
open StepMachine

/-- The tasks an assembly spawns. -/
structure Plan where
  http : Bool
  grpc : Bool
  metrics : Bool
  scheduler : Bool
  deriving DecidableEq, Repr

/-- The servers, in the order they are spawned. -/
def Plan.servers (plan : Plan) : List Task :=
  (if plan.http then [Task.http] else []) ++ (if plan.grpc then [Task.grpc] else []) ++
    if plan.metrics then [Task.metrics] else []

/-- All tasks, in the order they are spawned. -/
def Plan.tasks (plan : Plan) : List Task :=
  plan.servers ++ if plan.scheduler then [Task.scheduler] else []

/-- What `serve` does to a task at its end. -/
inductive Teardown
  | stop (task : Task)
  | join (task : Task)
  deriving DecidableEq, Repr

/-- What `serve` does once the runner has returned, in order. -/
def Plan.teardown (plan : Plan) : List Teardown :=
  ([Task.http, .grpc] ++ if plan.metrics then [Task.metrics] else []).map Teardown.stop ++
    plan.servers.map Teardown.join ++
    if plan.scheduler then [Teardown.stop .scheduler, .join .scheduler] else []

/-- How far `serve` has come. -/
inductive Pc
  | spawning (left : List Task)
  | starting
  | waiting
  | stopping
  | ending (left : List Teardown)
  | returned
  deriving DecidableEq, Repr

/-- What has become of a task. -/
inductive Life
  | unspawned
  | live
  | told
  | ended
  deriving DecidableEq, Repr

/-- A live task is told to stop: by its channel, or because the sender of the
channel is dropped. -/
def Life.tell : Life → Life
  | .live => .told
  | life => life

/-- The task runs. -/
def Life.Runs : Life → Prop
  | .live | .told => True
  | _ => False

instance : DecidablePred Life.Runs := fun life => by cases life <;> unfold Life.Runs <;> infer_instance

structure State where
  pc : Pc
  manager : ManagerSteps.State
  tasks : Task → Life

/-- One step of `serve`, of its manager, of a server, or of a client. -/
inductive Step
  | spawn (task : Task)
  | refuse
  | supervise
  | manager (a : ManagerSteps.Step)
  | started (result : Except RuntimeError Unit)
  | signal
  | shutDown (result : Except RuntimeError Unit)
  | timeOut
  | tearDown (x : Teardown)
  | finish
  | handle (server : Task)
  | exit (task : Task)
  deriving DecidableEq

/-- The call of the manager that `serve` waits for, with its number. -/
def Pc.call : Pc → Option (ManagerSteps.Op × Nat)
  | .starting => some (.start, 0)
  | .stopping => some (.shutdown, 1)
  | _ => none

namespace State

/-- `serve` returns: the senders it still holds are dropped. -/
def leave (s : State) : State := { s with pc := .returned, tasks := fun task => (s.tasks task).tell }

/-- Stop a task, or wait for it. -/
def tearDown (s : State) (left : List Teardown) : Teardown → State
  | .stop task =>
    { s with pc := .ending left, tasks := Function.update s.tasks task (s.tasks task).tell }
  | .join _ => { s with pc := .ending left }

end State

/-- The step relation. The manager has an ingress, or `serve` had not come so far.
A server hands requests on from its spawn until it ends, which it may do at any
time; `serve` is refused when the gRPC server or the scheduler cannot be started. -/
def step (plan : Plan) (s : State) : Step → Option State
  | .spawn task =>
    match s.pc with
    | .spawning (next :: left) =>
      if next = task then
        some { s with pc := .spawning left, tasks := Function.update s.tasks task .live }
      else none
    | _ => none
  | .refuse =>
    match s.pc with
    | .spawning (next :: _) =>
      if next = .grpc ∨ next = .scheduler then some s.leave else none
    | _ => none
  | .supervise => if s.pc = .spawning [] then some { s with pc := .starting } else none
  | .manager a =>
    if s.pc.call = some (a.call) then
      (ManagerSteps.step true s.manager a).map fun manager => { s with manager }
    else none
  | .started result =>
    if s.pc = .starting ∧ s.manager.At 0 .start (.returned result) then
      some { s with pc := if result.isOk then .waiting else .ending plan.teardown }
    else none
  | .signal => if s.pc = .waiting then some { s with pc := .stopping } else none
  | .shutDown result =>
    if s.pc = .stopping ∧ s.manager.At 1 .shutdown (.returned result) then
      some { s with pc := .ending plan.teardown }
    else none
  | .timeOut => if s.pc = .stopping then some { s with pc := .ending plan.teardown } else none
  | .tearDown x =>
    match s.pc with
    | .ending (next :: left) => if next = x then some (s.tearDown left x) else none
    | _ => none
  | .finish => if s.pc = .ending [] then some s.leave else none
  | .handle server =>
    if (server = .http ∨ server = .grpc) ∧ (s.tasks server).Runs then some s else none
  | .exit task =>
    if (s.tasks task).Runs then some { s with tasks := Function.update s.tasks task .ended }
    else none

def machine (plan : Plan) : StepMachine State Step where
  init := ⟨.spawning plan.tasks, ⟨.stopped, fun _ => none⟩, fun _ => .unspawned⟩
  step := step plan

/-- The step hands a request to the ingress. -/
def Step.Hands (a : Step) : Prop := ∃ server, a = .handle server

/-- A request is handed to the ingress while the manager is `Running`. -/
def WhileRunning (_ : List Step) (s : State) (a : Step) : Prop :=
  a.Hands → s.manager.status = .running

/-- A request arrives after the final write of the start and before the shutdown
began. -/
def BetweenStartAndShutdown (done : List Step) (_ : State) (a : Step) : Prop :=
  a.Hands → .manager (.startFinish 0) ∈ done ∧ .manager (.shutdownBegin 1) ∉ done

/-- `serve` has not begun to shut the manager down. -/
def Pc.Early : Pc → Prop
  | .spawning _ | .starting | .waiting => True
  | _ => False

/-- What the manager's steps so far say of its calls and its status. -/
structure Tracks (done : List Step) (m : ManagerSteps.State) : Prop where
  fresh : m.calls 0 = none → m.status = .stopped
  finished : .manager (.startFinish 0) ∈ done ↔ m.At 0 .start (.returned (.ok ()))
  begun : .manager (.shutdownBegin 1) ∈ done ↔ m.calls 1 ≠ none
  running : m.status = .running ↔ m.At 0 .start (.returned (.ok ())) ∧ m.calls 1 = none

variable {plan : Plan} {done : List Step} {m m' : ManagerSteps.State} {a : ManagerSteps.Step}

/-- A step that is not of the manager says nothing. -/
private theorem Tracks.snoc {b : Step} (tracks : Tracks done m) (other : ∀ a, b ≠ .manager a) :
    Tracks (done ++ [b]) m where
  fresh := tracks.fresh
  finished := by
    rw [← tracks.finished]
    simp [Ne.symm (other _)]
  begun := by
    rw [← tracks.begun]
    simp [Ne.symm (other _)]
  running := tracks.running

/-- Unless the status is `Running`, only the final write of the start makes it so and
lets the start succeed. -/
private theorem startFinish_iff {status : RuntimeStatus} (other : status ≠ .running)
    (called : a.call = (.start, 0)) :
    (a.write status = .running ↔ a = .startFinish 0) ∧
      (a.reaches status = .returned (.ok ()) ↔ a = .startFinish 0) := by
  cases a with
  | startBegin i => simp [ManagerSteps.Step.write, ManagerSteps.Step.reaches, other]
  | startHookReturn i result =>
    cases result with
    | ok _ => simp [ManagerSteps.Step.write, ManagerSteps.Step.reaches, other]
    | error e => simp [ManagerSteps.Step.write, ManagerSteps.Step.reaches, other]
  | startRefuse i | startHookCall i | startProbe i =>
    simp [ManagerSteps.Step.write, ManagerSteps.Step.reaches, other]
  | startFinish i =>
    cases called
    simp [ManagerSteps.Step.write, ManagerSteps.Step.reaches]
  | shutdownBegin i | shutdownHookCall i | shutdownHookReturn i result | shutdownFinish i =>
    cases called

/-- A step of the start. -/
private theorem Tracks.start (tracks : Tracks done m) (quiet : m.calls 1 = none)
    (ran : ManagerSteps.step true m a = some m') (called : a.call = (.start, 0)) :
    Tracks (done ++ [.manager a]) m' ∧ m'.calls 1 = none := by
  obtain ⟨found, reached⟩ := ManagerSteps.step_spec ran
  rw [called] at found reached
  have unfinished : ¬ m.At 0 .start (.returned (.ok ())) := by
    intro held
    obtain ⟨phase, finds, same⟩ := Option.map_eq_some_iff.mp (found.symm.trans held)
    cases same
    exact ManagerSteps.Step.live_of_finds finds
  have stopped : m.status ≠ .running := fun now => unfinished (tracks.running.mp now).1
  obtain ⟨writes, reaches⟩ := startFinish_iff stopped called
  have quiet' : m'.calls 1 = none := by
    rw [reached]
    simpa [ManagerSteps.State.advance] using quiet
  have finished : m'.At 0 .start (.returned (.ok ())) ↔ a = .startFinish 0 := by
    rw [reached, ManagerSteps.State.at_advance, ← reaches]
    simp [eq_comm]
  refine ⟨⟨?_, ?_, ?_, ?_⟩, quiet'⟩
  · intro absent
    simp [reached, ManagerSteps.State.advance] at absent
  · simp [finished, mt tracks.finished.mp unfinished, eq_comm]
  · have unbegun : .manager (.shutdownBegin 1) ∉ done := fun begun => tracks.begun.mp begun quiet
    have other : a ≠ .shutdownBegin 1 := by
      rintro rfl
      cases called
    simp [unbegun, quiet', Ne.symm other]
  · rw [finished, ← writes, ManagerSteps.status_of_step ran]
    simp [quiet']

/-- A step of the shutdown. -/
private theorem Tracks.shutdown (tracks : Tracks done m)
    (ran : ManagerSteps.step true m a = some m') (called : a.call = (.shutdown, 1)) :
    Tracks (done ++ [.manager a]) m' := by
  obtain ⟨found, reached⟩ := ManagerSteps.step_spec ran
  rw [called] at found reached
  have begun : a = .shutdownBegin 1 ∨ m.calls 1 ≠ none := by
    rw [found]
    cases a with
    | shutdownBegin i =>
      cases called
      exact .inl rfl
    | shutdownHookCall i | shutdownHookReturn i result | shutdownFinish i => exact .inr nofun
    | startBegin i | startRefuse i | startHookCall i | startHookReturn i result | startProbe i
    | startFinish i => cases called
  have unsettled : a ≠ .shutdownBegin 1 → m.status ≠ .running :=
    fun other now => begun.resolve_left other (tracks.running.mp now).2
  have writes : a.write m.status ≠ .running ∧ (m.status = .stopped → a.write m.status = .stopped) := by
    cases a with
    | shutdownBegin i =>
      by_cases stopped : m.status = .stopped
      · simp [ManagerSteps.Step.write, stopped]
      · simp [ManagerSteps.Step.write, stopped]
    | shutdownHookCall i | shutdownHookReturn i result => exact ⟨unsettled (by simp), id⟩
    | shutdownFinish i => simp [ManagerSteps.Step.write]
    | startBegin i | startRefuse i | startHookCall i | startHookReturn i result | startProbe i
    | startFinish i => cases called
  have other : a ≠ .startFinish 0 := by
    rintro rfl
    cases called
  rw [reached]
  constructor
  · intro absent
    have before : m.calls 0 = none := by simpa [ManagerSteps.State.advance] using absent
    exact writes.2 (tracks.fresh before)
  · simp [Ne.symm other, tracks.finished, ManagerSteps.State.at_advance]
  · rw [List.mem_append, tracks.begun, List.mem_singleton]
    rcases begun with rfl | begun
    · simp [ManagerSteps.State.advance]
    · simp [begun, ManagerSteps.State.advance]
  · simp [writes.1, ManagerSteps.State.advance]

/-- The invariant of a run: until `serve` shuts the manager down, nobody has. -/
structure Invariant (done : List Step) (s : State) : Prop where
  tracks : Tracks done s.manager
  early : s.pc.Early → s.manager.calls 1 = none

private theorem invariant_init : Invariant [] (machine plan).init where
  tracks :=
    { fresh := fun _ => rfl
      finished := by simp [machine, ManagerSteps.State.At]
      begun := by simp [machine]
      running := by simp [machine, ManagerSteps.State.At] }
  early _ := rfl

/-- A step that is not of the manager leaves it alone, and takes nothing back. -/
private theorem frame_of_step {s s' : State} {b : Step} (ran : step plan s b = some s')
    (other : ∀ a, b ≠ .manager a) :
    s'.manager = s.manager ∧ (s'.pc.Early → s.pc.Early) := by
  cases b with
  | manager a => exact absurd rfl (other a)
  | spawn task =>
    simp only [step] at ran
    split at ran
    · rename_i next left pc
      simp only [Option.ite_none_right_eq_some, Option.some.injEq] at ran
      obtain ⟨_, rfl⟩ := ran
      exact ⟨rfl, fun _ => by rw [pc]; trivial⟩
    · cases ran
  | refuse =>
    simp only [step] at ran
    split at ran
    · simp only [Option.ite_none_right_eq_some, Option.some.injEq] at ran
      obtain ⟨_, rfl⟩ := ran
      exact ⟨rfl, False.elim⟩
    · cases ran
  | supervise =>
    simp only [step, Option.ite_none_right_eq_some, Option.some.injEq] at ran
    obtain ⟨pc, rfl⟩ := ran
    exact ⟨rfl, fun _ => by rw [pc]; trivial⟩
  | started result =>
    simp only [step, Option.ite_none_right_eq_some, Option.some.injEq] at ran
    obtain ⟨⟨pc, _⟩, rfl⟩ := ran
    exact ⟨rfl, fun _ => by rw [pc]; trivial⟩
  | signal | shutDown result | timeOut | finish =>
    simp only [step, Option.ite_none_right_eq_some, Option.some.injEq] at ran
    obtain ⟨_, rfl⟩ := ran
    exact ⟨rfl, False.elim⟩
  | tearDown x =>
    simp only [step] at ran
    split at ran
    · simp only [Option.ite_none_right_eq_some, Option.some.injEq] at ran
      obtain ⟨_, rfl⟩ := ran
      cases x with
      | stop task => exact ⟨rfl, False.elim⟩
      | join task => exact ⟨rfl, False.elim⟩
    · cases ran
  | handle server =>
    simp only [step, Option.ite_none_right_eq_some, Option.some.injEq] at ran
    obtain ⟨_, rfl⟩ := ran
    exact ⟨rfl, id⟩
  | exit task =>
    simp only [step, Option.ite_none_right_eq_some, Option.some.injEq] at ran
    obtain ⟨_, rfl⟩ := ran
    exact ⟨rfl, id⟩

private theorem invariant_step {s s' : State} {b : Step} (holds : Invariant done s)
    (ran : step plan s b = some s') : Invariant (done ++ [b]) s' := by
  by_cases managed : ∃ a, b = .manager a
  · obtain ⟨a, rfl⟩ := managed
    simp only [step, Option.ite_none_right_eq_some, Option.map_eq_some_iff] at ran
    obtain ⟨waits, m, ran, rfl⟩ := ran
    cases pc : s.pc with
    | starting =>
      rw [pc] at waits
      obtain ⟨tracks, quiet⟩ := holds.tracks.start (holds.early (by rw [pc]; trivial)) ran
        (Option.some.inj waits).symm
      exact ⟨tracks, fun _ => quiet⟩
    | stopping =>
      rw [pc] at waits
      refine ⟨holds.tracks.shutdown ran (Option.some.inj waits).symm, ?_⟩
      intro early
      cases (show Pc.Early .stopping from early)
    | spawning left | waiting | ending left | returned =>
      rw [pc] at waits
      cases waits
  · have other : ∀ a, b ≠ .manager a := fun a same => managed ⟨a, same⟩
    obtain ⟨same, later⟩ := frame_of_step ran other
    constructor
    · rw [same]
      exact holds.tracks.snoc other
    · intro now
      rw [same]
      exact holds.early (later now)

/-- In every state of a run the manager is `Running` exactly when its start has
made the final write and its shutdown has not begun. -/
theorem running_iff {steps : List Step} {s : State} (run : (machine plan).exec steps = some s) :
    s.manager.status = .running ↔
      .manager (.startFinish 0) ∈ steps ∧ .manager (.shutdownBegin 1) ∉ steps := by
  have holds := run_induction (M := machine plan) (P := Invariant) invariant_init
    (fun _ _ _ _ _ holds ran => invariant_step holds ran) run
  rw [holds.tracks.running, holds.tracks.finished, holds.tracks.begun, not_ne_iff]

/-- The first ingress server hands requests on as soon as it is spawned. -/
private theorem handed_before_start (ingress : plan.http = true ∨ plan.grpc = true) :
    ∃ steps s, (machine plan).exec steps = some s ∧
      ¬ (machine plan).Throughout WhileRunning steps := by
  obtain ⟨http, grpc, metrics, scheduler⟩ := plan
  cases http with
  | true =>
    refine ⟨[.spawn .http, .handle .http], _, rfl, fun kept => ?_⟩
    cases kept [.spawn .http] (.handle .http) [] _ rfl rfl ⟨.http, rfl⟩
  | false =>
    cases grpc with
    | true =>
      refine ⟨[.spawn .grpc, .handle .grpc], _, rfl, fun kept => ?_⟩
      cases kept [.spawn .grpc] (.handle .grpc) [] _ rfl rfl ⟨.grpc, rfl⟩
    | false => simp at ingress

/-- The requests of a run are handed to the ingress only while the manager is
`Running` exactly when each arrives after the final write of the start and before
the shutdown began; and every assembly with an ingress has a run where one does
not. -/
theorem requests_while_running_iff (plan : Plan) :
    (∀ steps, (machine plan).Throughout WhileRunning steps ↔
      (machine plan).Throughout BetweenStartAndShutdown steps) ∧
    (plan.http = true ∨ plan.grpc = true → ∃ steps s, (machine plan).exec steps = some s ∧
      ¬ (machine plan).Throughout WhileRunning steps) := by
  refine ⟨?_, handed_before_start⟩
  intro steps
  constructor
  · intro kept done a rest s split reached hands
    exact (running_iff reached).mp (kept done a rest s split reached hands)
  · intro timely done a rest s split reached hands
    exact (running_iff reached).mpr (timely done a rest s split reached hands)

/-- A whole run of an HTTP server: one request comes before the background tasks
have started, one while the manager is `Running`, and one after the lifecycle has
shut down. -/
theorem requests_outside_running :
    let before : List Step :=
      [.spawn .http, .supervise, .manager (.startBegin 0), .manager (.startHookCall 0)]
    let between : List Step :=
      [.handle .http, .manager (.startHookReturn 0 (.ok ())), .manager (.startProbe 0),
        .manager (.startFinish 0), .started (.ok ()), .handle .http, .signal,
        .manager (.shutdownBegin 1), .manager (.shutdownHookCall 1),
        .manager (.shutdownHookReturn 1 (.ok ())), .manager (.shutdownFinish 1)]
    let after : List Step :=
      [.handle .http, .shutDown (.ok ()), .tearDown (.stop .http), .tearDown (.stop .grpc),
        .exit .http, .tearDown (.join .http), .finish]
    (∃ s, (machine ⟨true, false, false, false⟩).exec (before ++ between ++ after) = some s ∧
      s.pc = .returned) ∧
    (∃ s, (machine ⟨true, false, false, false⟩).exec before = some s ∧
      s.manager.status = .starting) ∧
    (∃ s, (machine ⟨true, false, false, false⟩).exec (before ++ between) = some s ∧
      s.manager.status = .stopped) ∧
    ¬ (machine ⟨true, false, false, false⟩).Throughout WhileRunning
      (before ++ between ++ after) := by
  refine ⟨⟨_, rfl, rfl⟩, ⟨_, rfl, rfl⟩, ⟨_, rfl, rfl⟩, fun kept => ?_⟩
  cases kept [.spawn .http, .supervise, .manager (.startBegin 0), .manager (.startHookCall 0)]
    (.handle .http) _ _ rfl rfl ⟨.http, rfl⟩

end EdgeBootstrap.ServeSteps
