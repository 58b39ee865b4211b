import EdgeBootstrap.Runtime.ServeSteps
import EdgeBootstrap.Runtime.Spawning

/-! `serve` is a run of its steps in which no request arrives and no server ends on
its own: what it does to the outside, in order, is what those steps show. -/
namespace EdgeBootstrap

/-- What a step of `serve` shows to the outside. -/
inductive Mark
  | spawned (task : Task)
  | started (result : Except RuntimeError Unit)
  | signalled
  | shutDown (result : Except RuntimeError Unit)
  | stopped (task : Task)
  | joined (task : Task)
  deriving DecidableEq

section
variable [Platform] {σ α : Type}

/-- What an event shows, from the first server on. -/
def RuntimeEvent.mark : RuntimeEvent σ α → Option Mark
  | .tracingInitialised _ | .samplerSpawned _ => none
  | .httpSpawned _ => some (.spawned .http)
  | .grpcSpawned _ => some (.spawned .grpc)
  | .metricsSpawned _ => some (.spawned .metrics)
  | .schedulerSpawned => some (.spawned .scheduler)
  | .managerStarted result => some (.started result)
  | .signalled => some .signalled
  | .managerShutDown result => some (.shutDown result)
  | .stopSent task => some (.stopped task)
  | .joined task => some (.joined task)

end

namespace ServeSteps
open StepMachine

def Teardown.mark : Teardown → Mark
  | .stop task => .stopped task
  | .join task => .joined task

def Step.mark : Step → Option Mark
  | .spawn task => some (.spawned task)
  | .started result => some (.started result)
  | .signal => some .signalled
  | .shutDown result => some (.shutDown result)
  | .tearDown x => some x.mark
  | _ => none

variable {plan : Plan} {s s' : State} {steps : List Step} {marks : List Mark}

/-- From this state some run shows these marks and returns. -/
def Shows (plan : Plan) (s : State) (marks : List Mark) : Prop :=
  ∃ steps last, (machine plan).execFrom s steps = some last ∧ last.pc = .returned ∧
    steps.filterMap Step.mark = marks

/-- Some steps, and then a run. -/
theorem Shows.after (rest : Shows plan s' marks) (ran : (machine plan).execFrom s steps = some s') :
    Shows plan s (steps.filterMap Step.mark ++ marks) := by
  obtain ⟨later, last, run, returned, rfl⟩ := rest
  refine ⟨steps ++ later, last, ?_, returned, List.filterMap_append⟩
  rw [execFrom_append, ran]
  exact run

variable (plan) in
/-- The tasks are spawned one after the other. -/
theorem exec_spawn {left : List Task} (tasks : List Task) (pc : s.pc = .spawning (tasks ++ left)) :
    ∃ s', (machine plan).execFrom s (tasks.map .spawn) = some s' ∧ s'.pc = .spawning left ∧
      s'.manager = s.manager := by
  induction tasks generalizing s with
  | nil => exact ⟨s, rfl, pc, rfl⟩
  | cons task tasks ih =>
    have ran : step plan s (.spawn task) = some
        { s with pc := .spawning (tasks ++ left), tasks := Function.update s.tasks task .live } := by
      simp only [step, pc, List.cons_append, if_true]
    obtain ⟨s', rest, pc', same⟩ := ih (s := { s with
      pc := .spawning (tasks ++ left), tasks := Function.update s.tasks task .live }) rfl
    refine ⟨s', ?_, pc', same⟩
    rw [List.map_cons, execFrom_cons, show (machine plan).step s (.spawn task) = _ from ran]
    exact rest

variable (plan) in
/-- A run of the manager's call that `serve` waits for. -/
theorem exec_manager {call : ManagerSteps.Op × Nat} (waits : s.pc.call = some call)
    {moves : List ManagerSteps.Step} (ofCall : ∀ a ∈ moves, a.call = call)
    {m : ManagerSteps.State} (ran : (ManagerSteps.machine true).execFrom s.manager moves = some m) :
    (machine plan).execFrom s (moves.map .manager) = some { s with manager := m } := by
  induction moves generalizing s with
  | nil =>
    cases ran
    rfl
  | cons a moves ih =>
    rw [execFrom_cons, Option.bind_eq_some_iff] at ran
    obtain ⟨next, first, ran⟩ := ran
    have here : s.pc.call = some a.call := by
      rw [waits, ofCall a List.mem_cons_self]
    have moved : step plan s (.manager a) = some { s with manager := next } := by
      simp only [step, if_pos here]
      rw [show ManagerSteps.step true s.manager a = some next from first]
      rfl
    rw [List.map_cons, execFrom_cons, show (machine plan).step s (.manager a) = _ from moved]
    exact ih (s := { s with manager := next }) waits
      (fun b member => ofCall b (List.mem_cons_of_mem _ member)) ran

/-- The end of `serve` goes through and returns. -/
theorem shows_ending {left : List Teardown} (pc : s.pc = .ending left) :
    Shows plan s (left.map Teardown.mark) := by
  induction left generalizing s with
  | nil =>
    refine ⟨[.finish], s.leave, ?_, rfl, rfl⟩
    simp [machine, step, pc]
  | cons x left ih =>
    have ran : (machine plan).execFrom s [.tearDown x] = some (s.tearDown left x) := by
      simp [machine, step, pc]
    have next : (s.tearDown left x).pc = .ending left := by
      cases x with
      | stop task => rfl
      | join task => rfl
    exact (ih next).after ran

/-- The steps of a call of the manager show nothing. -/
theorem marks_manager (moves : List ManagerSteps.Step) :
    (moves.map Step.manager).filterMap Step.mark = [] := by
  rw [List.filterMap_map]
  exact List.filterMap_eq_nil_iff.mpr fun _ _ => rfl

/-- One step, and then a run. -/
theorem Shows.step {a : Step} (rest : Shows plan s' marks) (ran : step plan s a = some s') :
    Shows plan s (a.mark.toList ++ marks) := by
  have one : (machine plan).execFrom s [a] = some s' := by
    rw [execFrom_cons, show (machine plan).step s a = _ from ran]
    rfl
  have shown := rest.after one
  cases marked : a.mark with
  | none => simpa [marked] using shown
  | some mark => simpa [marked] using shown

/-- Some tasks are spawned, and then a run. -/
theorem shows_spawning (tasks : List Task) {left : List Task} (pc : s.pc = .spawning (tasks ++ left))
    (rest : ∀ s', s'.pc = .spawning left → s'.manager = s.manager → Shows plan s' marks) :
    Shows plan s (tasks.map .spawned ++ marks) := by
  obtain ⟨s', ran, pc', same⟩ := exec_spawn plan tasks pc
  have shown := (rest s' pc' same).after ran
  have spawned : (tasks.map Step.spawn).filterMap Step.mark = tasks.map .spawned := by
    rw [List.filterMap_map]
    exact congrFun (List.filterMap_eq_map (f := Mark.spawned)) tasks
  rwa [spawned] at shown

/-- A task that cannot be started ends `serve`. -/
theorem shows_refusal {task : Task} {left : List Task} (pc : s.pc = .spawning (task :: left))
    (refusable : task = .grpc ∨ task = .scheduler) : Shows plan s [] := by
  refine ⟨[.refuse], s.leave, ?_, rfl, rfl⟩
  simp [machine, step, pc, refusable]

end ServeSteps

section
variable [Platform] {σ α : Type}

/-- A start leaves the ingress as it is. -/
theorem DefaultRuntimeManager.start_ingress (self : DefaultRuntimeManager σ α) (now : UInt64) :
    (self.start now).2.ingress = self.ingress := by
  unfold start
  by_cases running : self.status = .running
  · rw [if_pos running]
  · rw [if_neg running]
    cases hasAny : self.ingress.hasAny with
    | true => cases hook : self.lifecycle.startBackgroundTasks <;> simp [hasAny, hook]
    | false => simp [hasAny]

section Runner
variable (host : Host σ α) (manager : DefaultRuntimeManager σ α) (timeout : UInt64)

/-- What the runner shows. -/
def runnerMarks : List Mark :=
  .started (manager.start host.startedAt).1 ::
    if (manager.start host.startedAt).1.isOk then
      .signalled :: if host.shutdownTimesOut timeout then []
        else [.shutDown (manager.start host.startedAt).2.shutdown.1]
    else []

theorem marks_runUntilSignal :
    (DaemonRunner.runUntilSignal host manager timeout).events.filterMap RuntimeEvent.mark =
      runnerMarks host manager timeout := by
  unfold runnerMarks DaemonRunner.runUntilSignal
  rcases started : manager.start host.startedAt with ⟨result, after⟩
  cases result with
  | error e => rfl
  | ok _ =>
    cases late : host.shutdownTimesOut timeout with
    | true => rfl
    | false => rfl

open ServeSteps in
/-- From the signal on: the shutdown returns or is cut off, and `serve` ends. -/
theorem shows_stopping {plan : Plan} {m : ManagerSteps.State} {tasks : Task → Life}
    (status : m.status = manager.status) (fresh : m.calls 1 = none)
    (ingress : manager.ingress.hasAny = true) :
    Shows plan ⟨.stopping, m, tasks⟩
      ((if host.shutdownTimesOut timeout then [] else [.shutDown manager.shutdown.1]) ++
        plan.teardown.map Teardown.mark) := by
  cases late : host.shutdownTimesOut timeout with
  | true =>
    have cut : step plan ⟨.stopping, m, tasks⟩ .timeOut =
        some ⟨.ending plan.teardown, m, tasks⟩ := rfl
    exact (shows_ending rfl).step cut
  | false =>
    obtain ⟨moves, ofCall, ran⟩ := manager.shutdown_refines status fresh
    rw [ingress] at ran
    generalize reached : m.advance _ 1 .shutdown (.returned manager.shutdown.1) = m' at ran
    have held : m'.At 1 .shutdown (.returned manager.shutdown.1) := by
      rw [← reached]
      simp [ManagerSteps.State.at_advance]
    have shut := exec_manager plan (s := ⟨.stopping, m, tasks⟩) rfl ofCall ran
    have returned : step plan ⟨.stopping, m', tasks⟩ (.shutDown manager.shutdown.1) =
        some ⟨.ending plan.teardown, m', tasks⟩ := if_pos ⟨rfl, held⟩
    have shown := ((shows_ending rfl).step returned).after shut
    rwa [marks_manager] at shown

open ServeSteps in
/-- The runner, and then the end of `serve`, are a run of its steps. -/
theorem shows_runner {plan : Plan} {tasks : Task → Life} (status : manager.status = .stopped)
    (ingress : manager.ingress.hasAny = true) :
    Shows plan ⟨.starting, ⟨.stopped, fun _ => none⟩, tasks⟩
      (runnerMarks host manager timeout ++ plan.teardown.map Teardown.mark) := by
  obtain ⟨moves, ofCall, ran⟩ := manager.start_refines (s := ⟨.stopped, fun _ => none⟩) (i := 0)
    host.startedAt status.symm rfl
  rw [ingress] at ran
  generalize reached : ManagerSteps.State.advance _ _ 0 .start
    (.returned (manager.start host.startedAt).1) = m at ran
  have held : m.At 0 .start (.returned (manager.start host.startedAt).1) := by
    rw [← reached]
    simp [ManagerSteps.State.at_advance]
  have same : m.status = (manager.start host.startedAt).2.status := by
    rw [← reached]
    rfl
  have quiet : m.calls 1 = none := by
    rw [← reached]
    simp [ManagerSteps.State.advance]
  have begun := exec_manager plan (s := ⟨.starting, ⟨.stopped, fun _ => none⟩, tasks⟩) rfl
    ofCall ran
  have started : step plan ⟨.starting, m, tasks⟩ (.started (manager.start host.startedAt).1) =
      some ⟨if (manager.start host.startedAt).1.isOk then .waiting else .ending plan.teardown, m,
        tasks⟩ := if_pos ⟨rfl, held⟩
  suffices rest : Shows plan
      ⟨if (manager.start host.startedAt).1.isOk then .waiting else .ending plan.teardown, m, tasks⟩
      ((if (manager.start host.startedAt).1.isOk then
        .signalled :: if host.shutdownTimesOut timeout then []
          else [.shutDown (manager.start host.startedAt).2.shutdown.1]
        else []) ++ plan.teardown.map Teardown.mark) by
    have shown := (rest.step started).after begun
    rwa [marks_manager] at shown
  cases (manager.start host.startedAt).1.isOk with
  | false => exact shows_ending rfl
  | true =>
    have signalled : step plan ⟨.waiting, m, tasks⟩ .signal = some ⟨.stopping, m, tasks⟩ := rfl
    have started_ingress : (manager.start host.startedAt).2.ingress.hasAny = true := by
      rw [manager.start_ingress, ingress]
    exact (shows_stopping host _ timeout same quiet started_ingress).step signalled

end Runner

section Serving
variable {host : Host σ α} {self : RuntimeBuilder σ α} {a : RuntimeBuilder.Assembly σ α}

/-- The tasks of an assembly. -/
def RuntimeBuilder.plan (host : Host σ α) (self : RuntimeBuilder σ α) (a : Assembly σ α) :
    ServeSteps.Plan where
  http := a.ingress.http.isSome
  grpc := a.ingress.grpc.isSome
  metrics := (metricsServer a).isSome
  scheduler := self.hasScheduler host

/-- What is shown once the servers are spawned. -/
def RuntimeBuilder.supervisedMarks (host : Host σ α) (self : RuntimeBuilder σ α)
    (a : Assembly σ α) : List Mark :=
  (if self.hasScheduler host then [.spawned .scheduler] else []) ++
    (runnerMarks host (self.manager host a) a.config.shutdownTimeoutSecs ++
      (self.plan host a).teardown.map ServeSteps.Teardown.mark)

theorem RuntimeBuilder.marks_supervise :
    (self.supervise host a).events.filterMap RuntimeEvent.mark =
      if self.hasScheduler host ∧ host.spawnSchedulerThread.isOk = false then []
      else self.supervisedMarks host a := by
  have ends : (self.endEvents host a).filterMap RuntimeEvent.mark =
      (self.plan host a).teardown.map ServeSteps.Teardown.mark := by
    unfold endEvents ServeSteps.Plan.teardown ServeSteps.Plan.servers plan joined
    cases a.ingress.http.isSome <;> cases a.ingress.grpc.isSome <;>
      cases (metricsServer a).isSome <;> cases self.hasScheduler host <;> rfl
  rw [events_supervise]
  split
  · rfl
  · unfold supervisedMarks
    rw [List.filterMap_append, List.filterMap_append, marks_runUntilSignal, ends]
    cases self.hasScheduler host <;> rfl

/-- `assemble` shows nothing. -/
theorem RuntimeBuilder.marks_assemble :
    (self.assemble host).events.filterMap RuntimeEvent.mark = [] := by
  rw [List.filterMap_eq_nil_iff]
  intro event emitted
  have setsUp := not_not.mp (assemble_setsUp event emitted)
  cases event with
  | tracingInitialised _ | samplerSpawned _ => rfl
  | httpSpawned _ | grpcSpawned _ | metricsSpawned _ | schedulerSpawned | managerStarted _
  | signalled | managerShutDown _ | stopSent _ | joined _ => exact setsUp.elim

open ServeSteps in
/-- Once the servers are spawned, the rest of `serve` is a run of its steps. -/
theorem RuntimeBuilder.shows_supervise (assembled : Resolved host self a) {s : State}
    (pc : s.pc = .spawning (if self.hasScheduler host then [.scheduler] else []))
    (fresh : s.manager = ⟨.stopped, fun _ => none⟩) :
    Shows (self.plan host a) s ((self.supervise host a).events.filterMap RuntimeEvent.mark) := by
  have runner : ∀ s' : State, s'.pc = .spawning [] → s'.manager = s.manager →
      Shows (self.plan host a) s'
        (runnerMarks host (self.manager host a) a.config.shutdownTimeoutSecs ++
          (self.plan host a).teardown.map Teardown.mark) := by
    rintro ⟨_, m, tasks⟩ rfl same
    cases same.trans fresh
    have supervised : step (self.plan host a) ⟨.spawning [], ⟨.stopped, fun _ => none⟩, tasks⟩
        .supervise = some ⟨.starting, ⟨.stopped, fun _ => none⟩, tasks⟩ := rfl
    exact (shows_runner host (self.manager host a) _ rfl assembled.hasAny).step supervised
  rw [marks_supervise]
  unfold supervisedMarks
  cases scheduled : self.hasScheduler host with
  | false =>
    rw [scheduled] at pc
    rw [if_neg (by simp)]
    exact runner s pc rfl
  | true =>
    rw [scheduled] at pc
    cases host.spawnSchedulerThread with
    | error e => exact shows_refusal pc (.inr rfl)
    | ok _ => exact shows_spawning [.scheduler] pc runner

open ServeSteps in
/-- When the gRPC server cannot be built, the HTTP server has been spawned and no
other. -/
theorem RuntimeBuilder.shows_refused [Clock α] (present : a.ingress.grpc.isSome = true)
    (e : RuntimeError) (rest : Assembling σ α Unit) :
    Shows (self.plan host a) (machine (self.plan host a)).init
      ((spawnServers (a.ingress.http.map (self.httpServer a)) (some (.error e)) (metricsServer a) >>=
        fun _ => rest).events.filterMap RuntimeEvent.mark) := by
  have refused : (spawnServers (a.ingress.http.map (self.httpServer a)) (some (.error e))
      (metricsServer a)).result = .error e := by
    rw [spawnServers_of_error]
    rfl
  have spawned : ((a.ingress.http.map (self.httpServer a)).map
      RuntimeEvent.httpSpawned).toList.filterMap RuntimeEvent.mark =
        (if a.ingress.http.isSome then [Task.http] else []).map .spawned := by
    cases a.ingress.http <;> rfl
  have order : (self.plan host a).tasks = (if a.ingress.http.isSome then [Task.http] else []) ++
      .grpc :: ((if (metricsServer a).isSome then [Task.metrics] else []) ++
        if self.hasScheduler host then [.scheduler] else []) := by
    simp [Plan.tasks, Plan.servers, plan, present]
  rw [(Effects.bind_of_error refused).1, spawnServers_of_error]
  have shown : Shows (self.plan host a) (machine (self.plan host a)).init _ :=
    shows_spawning _ (congrArg Pc.spawning order) fun s' pc _ => shows_refusal pc (.inl rfl)
  rwa [List.append_nil, ← spawned] at shown

open ServeSteps in
/-- `serve` is a run of its steps. -/
theorem RuntimeBuilder.shows_serve [Clock α] (assembled : (self.assemble host).result = .ok a) :
    Shows (self.plan host a) (machine (self.plan host a)).init
      ((self.serve host).events.filterMap RuntimeEvent.mark) := by
  have resolved := assemble_resolved assembled
  have events : (self.serve host).events = (self.assemble host).events ++ _ :=
    (Effects.bind_of_ok assembled).1
  rw [events, List.filterMap_append, marks_assemble, List.nil_append]
  have spawned : ∀ grpc : Option (GrpcServer σ α), grpc.isSome = a.ingress.grpc.isSome →
      (spawnEvents (a.ingress.http.map (self.httpServer a)) (metricsServer a) grpc).filterMap
        RuntimeEvent.mark = (self.plan host a).servers.map .spawned := by
    intro grpc same
    unfold spawnEvents Plan.servers plan
    rw [← same]
    cases a.ingress.http <;> cases metricsServer a <;> cases grpc <;> rfl
  have all : ∀ grpc : Option (GrpcServer σ α), grpc.isSome = a.ingress.grpc.isSome →
      Shows (self.plan host a) (machine (self.plan host a)).init
        ((spawnServers (a.ingress.http.map (self.httpServer a)) (grpc.map .ok) (metricsServer a) >>=
          fun _ => self.supervise host a).events.filterMap RuntimeEvent.mark) := by
    intro grpc same
    rw [spawnServers_of_ok, Effects.events_tellAll_bind, List.filterMap_append, spawned grpc same]
    exact shows_spawning _ rfl fun s' pc same => shows_supervise resolved pc same
  cases present : a.ingress.grpc with
  | none =>
    rw [present] at all
    exact all none rfl
  | some handler =>
    rw [present] at all
    cases built : self.grpcServer host a handler with
    | ok server =>
      rw [Option.map_some, built]
      exact all (some server) rfl
    | error e =>
      rw [Option.map_some, built]
      exact shows_refused (by rw [present]; rfl) e _

end Serving

end

end EdgeBootstrap
