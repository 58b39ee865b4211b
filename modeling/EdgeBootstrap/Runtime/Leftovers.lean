import EdgeBootstrap.Runtime.Spawning

/-! What `serve` leaves behind. The sender of a task's stop channel is a local of
`serve`, so each task is told to stop at the latest when `serve` returns, by whichever
way it leaves; on the sampler it has no hold at all. -/
namespace EdgeBootstrap

/-- What `serve` spawns. -/
inductive Spawned
  | task (task : Task)
  | sampler
  deriving DecidableEq, Repr

/-- The sender of a stop channel. -/
inductive Sender
  | held
  | sent
  | dropped
  deriving DecidableEq, Repr

/-- `serve` returns, and its locals are dropped. -/
def Sender.leave : Sender → Sender
  | .held => .dropped
  | sender => sender

/-- What `serve` has in hand to stop something it spawned. -/
structure Hold where
  sender : Option Sender
  aborted : Bool
  deriving DecidableEq, Repr

namespace Hold

/-- A task awaits the channel that is made for it. The sampler awaits its ticks only,
in a loop without an end, and its handle is discarded. -/
def ofSpawned : Spawned → Hold
  | .task _ => ⟨some .held, false⟩
  | .sampler => ⟨none, false⟩

def send (hold : Hold) : Hold := { hold with sender := hold.sender.map fun _ => .sent }

def leave (hold : Hold) : Hold := { hold with sender := hold.sender.map .leave }

/-- The stop condition has been raised. -/
def StopRaised (hold : Hold) : Prop :=
  hold.sender = some .sent ∨ hold.sender = some .dropped ∨ hold.aborted = true

variable {hold : Hold}

/-- A channel whose sender is there is sent to. -/
theorem send_sender (present : hold.sender = some .held ∨ hold.sender = some .sent) :
    hold.send.sender = some .sent := by
  rcases present with sender | sender
  · simp [send, sender]
  · simp [send, sender]

/-- A sender that was not sent through is dropped at return. -/
theorem leave_of_held (sender : hold.sender = some .held) : hold.leave.sender = some .dropped := by
  rw [leave, sender]
  rfl

theorem leave_of_sent (sender : hold.sender = some .sent) : hold.leave.sender = some .sent := by
  rw [leave, sender]
  rfl

end Hold

/-- The hold that `serve` has on everything it spawned. -/
abbrev Ledger := Spawned → Option Hold

section
variable [Platform] {σ α : Type}

/-- What an event spawns. -/
def RuntimeEvent.spawns : RuntimeEvent σ α → Option Spawned
  | .samplerSpawned _ => some .sampler
  | .httpSpawned _ => some (.task .http)
  | .grpcSpawned _ => some (.task .grpc)
  | .metricsSpawned _ => some (.task .metrics)
  | .schedulerSpawned => some (.task .scheduler)
  | .tracingInitialised _ | .managerStarted _ | .signalled | .managerShutDown _ | .stopSent _
  | .joined _ => none

namespace Ledger

/-- Hold what was spawned. -/
def spawn (ledger : Ledger) (x : Spawned) : Ledger :=
  Function.update ledger x (some (.ofSpawned x))

/-- Send to the stop channel of a task. -/
def send (ledger : Ledger) (task : Task) : Ledger :=
  Function.update ledger (.task task) ((ledger (.task task)).map .send)

/-- The ledger after one more event. -/
def after (ledger : Ledger) (event : RuntimeEvent σ α) : Ledger :=
  match event with
  | .stopSent task => ledger.send task
  | event => (event.spawns.map ledger.spawn).getD ledger

/-- The ledger of a run. -/
def ofEvents (events : List (RuntimeEvent σ α)) : Ledger := events.foldl after fun _ => none

/-- The ledger when `serve` has returned. -/
def atReturn (events : List (RuntimeEvent σ α)) : Ledger := fun x => (ofEvents events x).map .leave

end Ledger

/-- Whatever was spawned has had its stop condition raised at return. -/
def LeavesNothing (events : List (RuntimeEvent σ α)) : Prop :=
  ∀ x hold, Ledger.atReturn events x = some hold → hold.StopRaised

/-- The manager was started. -/
def ManagerStarts (events : List (RuntimeEvent σ α)) : Prop :=
  ∃ result, .managerStarted result ∈ events

/-- The configuration asks for metrics, and `serve` comes as far as to record them. -/
def RuntimeBuilder.StartsSampler (host : Host σ α) (self : RuntimeBuilder σ α) : Prop :=
  ∃ config, self.resolveConfig host = .ok config ∧ config.metrics ≠ none ∧
    ¬ (self.httpBearerVerifier = none ∧ VerifierFails host config) ∧
    ¬ self.MetricsFails host config

variable {ledger : Ledger} {event : RuntimeEvent σ α} {events : List (RuntimeEvent σ α)}

/-- A hold is what was taken on a task or on the sampler, and on a task it has its
sender. -/
structure Ledger.Sound (ledger : Ledger) : Prop where
  task : ∀ task hold, ledger (.task task) = some hold →
    hold.sender = some .held ∨ hold.sender = some .sent
  sampler : ∀ hold, ledger .sampler = some hold → hold = .ofSpawned .sampler

omit [Platform] in
theorem Ledger.Sound.spawn (sound : ledger.Sound) (x : Spawned) : (ledger.spawn x).Sound := by
  constructor
  · intro task hold held
    by_cases new : Spawned.task task = x
    · rw [Ledger.spawn, ← new, Function.update_self] at held
      cases held
      exact .inl rfl
    · rw [Ledger.spawn, Function.update_of_ne new] at held
      exact sound.task task hold held
  · intro hold held
    by_cases new : .sampler = x
    · rw [Ledger.spawn, ← new, Function.update_self] at held
      exact (Option.some.inj held).symm
    · rw [Ledger.spawn, Function.update_of_ne new] at held
      exact sound.sampler hold held

omit [Platform] in
theorem Ledger.Sound.send (sound : ledger.Sound) (task : Task) : (ledger.send task).Sound := by
  constructor
  · intro other hold held
    by_cases same : Spawned.task other = .task task
    · rw [Ledger.send, same, Function.update_self] at held
      obtain ⟨before, present, rfl⟩ := Option.map_eq_some_iff.mp held
      exact .inr (Hold.send_sender (sound.task task before present))
    · rw [Ledger.send, Function.update_of_ne same] at held
      exact sound.task other hold held
  · intro hold held
    rw [Ledger.send, Function.update_of_ne (by simp)] at held
    exact sound.sampler hold held

/-- What the events of each kind do to the ledger. -/
theorem Ledger.after_cases (ledger : Ledger) (event : RuntimeEvent σ α) :
    (∃ task, event = .stopSent task ∧ ledger.after event = ledger.send task) ∨
      (∃ x, event.spawns = some x ∧ ledger.after event = ledger.spawn x) ∨
      (event.spawns = none ∧ (∀ task, event ≠ .stopSent task) ∧ ledger.after event = ledger) := by
  cases event with
  | stopSent task => exact .inl ⟨task, rfl, rfl⟩
  | samplerSpawned _ | httpSpawned _ | grpcSpawned _ | metricsSpawned _ | schedulerSpawned =>
    exact .inr (.inl ⟨_, rfl, rfl⟩)
  | tracingInitialised _ | managerStarted _ | signalled | managerShutDown _ | joined _ =>
    exact .inr (.inr ⟨rfl, nofun, rfl⟩)

theorem Ledger.ofEvents_concat (events : List (RuntimeEvent σ α)) (event : RuntimeEvent σ α) :
    ofEvents (events ++ [event]) = (ofEvents events).after event :=
  List.foldl_append

theorem Ledger.sound_ofEvents (events : List (RuntimeEvent σ α)) : (ofEvents events).Sound := by
  induction events using List.reverseRecOn with
  | nil => exact ⟨nofun, nofun⟩
  | append_singleton events event ih =>
    rw [ofEvents_concat]
    rcases (ofEvents events).after_cases event with ⟨task, _, same⟩ | ⟨x, _, same⟩ | ⟨_, _, same⟩
    · rw [same]
      exact ih.send task
    · rw [same]
      exact ih.spawn x
    · rw [same]
      exact ih

/-- The ledger has what was spawned. -/
theorem Ledger.ofEvents_ne_none {x : Spawned} :
    ofEvents events x ≠ none ↔ ∃ event ∈ events, event.spawns = some x := by
  induction events using List.reverseRecOn with
  | nil => simp [ofEvents]
  | append_singleton events event ih =>
    simp only [List.mem_append, List.mem_singleton, or_and_right, exists_or, exists_eq_left, ← ih]
    rw [ofEvents_concat]
    rcases (ofEvents events).after_cases event with
      ⟨task, rfl, same⟩ | ⟨y, spawns, same⟩ | ⟨spawns, _, same⟩
    · rw [same, send]
      by_cases sent : x = .task task
      · rw [sent, Function.update_self]
        simp [RuntimeEvent.spawns]
      · rw [Function.update_of_ne sent]
        simp [RuntimeEvent.spawns]
    · rw [same, spawns]
      by_cases new : x = y
      · simp [new, spawn]
      · simp [spawn, Function.update_of_ne new, Ne.symm new]
    · rw [same, spawns]
      simp

/-- Nothing is left running exactly when no sampler was spawned. -/
theorem leavesNothing_iff :
    LeavesNothing events ↔ ∀ event ∈ events, event.spawns ≠ some .sampler := by
  have sound := Ledger.sound_ofEvents events
  have spawned : Ledger.ofEvents events .sampler ≠ none ↔ _ := Ledger.ofEvents_ne_none
  constructor
  · intro nothing event emitted spawns
    obtain ⟨hold, held⟩ := Option.ne_none_iff_exists'.mp (spawned.mpr ⟨event, emitted, spawns⟩)
    cases sound.sampler hold held
    have raised := nothing .sampler (Hold.ofSpawned .sampler).leave (by
      rw [Ledger.atReturn, held]
      rfl)
    simp [Hold.StopRaised, Hold.leave, Hold.ofSpawned] at raised
  · intro none x left returned
    obtain ⟨hold, held, rfl⟩ := Option.map_eq_some_iff.mp returned
    cases x with
    | sampler =>
      obtain ⟨event, emitted, spawns⟩ := spawned.mp (by rw [held]; exact Option.some_ne_none _)
      exact absurd spawns (none event emitted)
    | task task =>
      rcases sound.task task hold held with sender | sender
      · exact .inr (.inl (Hold.leave_of_held sender))
      · exact .inl (Hold.leave_of_sent sender)

/-- The sender of a task that is sent nothing is still held. -/
theorem Ledger.held_of_unsent {task : Task} {hold : Hold} (unsent : .stopSent task ∉ events)
    (held : ofEvents events (.task task) = some hold) : hold.sender = some .held := by
  induction events using List.reverseRecOn with
  | nil => cases held
  | append_singleton events event ih =>
    rw [List.mem_append, List.mem_singleton, not_or] at unsent
    rw [ofEvents_concat] at held
    rcases (ofEvents events).after_cases event with
      ⟨other, rfl, same⟩ | ⟨x, _, same⟩ | ⟨_, _, same⟩
    · have ne : Spawned.task task ≠ .task other := by
        rintro ⟨⟩
        exact unsent.2 rfl
      rw [same, send, Function.update_of_ne ne] at held
      exact ih unsent.1 held
    · rw [same] at held
      by_cases new : .task task = x
      · rw [spawn, ← new, Function.update_self] at held
        cases held
        rfl
      · rw [spawn, Function.update_of_ne new] at held
        exact ih unsent.1 held
    · rw [same] at held
      exact ih unsent.1 held

/-- The sender of a task that is told to stop after all spawns is sent through. -/
theorem Ledger.sent_of_stopped {later : List (RuntimeEvent σ α)} {task : Task} {hold : Hold}
    (quiet : ∀ event ∈ later, event.spawns = none) (stopped : .stopSent task ∈ later)
    (held : ofEvents (events ++ later) (.task task) = some hold) : hold.sender = some .sent := by
  induction later using List.reverseRecOn with
  | nil => cases stopped
  | append_singleton later event ih =>
    rw [← List.append_assoc, ofEvents_concat] at held
    have sound := sound_ofEvents (events ++ later)
    by_cases now : event = .stopSent task
    · have sends : ((ofEvents (events ++ later)).send task) (.task task) = some hold := by
        rw [now] at held
        exact held
      rw [send, Function.update_self] at sends
      obtain ⟨before, present, rfl⟩ := Option.map_eq_some_iff.mp sends
      exact Hold.send_sender (sound.task task before present)
    · have earlier : .stopSent task ∈ later := by
        rcases List.mem_append.mp stopped with earlier | last
        · exact earlier
        · exact absurd (List.mem_singleton.mp last).symm now
      have goes := ih (fun event member => quiet event (List.mem_append_left _ member)) earlier
      rcases (ofEvents (events ++ later)).after_cases event with
        ⟨other, rfl, same⟩ | ⟨x, spawns, _⟩ | ⟨_, _, same⟩
      · have ne : Spawned.task task ≠ .task other := by
          rintro ⟨⟩
          exact now rfl
        rw [same, send, Function.update_of_ne ne] at held
        exact goes held
      · have none := quiet event (by simp)
        rw [none] at spawns
        cases spawns
      · rw [same] at held
        exact goes held

theorem RuntimeEvent.SetsUp.spawns {event : RuntimeEvent σ α} (setsUp : event.SetsUp) :
    ∀ task, event.spawns ≠ some (.task task) := by
  cases event with
  | tracingInitialised _ | samplerSpawned _ => simp [RuntimeEvent.spawns]
  | httpSpawned _ | grpcSpawned _ | metricsSpawned _ | schedulerSpawned | managerStarted _
  | signalled | managerShutDown _ | stopSent _ | joined _ => exact setsUp.elim

theorem RuntimeEvent.Supervises.spawns {event : RuntimeEvent σ α} (supervises : event.Supervises) :
    event.spawns = none := by
  cases event with
  | managerStarted _ | signalled | managerShutDown _ | stopSent _ | joined _ => rfl
  | tracingInitialised _ | samplerSpawned _ | httpSpawned _ | grpcSpawned _ | metricsSpawned _
  | schedulerSpawned => exact supervises.elim

section Serving
variable {host : Host σ α} {self : RuntimeBuilder σ α} {a : RuntimeBuilder.Assembly σ α}

/-- `assemble` spawns the sampler exactly when it comes as far. -/
theorem RuntimeBuilder.sampler_mem_assemble :
    (∃ policy, .samplerSpawned policy ∈ (self.assemble host).events) ↔ self.StartsSampler host := by
  constructor
  · rintro ⟨policy, emitted⟩
    unfold assemble at emitted
    rcases Effects.mem_events_bind.mp emitted with early | ⟨config, resolved, emitted⟩
    · cases early
    rcases Effects.mem_events_bind.mp emitted with tracing | ⟨_, _, emitted⟩
    · simp at tracing
    rcases Effects.mem_events_bind.mp emitted with early | ⟨verifier, verified, emitted⟩
    · cases early
    rcases Effects.mem_events_bind.mp emitted with early | ⟨metrics, built, emitted⟩
    · cases early
    have provided : metrics.isSome = true := by
      rcases Effects.mem_events_bind.mp emitted with sampler | ⟨_, _, late⟩
      · cases metrics with
        | none => cases sampler
        | some _ => rfl
      · refine absurd trivial ((?_ : Effects.Avoids _ fun _ => True) _ late)
        refine .bind (by simp) fun observer _ => .bind (by simp) fun _ _ => ?_
        refine .bind (by simp) fun http _ => .bind (by simp) fun grpc _ => ?_
        exact .bind (by simp) fun intrusion _ => by simp
    refine ⟨config, resolved, ?_, (self.resolveVerifier_exactly host config).iff_succeeded.mp
      ⟨verifier, verified⟩, (self.resolveMetrics_exactly host config).iff_succeeded.mp
      ⟨metrics, built⟩⟩
    rw [← Option.isSome_iff_ne_none, ← resolveMetrics_isSome built, provided]
  · rintro ⟨config, resolved, scraped, verifies, records⟩
    obtain ⟨verifier, verified⟩ := (self.resolveVerifier_exactly host config).iff_succeeded.mpr verifies
    obtain ⟨metrics, built⟩ := (self.resolveMetrics_exactly host config).iff_succeeded.mpr records
    obtain ⟨provider, rfl⟩ := Option.isSome_iff_exists.mp
      ((resolveMetrics_isSome built).trans (Option.isSome_iff_ne_none.mpr scraped))
    refine ⟨config.autoscale, ?_⟩
    unfold assemble
    refine Effects.mem_events_bind.mpr (.inr ⟨config, resolved, ?_⟩)
    refine Effects.mem_events_bind.mpr (.inr ⟨(), rfl, ?_⟩)
    refine Effects.mem_events_bind.mpr (.inr ⟨verifier, verified, ?_⟩)
    refine Effects.mem_events_bind.mpr (.inr ⟨some provider, built, ?_⟩)
    exact Effects.mem_events_bind.mpr (.inl (.head _))

variable [Clock α]

/-- Only the assembly spawns a sampler. -/
theorem RuntimeBuilder.sampler_mem_serve :
    (∃ event ∈ (self.serve host).events, event.spawns = some .sampler) ↔
      self.StartsSampler host := by
  rw [← sampler_mem_assemble]
  constructor
  · rintro ⟨event, emitted, spawns⟩
    have sampler : ∃ policy, event = .samplerSpawned policy := by
      cases event with
      | samplerSpawned policy => exact ⟨policy, rfl⟩
      | tracingInitialised _ | httpSpawned _ | grpcSpawned _ | metricsSpawned _ | schedulerSpawned
      | managerStarted _ | signalled | managerShutDown _ | stopSent _ | joined _ => cases spawns
    obtain ⟨policy, rfl⟩ := sampler
    unfold serve at emitted
    rcases Effects.mem_events_bind.mp emitted with early | ⟨a, _, emitted⟩
    · exact ⟨policy, early⟩
    rcases Effects.mem_events_bind.mp emitted with spawned | ⟨_, _, late⟩
    · exact absurd id (spawnServers_spawns _ spawned)
    · exact absurd (by simp [RuntimeEvent.Supervises]) (supervise_supervises a _ late)
  · rintro ⟨policy, emitted⟩
    exact ⟨_, Effects.mem_events_bind.mpr (.inl emitted), rfl⟩

/-- A task that is spawned is stopped at the end. -/
theorem RuntimeBuilder.stopped_at_end {task : Task} {event : RuntimeEvent σ α}
    (emitted : event ∈ (spawnServers (a.ingress.http.map (self.httpServer a))
        (a.ingress.grpc.map (self.grpcServer host a)) (metricsServer a)).events ∨
      self.hasScheduler host = true ∧ event = .schedulerSpawned)
    (spawns : event.spawns = some (.task task)) : .stopSent task ∈ self.endEvents host a := by
  unfold endEvents
  rcases emitted with server | ⟨scheduled, rfl⟩
  · rcases mem_spawnServers server with ⟨_, _, rfl⟩ | ⟨_, _, rfl⟩ | ⟨_, served, rfl⟩
    · cases spawns
      simp
    · cases spawns
      simp
    · cases spawns
      simp [served]
  · cases spawns
    simp [scheduled]

omit [Clock α] in
theorem RuntimeBuilder.endEvents_supervises :
    ∀ event ∈ self.endEvents host a, event.Supervises := by
  intro event emitted
  unfold endEvents at emitted
  simp only [List.mem_append, List.mem_map] at emitted
  rcases emitted with ⟨_, _, rfl⟩ | ⟨_, _, rfl⟩ | scheduler
  · trivial
  · trivial
  · split at scheduler
    · simp only [List.mem_cons, List.not_mem_nil, or_false] at scheduler
      rcases scheduler with rfl | rfl
      · trivial
      · trivial
    · cases scheduler

/-- Everything before the manager is started: the assembly and the servers. -/
theorem RuntimeBuilder.unsupervised {event : RuntimeEvent σ α}
    (emitted : event ∈ (self.assemble host).events ++
      (spawnServers (a.ingress.http.map (self.httpServer a))
        (a.ingress.grpc.map (self.grpcServer host a)) (metricsServer a)).events) :
    ¬ event.Supervises := by
  rcases List.mem_append.mp emitted with early | spawned
  · have setsUp := not_not.mp (assemble_setsUp event early)
    exact setsUp.not_supervises
  · have spawns := not_not.mp (spawnServers_spawns event spawned)
    exact spawns.not_supervises

/-- What `serve` emits up to its end, when it comes to its end. -/
def RuntimeBuilder.beforeEnd (host : Host σ α) (self : RuntimeBuilder σ α) (a : Assembly σ α) :
    List (RuntimeEvent σ α) :=
  (self.assemble host).events ++
    ((spawnServers (a.ingress.http.map (self.httpServer a))
        (a.ingress.grpc.map (self.grpcServer host a)) (metricsServer a)).events ++
      ((if self.hasScheduler host then [.schedulerSpawned] else []) ++
        (DaemonRunner.runUntilSignal host (self.manager host a)
          a.config.shutdownTimeoutSecs).events))

theorem RuntimeBuilder.managerStarts_beforeEnd : ManagerStarts (self.beforeEnd host a) := by
  refine ⟨((self.manager host a).start host.startedAt).1, ?_⟩
  simp [beforeEnd, DaemonRunner.runUntilSignal]

/-- A task is stopped at the end whenever it is spawned before. -/
theorem RuntimeBuilder.spawned_before_end {task : Task} {event : RuntimeEvent σ α}
    (emitted : event ∈ self.beforeEnd host a) (spawns : event.spawns = some (.task task)) :
    .stopSent task ∈ self.endEvents host a := by
  simp only [beforeEnd, List.mem_append] at emitted
  rcases emitted with early | server | scheduler | supervised
  · have setsUp := not_not.mp (assemble_setsUp event early)
    exact absurd spawns (setsUp.spawns task)
  · exact stopped_at_end (.inl server) spawns
  · cases scheduled : self.hasScheduler host with
    | false => simp [scheduled] at scheduler
    | true =>
      rw [scheduled] at scheduler
      exact stopped_at_end (.inr ⟨scheduled, List.mem_singleton.mp scheduler⟩) spawns
  · have supervises := not_not.mp (runUntilSignal_supervises host _ _ event supervised)
    rw [supervises.spawns] at spawns
    cases spawns

/-- The ways out of `serve`: before it starts the manager, or through its end. -/
theorem RuntimeBuilder.serve_ends (host : Host σ α) (self : RuntimeBuilder σ α) :
    (∀ event ∈ (self.serve host).events, ¬ event.Supervises) ∨
      ∃ a, (self.serve host).events = self.beforeEnd host a ++ self.endEvents host a := by
  cases assembled : (self.assemble host).result with
  | error e =>
    have events : (self.serve host).events = _ := (Effects.bind_of_error assembled).1
    rw [events]
    refine .inl fun event emitted => ?_
    have setsUp := not_not.mp (assemble_setsUp event emitted)
    exact setsUp.not_supervises
  | ok a =>
    have events : (self.serve host).events = (self.assemble host).events ++ _ :=
      (Effects.bind_of_ok assembled).1
    rw [events]
    cases spawned : (spawnServers (a.ingress.http.map (self.httpServer a))
        (a.ingress.grpc.map (self.grpcServer host a)) (metricsServer a)).result with
    | error e =>
      rw [(Effects.bind_of_error spawned).1]
      exact .inl fun event => unsupervised
    | ok _ =>
      rw [(Effects.bind_of_ok spawned).1, events_supervise]
      by_cases refused : self.hasScheduler host = true ∧ host.spawnSchedulerThread.isOk = false
      · rw [if_pos refused, List.append_nil]
        exact .inl fun event => unsupervised
      · rw [if_neg refused]
        refine .inr ⟨a, ?_⟩
        simp only [beforeEnd, List.append_assoc]

/-- Everything that `serve` spawned has had its stop condition raised at return exactly
when no sampler was started. To each task it has sent, if it came to start the manager,
and otherwise the sender was dropped on the way out. -/
theorem RuntimeBuilder.leaves_nothing_iff (host : Host σ α) (self : RuntimeBuilder σ α) :
    (LeavesNothing (self.serve host).events ↔ ¬ self.StartsSampler host) ∧
      ∀ task hold, Ledger.atReturn (self.serve host).events (.task task) = some hold →
        (ManagerStarts (self.serve host).events → hold.sender = some .sent) ∧
        (¬ ManagerStarts (self.serve host).events → hold.sender = some .dropped) := by
  constructor
  · rw [leavesNothing_iff, ← sampler_mem_serve]
    simp only [not_exists, not_and]
  · intro task left returned
    obtain ⟨hold, held, rfl⟩ := Option.map_eq_some_iff.mp returned
    rcases serve_ends host self with quiet | ⟨a, events⟩
    · have unsent : .stopSent task ∉ (self.serve host).events :=
        fun emitted => quiet _ emitted trivial
      refine ⟨?_, fun _ => Hold.leave_of_held (Ledger.held_of_unsent unsent held)⟩
      rintro ⟨result, emitted⟩
      exact absurd trivial (quiet _ emitted)
    · rw [events] at held ⊢
      have none : ∀ event ∈ self.endEvents host a, event.spawns = none :=
        fun event emitted => (endEvents_supervises event emitted).spawns
      have stopped : .stopSent task ∈ self.endEvents host a := by
        obtain ⟨event, emitted, spawns⟩ := Ledger.ofEvents_ne_none.mp (by
          rw [held]
          exact Option.some_ne_none hold)
        rcases List.mem_append.mp emitted with early | late
        · exact spawned_before_end early spawns
        · rw [none event late] at spawns
          cases spawns
      refine ⟨fun _ => Hold.leave_of_sent (Ledger.sent_of_stopped none stopped held), ?_⟩
      obtain ⟨result, started⟩ : ManagerStarts (self.beforeEnd host a) := managerStarts_beforeEnd
      intro unstarted
      exact absurd ⟨result, List.mem_append_left _ started⟩ unstarted

end Serving

end

section
attribute [local instance] Platform.reference

/-- An HTTP application with metrics: its server is told to stop, and when `serve` has
returned the sampler goes on. -/
theorem sampler_outlives_serve :
    let builder : RuntimeBuilder Unit Unit :=
      { config := some { RuntimeConfig.default with metrics := some {} }, httpHandler := some .empty }
    ((builder.serve .obliging).result = .ok ()) ∧
      Ledger.atReturn (builder.serve .obliging).events (.task .http) = some ⟨some .sent, false⟩ ∧
      Ledger.atReturn (builder.serve .obliging).events .sampler = some ⟨none, false⟩ ∧
      ¬ LeavesNothing (builder.serve .obliging).events := by
  refine ⟨rfl, rfl, rfl, fun nothing => ?_⟩
  have raised := nothing .sampler ⟨none, false⟩ rfl
  simp [Hold.StopRaised] at raised

end

end EdgeBootstrap
