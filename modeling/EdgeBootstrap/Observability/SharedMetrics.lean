import Mathlib.Algebra.Order.BigOperators.Group.List
import EdgeBootstrap.Monitor.Ticks

/-! The metrics that handlers record through their observer. `serve` gives the bridge
the provider that the load monitor records into, so there is one stream of records: the
monitor's and the handlers', in the order in which they reach the provider. Names are
not kept apart. -/
namespace EdgeBootstrap

/-- A call of the metrics provider; only the bridge records in histograms. -/
inductive StreamRecord
  | counter (name : String) (value : Rat) (labels : List (String × String))
  | gauge (name : String) (value : Rat) (labels : List (String × String))
  | histogram (name : String) (value : Rat) (labels : List (String × String))
  deriving DecidableEq, Repr

/-- A record of the load monitor as the shared provider has it. -/
def MetricRecord.shared : MetricRecord → StreamRecord
  | .counter name value labels => .counter name value labels
  | .gauge name value labels => .gauge name value labels

structure MetricsBridgeCounter where
  name : String
  deriving DecidableEq, Repr

structure MetricsBridgeGauge where
  name : String
  deriving DecidableEq, Repr

structure MetricsBridgeHistogram where
  name : String
  deriving DecidableEq, Repr

/-- `MetricsBridgeRegistry`: each lookup makes a new instrument over the one backend. -/
def MetricsBridgeRegistry.counter (name : String) : MetricsBridgeCounter := ⟨name⟩

def MetricsBridgeRegistry.gauge (name : String) : MetricsBridgeGauge := ⟨name⟩

def MetricsBridgeRegistry.histogram (name : String) : MetricsBridgeHistogram := ⟨name⟩

def MetricsBridgeCounter.increment (self : MetricsBridgeCounter) (delta : UInt64) : StreamRecord :=
  .counter self.name (Double.nearest delta.toNat) []

def MetricsBridgeGauge.set (self : MetricsBridgeGauge) (value : Rat) : StreamRecord :=
  .gauge self.name value []

def MetricsBridgeHistogram.record (self : MetricsBridgeHistogram) (value : Rat) : StreamRecord :=
  .histogram self.name value []

namespace SharedMetrics
open StepMachine

/-- The load monitor with its part of the stream, and the stream. -/
structure State where
  monitor : Ticks.State
  stream : List StreamRecord

/-- A step of the load monitor, or a call of an instrument by a handler. -/
inductive Action
  | monitor (a : Ticks.Action)
  | increment (counter : MetricsBridgeCounter) (delta : UInt64)
  | set (gauge : MetricsBridgeGauge) (value : Rat)
  | record (histogram : MetricsBridgeHistogram) (value : Rat)
  deriving DecidableEq

/-- What a step of the monitor adds to its part of the stream. -/
def added (before after : Ticks.State) : List StreamRecord :=
  (after.counters.provider.drop before.counters.provider.length).map MetricRecord.shared

def step (s : State) : Action → Option State
  | .monitor a => (Ticks.step s.monitor a).map fun after => ⟨after, s.stream ++ added s.monitor after⟩
  | .increment counter delta => some { s with stream := s.stream ++ [counter.increment delta] }
  | .set gauge value => some { s with stream := s.stream ++ [gauge.set value] }
  | .record histogram value => some { s with stream := s.stream ++ [histogram.record value] }

/-- A provider without records, and new counters. -/
def machine : StepMachine State Action where
  init := ⟨Ticks.machine.init, []⟩
  step := step

namespace Action

/-- The step of the monitor. -/
def monitor? : Action → Option Ticks.Action
  | .monitor a => some a
  | _ => none

/-- What a handler records. -/
def handled : Action → Option StreamRecord
  | .monitor _ => none
  | .increment counter delta => some (counter.increment delta)
  | .set gauge value => some (gauge.set value)
  | .record histogram value => some (histogram.record value)

/-- What a handler adds to a counter. -/
def increments (name : String) : Action → Option UInt64
  | .increment counter delta => if counter.name = name then some delta else none
  | _ => none

end Action

/-- What a counter comes to. -/
def total (name : String) (stream : List StreamRecord) : Rat :=
  (stream.map fun
    | .counter n value _ => if n = name then value else 0
    | _ => 0).sum

variable {s s' : State} {a : Action} {history : List Action} {name : String}

/-- The monitor only ever adds to its records. -/
theorem provider_grows {m m' : Ticks.State} {b : Ticks.Action} (stepped : Ticks.step m b = some m') :
    ∃ new, m'.counters.provider = m.counters.provider ++ new := by
  cases b with
  | onStart | onEnd latencyUs isError | tick =>
    cases stepped
    exact ⟨[], (List.append_nil _).symm⟩
  | ending i =>
    obtain ⟨⟨e', c'⟩, ran, rfl⟩ := Option.map_eq_some_iff.mp stepped
    obtain ⟨⟨latencyUs, isError, phase, fits⟩, _, next⟩ := Option.bind_eq_some_iff.mp ran
    cases phase with
    | returned => cases next
    | called | left | failureTotalled =>
      cases next
      exact ⟨[], (List.append_nil _).symm⟩
    | counted | failed =>
      cases next
      exact ⟨_, rfl⟩
    | totalled => cases isError <;> cases next <;> exact ⟨[], (List.append_nil _).symm⟩
  | ticking j =>
    obtain ⟨⟨t', c'⟩, ran, rfl⟩ := Option.map_eq_some_iff.mp stepped
    obtain ⟨t, _, next⟩ := Option.bind_eq_some_iff.mp ran
    cases t with
    | ended => cases next
    | begun | loaded _ | requestsTaken _ _ | errorsTaken _ _ _ =>
      cases next
      exact ⟨[], (List.append_nil _).symm⟩
    | sampled _ _ _ _ | activeRecorded _ _ _ | requestsRecorded _ _ | errorsRecorded _ =>
      cases next
      exact ⟨_, rfl⟩

/-- What a step adds to the monitor's part is what it adds to the stream. -/
theorem added_spec {m m' : Ticks.State} {b : Ticks.Action} (stepped : Ticks.step m b = some m') :
    m'.counters.provider.map MetricRecord.shared =
      m.counters.provider.map MetricRecord.shared ++ added m m' := by
  obtain ⟨new, grown⟩ := provider_grows stepped
  simp [added, grown]

/-- The stream is made of the monitor's records and the handlers', each in their order. -/
structure OneStream (history : List Action) (s : State) : Prop where
  monitor : (s.monitor.counters.provider.map MetricRecord.shared).Sublist s.stream
  handlers : (history.filterMap Action.handled).Sublist s.stream
  nothing_else : s.stream.Perm
    (s.monitor.counters.provider.map MetricRecord.shared ++ history.filterMap Action.handled)

/-- A record of a handler goes to the stream, and the monitor does not see it. -/
theorem OneStream.handle {r : StreamRecord} (one : OneStream history s) (handled : a.handled = some r) :
    OneStream (history ++ [a]) { s with stream := s.stream ++ [r] } where
  monitor := one.monitor.trans (List.sublist_append_left _ _)
  handlers := by simpa [handled] using one.handlers.append (List.Sublist.refl [r])
  nothing_else := by simpa [handled] using one.nothing_else.append_right [r]

theorem OneStream.step (one : OneStream history s) (stepped : step s a = some s') :
    OneStream (history ++ [a]) s' := by
  cases a with
  | monitor b =>
    obtain ⟨m, ran, rfl⟩ := Option.map_eq_some_iff.mp stepped
    have grown := added_spec ran
    have same : (history ++ [Action.monitor b]).filterMap Action.handled = history.filterMap Action.handled := by
      simp [Action.handled]
    constructor
    · rw [grown]
      exact one.monitor.append (List.Sublist.refl _)
    · rw [same]
      exact one.handlers.trans (List.sublist_append_left _ _)
    · rw [same, grown, List.append_assoc]
      refine (one.nothing_else.append_right _).trans ?_
      rw [List.append_assoc]
      exact List.perm_append_comm.append_left _
  | increment counter delta | set gauge value | record histogram value =>
    cases stepped
    exact one.handle rfl

/-- The monitor runs as it would without handlers. -/
theorem monitor_of_exec (ran : machine.exec history = some s) :
    Ticks.machine.exec (history.filterMap Action.monitor?) = some s.monitor := by
  refine run_induction (P := fun history s =>
    Ticks.machine.exec (history.filterMap Action.monitor?) = some s.monitor) rfl ?_ ran
  intro history s a s' _ runs stepped
  cases a with
  | monitor b =>
    obtain ⟨m, moved, rfl⟩ := Option.map_eq_some_iff.mp stepped
    rw [List.filterMap_append]
    exact exec_snoc.mpr ⟨_, runs, moved⟩
  | increment counter delta | set gauge value | record histogram value =>
    cases stepped
    simpa [Action.monitor?, List.filterMap_cons] using runs

theorem oneStream_of_exec (ran : machine.exec history = some s) : OneStream history s := by
  refine run_induction (P := OneStream) ⟨?_, ?_, ?_⟩
    (fun _ _ _ _ _ one stepped => one.step stepped) ran <;> simp [machine, Ticks.machine, TrafficCounters.new]

@[simp] theorem total_append (xs ys : List StreamRecord) :
    total name (xs ++ ys) = total name xs + total name ys := by
  simp [total]

theorem total_of_perm {xs ys : List StreamRecord} (perm : xs.Perm ys) :
    total name xs = total name ys := (perm.map _).sum_eq

/-- The monitor's part of a counter. -/
theorem total_shared (records : List MetricRecord) :
    total name (records.map MetricRecord.shared) = Ticks.counterSum name records := by
  unfold total Ticks.counterSum
  rw [List.map_map]
  congr 1
  refine List.map_congr_left fun r _ => ?_
  cases r <;> rfl

/-- The handlers' part of a counter. -/
theorem total_handled (history : List Action) :
    total name (history.filterMap Action.handled) =
      ((history.filterMap (Action.increments name)).map fun delta => Double.nearest delta.toNat).sum := by
  induction history with
  | nil => rfl
  | cons a history ih =>
    cases a with
    | monitor b => simpa [List.filterMap_cons, Action.handled, Action.increments] using ih
    | set gauge value | record histogram value =>
      simpa [List.filterMap_cons, Action.handled, Action.increments, total, MetricsBridgeGauge.set,
        MetricsBridgeHistogram.record] using ih
    | increment counter delta =>
      by_cases same : counter.name = name
      · simpa [List.filterMap_cons, Action.handled, Action.increments, total, MetricsBridgeCounter.increment, same] using ih
      · simpa [List.filterMap_cons, Action.handled, Action.increments, total, MetricsBridgeCounter.increment, same] using ih

/-- The requests of a kind that have ended. -/
def ended (m : Ticks.State) : Ticks.Kind → Nat
  | .requests => m.endings.length
  | .errors => m.endings.countP (·.isError)

/-- A call that has returned is recorded in the counters it belongs in. -/
theorem totalled_eq_ended {m : Ticks.State} (returned : ∀ e ∈ m.endings, e.phase = .returned)
    (kind : Ticks.Kind) : m.endings.countP kind.totalled = ended m kind := by
  cases kind with
  | requests =>
    refine List.countP_eq_length.mpr fun e member => ?_
    simp [Ticks.Kind.totalled, returned e member]
  | errors =>
    refine List.countP_congr fun e member => ?_
    simp [Ticks.Kind.totalled, returned e member]

/-- No sum of increments hides one that is not zero. -/
theorem increments_sum_eq_zero_iff (deltas : List UInt64) :
    (deltas.map fun delta => Double.nearest delta.toNat).sum = 0 ↔ ∀ delta ∈ deltas, delta = 0 := by
  constructor
  · intro nothing delta member
    have nonneg : ∀ x ∈ deltas.map fun delta => Double.nearest delta.toNat, 0 ≤ x := by
      intro x held
      obtain ⟨d, _, rfl⟩ := List.mem_map.mp held
      simpa [Double.nearest] using Double.nearest_mono le_rfl (Nat.cast_nonneg (α := ℚ) d.toNat)
    have zero : Double.nearest delta.toNat = 0 :=
      List.all_zero_of_le_zero_le_of_sum_eq_zero nonneg nothing (List.mem_map_of_mem member)
    by_contra other
    have positive : 0 < delta.toNat := by
      rw [Nat.pos_iff_ne_zero, ← UInt64.toNat_zero]
      exact fun same => other (UInt64.toNat_inj.mp same)
    exact (Double.nearest_pos (Nat.cast_pos.mpr positive)).ne' zero
  · intro zero
    refine List.sum_eq_zero fun x held => ?_
    obtain ⟨delta, member, rfl⟩ := List.mem_map.mp held
    rw [zero delta member]
    rfl

/-- Handlers and the load monitor record in one stream, which has the records of each in
their order and no others, and the handlers do not disturb the monitor. A counter comes to
what both have added to it. So with every ended request recorded, the total of the
requests, or of the errors, is their number exactly when no handler has added anything to
a counter of that name. -/
theorem stream_is_shared (history : List Action) (s : State) (ran : machine.exec history = some s) :
    Ticks.machine.exec (history.filterMap Action.monitor?) = some s.monitor ∧ OneStream history s ∧
      ((∀ e ∈ s.monitor.endings, e.phase = .returned) → s.monitor.endings.length < 2 ^ 53 →
        ∀ kind, total kind.counter s.stream = ended s.monitor kind ↔
          ∀ delta ∈ history.filterMap (Action.increments kind.counter), delta = 0) := by
  have monitor := monitor_of_exec ran
  have one := oneStream_of_exec ran
  refine ⟨monitor, one, fun returned few kind => ?_⟩
  have books := Ticks.ledger kind monitor few
  have sum : total kind.counter s.stream = (ended s.monitor kind : ℚ) +
      ((history.filterMap (Action.increments kind.counter)).map
        fun delta => Double.nearest delta.toNat).sum := by
    rw [total_of_perm one.nothing_else, total_append, total_shared, total_handled, books.totalled,
      totalled_eq_ended returned]
  rw [sum, add_eq_left, increments_sum_eq_zero_iff]

/-- A handler that counts under a name of its own and under the monitor's. -/
theorem stream_is_shared_taken_name :
    let own := MetricsBridgeRegistry.counter "orders_total"
    let taken := MetricsBridgeRegistry.counter "edge_requests_total"
    let history : List Action :=
      [.monitor .onStart, .increment own 2, .monitor (.onEnd 900 false), .monitor (.ending 0),
        .monitor (.ending 0), .increment taken 1, .monitor (.ending 0), .monitor (.ending 0)]
    ∃ s, machine.exec history = some s ∧ (∀ e ∈ s.monitor.endings, e.phase = .returned) ∧
      s.monitor.endings.length < 2 ^ 53 ∧
      Ticks.machine.exec (history.filterMap Action.monitor?) = some s.monitor ∧ OneStream history s ∧
        ((∀ e ∈ s.monitor.endings, e.phase = .returned) → s.monitor.endings.length < 2 ^ 53 →
          ∀ kind, total kind.counter s.stream = ended s.monitor kind ↔
            ∀ delta ∈ history.filterMap (Action.increments kind.counter), delta = 0) := by
  intro own taken history
  refine ⟨_, rfl, fun e member => ?_, by decide, stream_is_shared history _ rfl⟩
  cases List.mem_singleton.mp member
  rfl

end SharedMetrics

end EdgeBootstrap
