import EdgeBootstrap.Library.StepMachine
import EdgeBootstrap.Library.Tallies
import EdgeBootstrap.Monitor.TrafficCounters
import Mathlib.Algebra.Order.Ring.Rat

/-! Requests that end while the background sampler ticks. Each atomic of the
counters, the provider and the ring's lock is taken on its own, so `on_end` and a
tick are sequences of small steps with anything of the others between them. What
is conserved is the number of ended requests: each is in the atomic, in a tick
that took it and has not recorded it, or in a gauge. -/
namespace EdgeBootstrap

/-- One round of `BackgroundSampler::run`. -/
def BackgroundSampler.round (c : TrafficCounters) : TrafficCounters :=
  let active := Double.nearest c.requestsInFlight.toInt
  let rps := Double.nearest c.requestsSinceTick.toNat
  let eps := Double.nearest c.errorsSinceTick.toNat
  let p99 := c.latencyRing.p99Ms
  { c with
    requestsSinceTick := 0
    errorsSinceTick := 0
    provider := c.provider ++
      [.gauge "edge_requests_active" active [], .gauge "edge_requests_per_second" rps [],
        .gauge "edge_errors_per_second" eps [], .gauge "edge_request_latency_p99_ms" p99 []] }

namespace Ticks
open StepMachine

/-- How far a call of `on_end` has come, by the update it made last. -/
inductive EndPhase
  | called | left | counted | totalled | failed | failureTotalled | returned
  deriving DecidableEq, Repr

/-- Only a call for an error counts a failure. -/
def EndPhase.Fits (isError : Bool) : EndPhase → Prop
  | .failed | .failureTotalled => isError = true
  | _ => True

/-- A call of `on_end`. -/
structure Ending where
  latencyUs : UInt64
  isError : Bool
  phase : EndPhase
  fits : phase.Fits isError

/-- How far a tick has come, with the values it still holds. -/
inductive Tick
  | begun
  | loaded (active : Rat)
  | requestsTaken (active rps : Rat)
  | errorsTaken (active rps eps : Rat)
  | sampled (active rps eps p99 : Rat)
  | activeRecorded (rps eps p99 : Rat)
  | requestsRecorded (eps p99 : Rat)
  | errorsRecorded (p99 : Rat)
  | ended
  deriving DecidableEq, Repr

/-- `MetricsProvider::record_counter`. -/
def recordCounter (c : TrafficCounters) (name : String) (value : Rat) : TrafficCounters :=
  { c with provider := c.provider ++ [.counter name value []] }

/-- `MetricsProvider::record_gauge`. -/
def recordGauge (c : TrafficCounters) (name : String) (value : Rat) : TrafficCounters :=
  { c with provider := c.provider ++ [.gauge name value []] }

/-- The next update of `on_end`; only an error makes the two in the middle. -/
def Ending.next (e : Ending) (c : TrafficCounters) : Option (Ending × TrafficCounters) :=
  match e with
  | ⟨l, isError, .called, _⟩ =>
    some (⟨l, isError, .left, trivial⟩, { c with requestsInFlight := c.requestsInFlight - 1 })
  | ⟨l, isError, .left, _⟩ =>
    some (⟨l, isError, .counted, trivial⟩, { c with requestsSinceTick := c.requestsSinceTick + 1 })
  | ⟨l, isError, .counted, _⟩ =>
    some (⟨l, isError, .totalled, trivial⟩, recordCounter c "edge_requests_total" 1)
  | ⟨l, false, .totalled, _⟩ =>
    some (⟨l, false, .returned, trivial⟩, { c with latencyRing := c.latencyRing.push l })
  | ⟨l, true, .totalled, _⟩ =>
    some (⟨l, true, .failed, rfl⟩, { c with errorsSinceTick := c.errorsSinceTick + 1 })
  | ⟨l, isError, .failed, fits⟩ =>
    some (⟨l, isError, .failureTotalled, fits⟩, recordCounter c "edge_errors_total" 1)
  | ⟨l, isError, .failureTotalled, _⟩ =>
    some (⟨l, isError, .returned, trivial⟩, { c with latencyRing := c.latencyRing.push l })
  | ⟨_, _, .returned, _⟩ => none

/-- The next step of a tick: a load, two swaps, the lock of the ring, and four
gauges. -/
def Tick.next (t : Tick) (c : TrafficCounters) : Option (Tick × TrafficCounters) :=
  match t with
  | .begun => some (.loaded (Double.nearest c.requestsInFlight.toInt), c)
  | .loaded active =>
    some (.requestsTaken active (Double.nearest c.requestsSinceTick.toNat),
      { c with requestsSinceTick := 0 })
  | .requestsTaken active rps =>
    some (.errorsTaken active rps (Double.nearest c.errorsSinceTick.toNat),
      { c with errorsSinceTick := 0 })
  | .errorsTaken active rps eps => some (.sampled active rps eps c.latencyRing.p99Ms, c)
  | .sampled active rps eps p99 =>
    some (.activeRecorded rps eps p99, recordGauge c "edge_requests_active" active)
  | .activeRecorded rps eps p99 =>
    some (.requestsRecorded eps p99, recordGauge c "edge_requests_per_second" rps)
  | .requestsRecorded eps p99 => some (.errorsRecorded p99, recordGauge c "edge_errors_per_second" eps)
  | .errorsRecorded p99 => some (.ended, recordGauge c "edge_request_latency_p99_ms" p99)
  | .ended => none

/-- The counters, and every call of `on_end` and every tick so far. -/
structure State where
  counters : TrafficCounters
  endings : List Ending
  ticks : List Tick

inductive Action
  | onStart
  | onEnd (latencyUs : UInt64) (isError : Bool)
  | ending (i : Nat)
  | tick
  | ticking (j : Nat)
  deriving DecidableEq, Repr

def step (s : State) : Action → Option State
  | .onStart => some { s with counters := s.counters.onStart }
  | .onEnd latencyUs isError =>
    some { s with endings := s.endings ++ [⟨latencyUs, isError, .called, trivial⟩] }
  | .ending i =>
    (s.endings[i]?.bind (·.next s.counters)).map fun after =>
      { s with counters := after.2, endings := s.endings.set i after.1 }
  | .tick => some { s with ticks := s.ticks ++ [.begun] }
  | .ticking j =>
    (s.ticks[j]?.bind (·.next s.counters)).map fun after =>
      { s with counters := after.2, ticks := s.ticks.set j after.1 }

/-- New counters, no call and no tick yet. -/
def machine : StepMachine State Action where
  init := ⟨.new, [], []⟩
  step := step

/-- What is counted: all requests that end, or those that end in an error. -/
inductive Kind
  | requests | errors
  deriving DecidableEq, Repr

namespace Kind

/-- The gauge a tick records its count in. -/
def gauge : Kind → String
  | .requests => "edge_requests_per_second"
  | .errors => "edge_errors_per_second"

/-- The counter that is never reset. -/
def counter : Kind → String
  | .requests => "edge_requests_total"
  | .errors => "edge_errors_total"

/-- The atomic that a tick swaps out. -/
def sinceTick : Kind → TrafficCounters → UInt64
  | .requests, c => c.requestsSinceTick
  | .errors, c => c.errorsSinceTick

/-- The call has made its increment of the atomic. -/
def incremented : Kind → Ending → Bool
  | .requests, e => e.phase ≠ .called ∧ e.phase ≠ .left
  | .errors, e =>
    e.isError ∧ (e.phase = .failed ∨ e.phase = .failureTotalled ∨ e.phase = .returned)

/-- The call has recorded itself in the counter. -/
def totalled : Kind → Ending → Bool
  | .requests, e => e.phase ≠ .called ∧ e.phase ≠ .left ∧ e.phase ≠ .counted
  | .errors, e => e.isError ∧ (e.phase = .failureTotalled ∨ e.phase = .returned)

/-- What a tick has swapped out and not yet recorded. -/
def inTransit : Kind → Tick → Rat
  | .requests, .requestsTaken _ rps | .requests, .errorsTaken _ rps _
  | .requests, .sampled _ rps _ _ | .requests, .activeRecorded rps _ _ => rps
  | .errors, .errorsTaken _ _ eps | .errors, .sampled _ _ eps _
  | .errors, .activeRecorded _ eps _ | .errors, .requestsRecorded eps _ => eps
  | _, _ => 0

end Kind

/-- The values recorded in a gauge. -/
def gaugeSum (name : String) (records : List MetricRecord) : Rat :=
  (records.map fun
    | .gauge n value _ => if n = name then value else 0
    | .counter _ _ _ => 0).sum

/-- The values recorded in a counter. -/
def counterSum (name : String) (records : List MetricRecord) : Rat :=
  (records.map fun
    | .counter n value _ => if n = name then value else 0
    | .gauge _ _ _ => 0).sum

variable {c c' : TrafficCounters} {e e' : Ending} {t t' : Tick} {name other : String} {value : Rat}

@[simp] theorem gaugeSum_recordCounter :
    gaugeSum name (recordCounter c other value).provider = gaugeSum name c.provider := by
  simp [gaugeSum, recordCounter]

@[simp] theorem gaugeSum_recordGauge : gaugeSum name (recordGauge c other value).provider =
    gaugeSum name c.provider + if other = name then value else 0 := by
  simp [gaugeSum, recordGauge]

@[simp] theorem counterSum_recordCounter : counterSum name (recordCounter c other value).provider =
    counterSum name c.provider + if other = name then value else 0 := by
  simp [counterSum, recordCounter]

@[simp] theorem counterSum_recordGauge :
    counterSum name (recordGauge c other value).provider = counterSum name c.provider := by
  simp [counterSum, recordGauge]

@[simp] theorem sinceTick_recordCounter (kind : Kind) :
    kind.sinceTick (recordCounter c other value) = kind.sinceTick c := by
  cases kind <;> rfl

@[simp] theorem sinceTick_recordGauge (kind : Kind) :
    kind.sinceTick (recordGauge c other value) = kind.sinceTick c := by
  cases kind <;> rfl

/-- What an update of `on_end` does to the count of a kind. -/
structure Ending.Moves (kind : Kind) (e : Ending) (c : TrafficCounters) (e' : Ending)
    (c' : TrafficCounters) : Prop where
  sinceTick : (kind.sinceTick c' = kind.sinceTick c ∧ kind.incremented e' = kind.incremented e) ∨
    (kind.sinceTick c' = kind.sinceTick c + 1 ∧ kind.incremented e = false ∧
      kind.incremented e' = true)
  gauge : gaugeSum kind.gauge c'.provider = gaugeSum kind.gauge c.provider
  counter : (counterSum kind.counter c'.provider = counterSum kind.counter c.provider ∧
      kind.totalled e' = kind.totalled e) ∨
    (counterSum kind.counter c'.provider = counterSum kind.counter c.provider + 1 ∧
      kind.totalled e = false ∧ kind.totalled e' = true)

theorem Ending.moves (kind : Kind) (stepped : e.next c = some (e', c')) : e.Moves kind c e' c' := by
  obtain ⟨latencyUs, isError, phase, fits⟩ := e
  cases phase with
  | returned => cases stepped
  | called | left =>
    cases stepped
    cases kind <;> constructor <;> simp [Kind.sinceTick, Kind.incremented, Kind.totalled]
  | counted =>
    cases stepped
    cases kind <;> constructor <;> simp [Kind.incremented, Kind.totalled, Kind.counter]
  | failed =>
    cases fits
    cases stepped
    cases kind <;> constructor <;> simp [Kind.incremented, Kind.totalled, Kind.counter]
  | totalled | failureTotalled =>
    cases isError <;> cases fits <;> cases stepped <;> cases kind <;> constructor <;>
      simp [Kind.sinceTick, Kind.incremented, Kind.totalled]

/-- What a step of a tick does to the count of a kind. -/
structure Tick.Moves (kind : Kind) (t : Tick) (c : TrafficCounters) (t' : Tick)
    (c' : TrafficCounters) : Prop where
  conserved : gaugeSum kind.gauge c'.provider + kind.inTransit t' + (kind.sinceTick c').toNat =
    gaugeSum kind.gauge c.provider + kind.inTransit t + (kind.sinceTick c).toNat
  drained : (kind.sinceTick c').toNat ≤ (kind.sinceTick c).toNat
  counter : counterSum kind.counter c'.provider = counterSum kind.counter c.provider

theorem Tick.moves (kind : Kind) (small : (kind.sinceTick c).toNat < 2 ^ 53)
    (stepped : t.next c = some (t', c')) : t.Moves kind c t' c' := by
  have exact := Double.nearest_natCast small
  cases t with
  | ended => cases stepped
  | loaded _ | requestsTaken _ _ =>
    -- a swap takes the atomic's value as it is: it is small enough for a double
    cases stepped
    cases kind <;> constructor <;> simp_all [Kind.sinceTick, Kind.inTransit]
  | begun | errorsTaken _ _ _ =>
    cases stepped
    cases kind <;> constructor <;> simp [Kind.inTransit]
  | sampled _ _ _ _ | activeRecorded _ _ _ | requestsRecorded _ _ | errorsRecorded _ =>
    cases stepped
    cases kind <;> constructor <;> simp [Kind.gauge, Kind.inTransit]

/-- What is true of a kind's numbers in every state: the ended requests are in
the gauge, on their way into it, or in the atomic, and the counter has those
that recorded themselves. -/
structure Ledger (kind : Kind) (s : State) : Prop where
  conserved : gaugeSum kind.gauge s.counters.provider + (s.ticks.map kind.inTransit).sum +
    (kind.sinceTick s.counters).toNat = s.endings.countP kind.incremented
  bounded : (kind.sinceTick s.counters).toNat ≤ s.endings.countP kind.incremented
  totalled : counterSum kind.counter s.counters.provider = s.endings.countP kind.totalled

variable {s s' : State} {a : Action} {kind : Kind}

/-- Counters as they are stay in the books with more calls and ticks that have
not done anything. -/
theorem Ledger.of_idle (books : Ledger kind s) (counters : s'.counters = s.counters)
    (ticks : (s'.ticks.map kind.inTransit).sum = (s.ticks.map kind.inTransit).sum)
    (incremented : s'.endings.countP kind.incremented = s.endings.countP kind.incremented)
    (totalled : s'.endings.countP kind.totalled = s.endings.countP kind.totalled) :
    Ledger kind s' where
  conserved := by rw [counters, ticks, incremented, books.conserved]
  bounded := by
    rw [counters, incremented]
    exact books.bounded
  totalled := by rw [counters, totalled, books.totalled]

/-- An update of a call keeps the books. -/
theorem Ledger.ending {i : Nat} (books : Ledger kind s) (found : s.endings[i]? = some e)
    (few : s.endings.length < 2 ^ 53) (moves : e.Moves kind s.counters e' c') :
    Ledger kind { s with counters := c', endings := s.endings.set i e' } := by
  have counted := List.countP_set_of_getElem? kind.incremented found e'
  have recorded := List.countP_set_of_getElem? kind.totalled found e'
  have room := books.bounded
  have atMost := s.endings.countP_le_length (p := kind.incremented)
  obtain ⟨sinceTick, gauge, counter⟩ := moves
  have atomic : (s.endings.set i e').countP kind.incremented + (kind.sinceTick s.counters).toNat =
      s.endings.countP kind.incremented + (kind.sinceTick c').toNat := by
    rcases sinceTick with ⟨same, kept⟩ | ⟨more, before, after⟩
    · rw [kept] at counted
      rw [same]
      omega
    · have width : (kind.sinceTick s.counters + 1).toNat = (kind.sinceTick s.counters).toNat + 1 := by
        rw [UInt64.toNat_add, UInt64.toNat_one]
        omega
      simp only [before, after, Bool.false_eq_true, if_true, if_false] at counted
      rw [more, width]
      omega
  constructor
  · have conserved := books.conserved
    have exact : ((s.endings.set i e').countP kind.incremented : ℚ) + (kind.sinceTick s.counters).toNat =
        s.endings.countP kind.incremented + (kind.sinceTick c').toNat := by exact_mod_cast atomic
    simp only [gauge]
    linarith
  · simp only
    omega
  · have total := books.totalled
    rcases counter with ⟨same, kept⟩ | ⟨more, before, after⟩
    · rw [kept] at recorded
      simp only [same, total, Nat.cast_inj]
      omega
    · simp only [before, after, Bool.false_eq_true, if_true, if_false] at recorded
      simp only [more, total]
      exact_mod_cast recorded.symm

/-- A step of a tick keeps the books. -/
theorem Ledger.ticking {j : Nat} (books : Ledger kind s) (found : s.ticks[j]? = some t)
    (moves : t.Moves kind s.counters t' c') :
    Ledger kind { s with counters := c', ticks := s.ticks.set j t' } := by
  have transit := List.sum_map_set_of_getElem? kind.inTransit found t'
  obtain ⟨moved, drained, counter⟩ := moves
  constructor
  · have conserved := books.conserved
    simp only
    linarith
  · exact drained.trans books.bounded
  · rw [counter]
    exact books.totalled

/-- Calls are only added. -/
theorem endings_grow (stepped : step s a = some s') : s.endings.length ≤ s'.endings.length := by
  cases a with
  | onStart | tick =>
    cases stepped
    exact le_rfl
  | onEnd latencyUs isError =>
    cases stepped
    simp
  | ending i | ticking j =>
    obtain ⟨after, _, rfl⟩ := Option.map_eq_some_iff.mp stepped
    simp

/-- Each step keeps the books of both kinds. -/
theorem Ledger.step (books : Ledger kind s) (few : s.endings.length < 2 ^ 53)
    (stepped : Ticks.step s a = some s') : Ledger kind s' := by
  cases a with
  | onStart =>
    cases stepped
    cases kind
    · exact ⟨books.conserved, books.bounded, books.totalled⟩
    · exact ⟨books.conserved, books.bounded, books.totalled⟩
  | onEnd latencyUs isError =>
    cases stepped
    refine books.of_idle ?_ ?_ ?_ ?_
    · rfl
    · rfl
    · cases kind <;> simp [Kind.incremented]
    · cases kind <;> simp [Kind.totalled]
  | tick =>
    cases stepped
    refine books.of_idle ?_ ?_ ?_ ?_
    · rfl
    · cases kind <;> simp [Kind.inTransit]
    · rfl
    · rfl
  | ending i =>
    obtain ⟨⟨e', c'⟩, ran, rfl⟩ := Option.map_eq_some_iff.mp stepped
    obtain ⟨e, found, next⟩ := Option.bind_eq_some_iff.mp ran
    exact books.ending found few (Ending.moves kind next)
  | ticking j =>
    obtain ⟨⟨t', c'⟩, ran, rfl⟩ := Option.map_eq_some_iff.mp stepped
    obtain ⟨t, found, next⟩ := Option.bind_eq_some_iff.mp ran
    have small : (kind.sinceTick s.counters).toNat < 2 ^ 53 := by
      have room := books.bounded
      have atMost := s.endings.countP_le_length (p := kind.incremented)
      omega
    exact books.ticking found (Tick.moves kind small next)

variable {actions : List Action}

/-- The books are right in every state. -/
theorem ledger (kind : Kind) (ran : machine.exec actions = some s)
    (few : s.endings.length < 2 ^ 53) : Ledger kind s := by
  refine run_induction (P := fun _ s => s.endings.length < 2 ^ 53 → Ledger kind s) ?_ ?_ ran few
  · intro _
    cases kind <;> constructor <;>
      simp [machine, TrafficCounters.new, gaugeSum, counterSum, Kind.sinceTick]
  · intro _ s a s' _ books stepped few
    have before := (endings_grow stepped).trans_lt few
    exact (books before).step before stepped

/-- A tick that has ended holds nothing. -/
theorem inTransit_of_ended (kind : Kind) (ended : ∀ t ∈ s.ticks, t = .ended) :
    (s.ticks.map kind.inTransit).sum = 0 := by
  apply List.sum_eq_zero
  intro value held
  obtain ⟨t, member, rfl⟩ := List.mem_map.mp held
  rw [ended t member]
  cases kind <;> rfl

/-- A call that has returned counted itself in both places, or in neither. -/
theorem totalled_of_returned (kind : Kind) (returned : ∀ e ∈ s.endings, e.phase = .returned) :
    s.endings.countP kind.totalled = s.endings.countP kind.incremented := by
  apply List.countP_congr
  intro e member
  cases kind <;> simp [Kind.totalled, Kind.incremented, returned e member]

/-- Only a call that recorded a request records an error. -/
theorem failures_le_requests (endings : List Ending) :
    endings.countP Kind.errors.totalled ≤ endings.countP Kind.requests.totalled := by
  apply List.countP_mono_left
  rintro ⟨latencyUs, isError, phase, fits⟩ _ failed
  cases phase <;> simp_all [Kind.totalled]

/-- No ended request is lost or counted twice. -/
structure Balanced (s : State) : Prop where
  /-- Every increment of the atomic is in the gauge, in a tick or in the atomic. -/
  conserved : ∀ kind : Kind, gaugeSum kind.gauge s.counters.provider +
    (s.ticks.map kind.inTransit).sum + (kind.sinceTick s.counters).toNat =
      s.endings.countP kind.incremented
  /-- With no call and no tick in progress that is what the counter says. -/
  quiet : (∀ e ∈ s.endings, e.phase = .returned) → (∀ t ∈ s.ticks, t = .ended) →
    ∀ kind : Kind, gaugeSum kind.gauge s.counters.provider + (kind.sinceTick s.counters).toNat =
      counterSum kind.counter s.counters.provider
  failures : counterSum Kind.errors.counter s.counters.provider ≤
    counterSum Kind.requests.counter s.counters.provider

/-- However the updates of calls of `on_end` and of ticks interleave, no ended
request is lost or counted twice. -/
theorem ended_requests_are_conserved (actions : List Action) (s : State)
    (ran : machine.exec actions = some s) (few : s.endings.length < 2 ^ 53) : Balanced s := by
  have books := fun kind => ledger kind ran few
  constructor
  · exact fun kind => (books kind).conserved
  · intro returned ended kind
    have conserved := (books kind).conserved
    rw [inTransit_of_ended kind ended, add_zero] at conserved
    rw [conserved, (books kind).totalled, totalled_of_returned kind returned]
  · rw [(books .errors).totalled, (books .requests).totalled]
    exact_mod_cast failures_le_requests s.endings

/-- A tick that takes the first of two requests, and not the error it becomes. -/
theorem ended_requests_are_conserved_split :
    let actions : List Action :=
      [.onStart, .onEnd 900 true, .tick, .ending 0, .ending 0, .onEnd 250 false, .ticking 0,
        .ticking 0, .ending 1, .ending 1, .ticking 0, .ending 0, .ending 0, .ticking 0]
    ∃ s, machine.exec actions = some s ∧ Balanced s := by
  intro actions
  exact ⟨_, rfl, ended_requests_are_conserved actions _ rfl (by decide)⟩

/-- One call of `on_end` and the counters. -/
def Ending.alone (start : Ending × TrafficCounters) : StepMachine (Ending × TrafficCounters) Unit where
  init := start
  step now _ := now.1.next now.2

/-- One tick and the counters. -/
def Tick.alone (start : Tick × TrafficCounters) : StepMachine (Tick × TrafficCounters) Unit where
  init := start
  step now _ := now.1.next now.2

/-- A call of `on_end` that nothing comes between. -/
theorem onEnd_undisturbed {i : Nat} {latencyUs : UInt64} {isError : Bool}
    (called : s.endings[i]? = some ⟨latencyUs, isError, .called, trivial⟩) :
    machine.execFrom s (List.replicate (if isError then 6 else 4) (.ending i)) =
      some { s with
        counters := s.counters.onEnd latencyUs isError
        endings := s.endings.set i ⟨latencyUs, isError, .returned, trivial⟩ } := by
  let start : Ending := ⟨latencyUs, isError, .called, trivial⟩
  let place (now : Ending × TrafficCounters) : State :=
    { s with counters := now.2, endings := s.endings.set i now.1 }
  obtain ⟨inside, here⟩ := List.getElem?_eq_some_iff.mp called
  have placed : place (start, s.counters) = s := by
    simp only [place, start, ← here, List.set_getElem_self]
  have embeds : ∀ now (_ : Unit), machine.step (place now) (.ending i) =
      ((Ending.alone (start, s.counters)).step now ()).map place := by
    intro now _
    simp [place, machine, step, Ending.alone, inside]
  have runs := execFrom_embed place (fun _ => Action.ending i) embeds (start, s.counters)
    (List.replicate (if isError then 6 else 4) ())
  rw [placed, List.map_replicate] at runs
  rw [runs]
  cases isError <;>
    simp [List.replicate, Ending.alone, start, place, Ending.next, recordCounter,
      TrafficCounters.onEnd]

/-- A tick that nothing comes between. -/
theorem round_undisturbed {j : Nat} (begun : s.ticks[j]? = some .begun) :
    machine.execFrom s (List.replicate 8 (.ticking j)) =
      some { s with
        counters := BackgroundSampler.round s.counters
        ticks := s.ticks.set j .ended } := by
  let place (now : Tick × TrafficCounters) : State :=
    { s with counters := now.2, ticks := s.ticks.set j now.1 }
  obtain ⟨inside, here⟩ := List.getElem?_eq_some_iff.mp begun
  have placed : place (.begun, s.counters) = s := by
    simp only [place, ← here, List.set_getElem_self]
  have embeds : ∀ now (_ : Unit), machine.step (place now) (.ticking j) =
      ((Tick.alone (.begun, s.counters)).step now ()).map place := by
    intro now _
    simp [place, machine, step, Tick.alone, inside]
  have runs := execFrom_embed place (fun _ => Action.ticking j) embeds (.begun, s.counters)
    (List.replicate 8 ())
  rw [placed, List.map_replicate] at runs
  rw [runs]
  simp [List.replicate, Tick.alone, place, Tick.next, recordGauge, BackgroundSampler.round]

end Ticks

end EdgeBootstrap
