import EdgeBootstrap.Monitor.InFlight
import EdgeBootstrap.Transport.Ingress

/-! The load monitors around a whole request: what `HttpLoadMonitor` and
`GrpcLoadMonitor` do to a call that runs to its end. Calls that are interleaved
or dropped are the subject of `InFlight`. -/
namespace EdgeBootstrap

variable {σ α : Type}

/-- Count a call and, when it returns, its latency in microseconds and whether
it failed. -/
def monitored [Clock α] {β ε : Type} (run : Exec σ α (Except ε β)) : Exec σ α (Except ε β) := do
  Exec.count TrafficCounters.onStart
  let start ← Exec.now
  let result ← run
  let stop ← Exec.now
  Exec.count (·.onEnd (stop - start) !result.isOk)
  return result

/-- A monitor answers what the call answered. -/
@[simp] theorem value_monitored [Clock α] {β ε : Type} (run : Exec σ α (Except ε β))
    (w : World σ α) :
    (monitored run).value w = run.value { w with counters := w.counters.onStart } := rfl

/-- A monitor crosses into foreign code only where the call does. -/
@[simp] theorem events_monitored [Clock α] {β ε : Type} (run : Exec σ α (Except ε β))
    (w : World σ α) :
    (monitored run).events w = run.events { w with counters := w.counters.onStart } := by
  simp [monitored]

/-- A monitor counts the call in before it runs, and out after it. -/
theorem counters_monitored [Clock α] {β ε : Type} (run : Exec σ α (Except ε β)) (w : World σ α) :
    ∃ latencyUs isError, ((monitored run).state w).counters =
      (run.state { w with counters := w.counters.onStart }).counters.onEnd latencyUs isError :=
  ⟨_, _, rfl⟩

/-- Around a call that leaves the counters alone, a monitor moves them as a future
does that is created and completed. -/
theorem monitored_refines [Clock α] {β ε : Type} (run : Exec σ α (Except ε β)) (w : World σ α)
    (untouched : ∀ w : World σ α, (run.state w).counters = w.counters) (entry : InFlight.Entry)
    (s : InFlight.State) (same : s.counters = w.counters) :
    ∃ latencyUs isError,
      InFlight.machine.execFrom s [.call entry, .complete s.futures.length latencyUs isError] =
        some ⟨((monitored run).state w).counters, s.futures ++ [⟨entry, .completed⟩]⟩ := by
  obtain ⟨latencyUs, isError, counted⟩ := counters_monitored run w
  have inside := untouched { w with counters := w.counters.onStart }
  refine ⟨latencyUs, isError, ?_⟩
  rw [counted, inside, ← same]
  simp [InFlight.machine, InFlight.step, InFlight.State.move, InFlight.Future.live]

variable [Platform]

def HttpLoadMonitor [Clock α] (inner : HttpIngress σ α) : HttpIngress σ α where
  handle req := monitored (inner.handle req)
  healthCheck := inner.healthCheck

def GrpcLoadMonitor [Clock α] (inner : GrpcIngress σ α) : GrpcIngress σ α where
  handleUnary req := monitored (inner.handleUnary req)
  handleStream req := monitored (inner.handleStream req)
  healthCheck := inner.healthCheck

end EdgeBootstrap
