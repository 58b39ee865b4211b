import EdgeBootstrap.Library.Doubles

/-! The counters the load monitors share. Each field the source keeps in an
atomic has the atomic's own width; the metrics provider is the list of what was
recorded with it. -/
namespace EdgeBootstrap

/-- `RingBuffer`. A buffer without capacity could not be pushed to. -/
structure RingBuffer where
  buf : List UInt64
  head : UInt64
  nonempty : 0 < buf.length

namespace RingBuffer

def new (capacity : Nat) (positive : 0 < capacity) : RingBuffer where
  buf := List.replicate capacity 0
  head := 0
  nonempty := by simpa using positive

/-- `RingBuffer::push`: the head wraps around at the width of `usize`. -/
def push (r : RingBuffer) (valUs : UInt64) : RingBuffer where
  buf := r.buf.set (r.head.toNat % r.buf.length) valUs
  head := r.head + 1
  nonempty := by simpa using r.nonempty

/-- Microseconds as milliseconds, `v as f64 / 1_000.0`. -/
def millis (us : UInt64) : Rat := Double.nearest (Double.nearest us.toNat / 1000)

/-- The position of the percentile among so many samples; the product wraps
around at the width of `usize`. -/
def p99Index (len : Nat) : Nat := len * 99 % 2 ^ 64 / 100 - 1

/-- `RingBuffer::p99_ms`: of the samples that are not zero, the one at that
position in their order. -/
def p99Ms (r : RingBuffer) : Rat :=
  let samples := r.buf.filter (0 < ·)
  if samples.isEmpty then 0
  else
    let sorted := samples.mergeSort (· ≤ ·)
    millis (sorted.getD (p99Index sorted.length) 0)

end RingBuffer

/-- A call of the metrics provider. -/
inductive MetricRecord
  | counter (name : String) (value : Rat) (labels : List (String × String))
  | gauge (name : String) (value : Rat) (labels : List (String × String))
  deriving DecidableEq, Repr

def ringCapacity : Nat := 1024

structure TrafficCounters where
  provider : List MetricRecord
  requestsInFlight : Int64
  requestsSinceTick : UInt64
  errorsSinceTick : UInt64
  latencyRing : RingBuffer

namespace TrafficCounters

def new : TrafficCounters where
  provider := []
  requestsInFlight := 0
  requestsSinceTick := 0
  errorsSinceTick := 0
  latencyRing := .new ringCapacity (by decide)

def onStart (c : TrafficCounters) : TrafficCounters :=
  { c with requestsInFlight := c.requestsInFlight + 1 }

def onEnd (c : TrafficCounters) (latencyUs : UInt64) (isError : Bool) : TrafficCounters where
  requestsInFlight := c.requestsInFlight - 1
  requestsSinceTick := c.requestsSinceTick + 1
  errorsSinceTick := if isError then c.errorsSinceTick + 1 else c.errorsSinceTick
  provider := c.provider ++ .counter "edge_requests_total" 1 [] ::
    if isError then [.counter "edge_errors_total" 1 []] else []
  latencyRing := c.latencyRing.push latencyUs

@[simp] theorem onStart_requestsInFlight (c : TrafficCounters) :
    c.onStart.requestsInFlight = c.requestsInFlight + 1 := rfl

@[simp] theorem onEnd_requestsInFlight (c : TrafficCounters) (latencyUs : UInt64)
    (isError : Bool) : (c.onEnd latencyUs isError).requestsInFlight = c.requestsInFlight - 1 := rfl

/-- The counters with one more request recorded, and nothing else changed. -/
def withRequest (c : TrafficCounters) (latencyUs : UInt64) (isError : Bool) : TrafficCounters :=
  { c with
    requestsSinceTick := c.requestsSinceTick + 1
    errorsSinceTick := if isError then c.errorsSinceTick + 1 else c.errorsSinceTick
    provider := c.provider ++ .counter "edge_requests_total" 1 [] ::
      if isError then [.counter "edge_errors_total" 1 []] else []
    latencyRing := c.latencyRing.push latencyUs }

/-- A request that is counted in and out is recorded once. -/
theorem onEnd_onStart (c : TrafficCounters) (latencyUs : UInt64) (isError : Bool) :
    c.onStart.onEnd latencyUs isError = c.withRequest latencyUs isError := by
  have back : c.requestsInFlight + 1 - 1 = c.requestsInFlight := Int64.add_sub_cancel ..
  simp only [onStart, onEnd, withRequest, back]

end TrafficCounters

end EdgeBootstrap
