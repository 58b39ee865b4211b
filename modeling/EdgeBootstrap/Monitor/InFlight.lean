import EdgeBootstrap.Library.StepMachine
import EdgeBootstrap.Library.Tallies
import EdgeBootstrap.Monitor.TrafficCounters
import Mathlib.Algebra.Group.Nat.Defs

/-! Requests passing through the load monitors, as the futures they return. A
monitor counts the request when it is called, before its future exists, and
counts it out in the last poll of that future; dropping the future in between
runs no code of the monitor. The invariant is that the counter holds the live
requests and the dropped ones together. -/
namespace EdgeBootstrap.InFlight
open StepMachine

/-- The monitored entry points; they count alike. -/
inductive Entry
  | httpHandle | grpcHandleUnary | grpcHandleStream
  deriving DecidableEq, Repr

inductive Phase
  | created | polled | completed | dropped
  deriving DecidableEq, Repr

/-- A future a monitor returned. -/
structure Future where
  entry : Entry
  phase : Phase
  deriving DecidableEq, Repr

/-- Created, and neither completed nor dropped. -/
def Future.live (f : Future) : Bool := f.phase = .created ∨ f.phase = .polled

/-- The shared counters and every future returned so far. -/
structure State where
  counters : TrafficCounters
  futures : List Future

inductive Step
  | call (entry : Entry)
  | poll (i : Nat)
  | complete (i : Nat) (latencyUs : UInt64) (isError : Bool)
  | drop (i : Nat)
  deriving DecidableEq, Repr

namespace State

/-- How many futures are live. -/
def live (s : State) : Nat := s.futures.countP (·.live)

/-- How many futures were dropped before they completed. -/
def leaked (s : State) : Nat := s.futures.countP (·.phase = .dropped)

/-- The future `i`, if it is live, comes to a phase. -/
def move (s : State) (i : Nat) (phase : Phase) (counters : TrafficCounters) : Option State :=
  match s.futures[i]? with
  | some f => if f.live then some ⟨counters, s.futures.set i { f with phase }⟩ else none
  | none => none

end State

/-- `handle`, `handle_unary` and `handle_stream` call `on_start` eagerly and
`on_end` when their future completes; a poll that is still pending and a drop
touch no counter. -/
def step (s : State) : Step → Option State
  | .call entry => some ⟨s.counters.onStart, s.futures ++ [⟨entry, .created⟩]⟩
  | .poll i => s.move i .polled s.counters
  | .complete i latencyUs isError => s.move i .completed (s.counters.onEnd latencyUs isError)
  | .drop i => s.move i .dropped s.counters

def machine : StepMachine State Step where
  init := ⟨.new, []⟩
  step := step

variable {s s' : State} {i : Nat} {phase : Phase} {counters : TrafficCounters}

/-- A future that moves was live. -/
theorem move_spec (moved : s.move i phase counters = some s') :
    ∃ f, s.futures[i]? = some f ∧ f.live = true ∧
      s' = ⟨counters, s.futures.set i { f with phase }⟩ := by
  unfold State.move at moved
  split at moved
  · rename_i f found
    split at moved
    · rename_i live
      exact ⟨f, found, live, (Option.some.inj moved).symm⟩
    · cases moved
  · cases moved

/-- What a move does to the two counts: a future that was live goes to where
its new phase is counted. -/
private theorem counts_of_move (moved : s.move i phase counters = some s') :
    s'.live + 1 = s.live + (if phase = .created ∨ phase = .polled then 1 else 0) ∧
      s'.leaked = s.leaked + (if phase = .dropped then 1 else 0) ∧ s'.counters = counters := by
  obtain ⟨f, found, live, rfl⟩ := move_spec moved
  have counted := List.countP_set_of_getElem? Future.live found { f with phase }
  have lost := List.countP_set_of_getElem? (·.phase = .dropped) found { f with phase }
  have kept : f.phase ≠ .dropped := by
    intro gone
    simp [Future.live, gone] at live
  have placed : Future.live { f with phase } = true ↔ phase = .created ∨ phase = .polled := by
    simp [Future.live]
  refine ⟨?_, ?_, rfl⟩
  · simpa only [State.live, live, placed, if_true] using counted
  · simpa [State.leaked, kept] using lost

/-- A call adds a live future. -/
private theorem counts_of_call (entry : Entry) (ran : step s (.call entry) = some s') :
    s'.live = s.live + 1 ∧ s'.leaked = s.leaked ∧ s'.counters = s.counters.onStart := by
  cases ran
  refine ⟨?_, ?_, rfl⟩
  · simp [State.live, Future.live]
  · simp [State.leaked]

/-- The counter is the live requests and the dropped ones together, in the
atomic's width. -/
theorem requestsInFlight_eq {steps : List Step} (run : machine.exec steps = some s) :
    s.counters.requestsInFlight = Int64.ofNat (s.live + s.leaked) := by
  refine machine.invariant (I := fun s =>
    s.counters.requestsInFlight = Int64.ofNat (s.live + s.leaked)) rfl ?_ run
  intro s a s' held ran
  cases a with
  | call entry =>
    obtain ⟨live, leaked, counters⟩ := counts_of_call entry ran
    rw [counters, live, leaked, TrafficCounters.onStart_requestsInFlight, held,
      show s.live + 1 + s.leaked = s.live + s.leaked + 1 by omega]
    exact (Int64.ofNat_add (s.live + s.leaked) 1).symm
  | poll i =>
    obtain ⟨live, leaked, counters⟩ := counts_of_move ran
    simp only [reduceCtorEq, or_true, ↓reduceIte, Nat.add_right_cancel_iff, Nat.add_zero] at live leaked
    rw [counters, live, leaked, held]
  | complete i latencyUs isError =>
    obtain ⟨live, leaked, counters⟩ := counts_of_move ran
    simp only [reduceCtorEq, or_self, ↓reduceIte, Nat.add_zero] at live leaked
    rw [counters, leaked, TrafficCounters.onEnd_requestsInFlight, held, ← live,
      show s'.live + 1 + s.leaked = s'.live + s.leaked + 1 by omega, Int64.ofNat_add _ 1]
    exact Int64.add_sub_cancel ..
  | drop i =>
    obtain ⟨live, leaked, counters⟩ := counts_of_move ran
    simp only [reduceCtorEq, or_self, ↓reduceIte, Nat.add_zero] at live leaked
    rw [counters, leaked, held, ← live, show s'.live + 1 + s.leaked = s'.live + (s.leaked + 1) by omega]

/-- `requests_in_flight` is the number of live requests. -/
def Tracks (_ : List Step) (s : State) : Prop := s.counters.requestsInFlight.toInt = s.live

/-- The step drops no future before it completed, and a call does not fill the
range of the atomic. -/
def NoLeak (_ : List Step) (s : State) (a : Step) : Prop :=
  (∀ i, a ≠ .drop i) ∧ ∀ entry, a = .call entry → s.live + 1 < 2 ^ 63

/-- Without drops nothing leaks and the count stays in range. -/
private theorem kept_of_noLeak {steps : List Step} (clean : machine.Throughout NoLeak steps)
    (run : machine.exec steps = some s) : s.leaked = 0 ∧ s.live < 2 ^ 63 := by
  refine run_induction_throughout (P := fun _ s => s.leaked = 0 ∧ s.live < 2 ^ 63) ?_ ?_ clean run
  · exact ⟨rfl, by decide⟩
  · rintro _ s a s' _ ⟨none, bound⟩ ⟨undropped, room⟩ ran
    cases a with
    | call entry =>
      obtain ⟨live, leaked, _⟩ := counts_of_call entry ran
      exact ⟨leaked.trans none, live ▸ room entry rfl⟩
    | poll i | complete i _ _ =>
      obtain ⟨live, leaked, _⟩ := counts_of_move ran
      simp only [reduceCtorEq, or_true, or_self, ↓reduceIte, Nat.add_zero] at live leaked
      omega
    | drop i => exact absurd rfl (undropped i)

/-- In every state of a run the counter is the number of live requests exactly
when no future of the run was dropped before it completed (and fewer than
`2 ^ 63` were ever live at once). -/
theorem tracks_iff_noLeak (steps : List Step) (last : State)
    (run : machine.exec steps = some last) :
    machine.InEveryState Tracks steps ↔ machine.Throughout NoLeak steps := by
  constructor
  · rintro tracks done a rest s rfl reached
    obtain ⟨s₁, s', reached', ran, extended⟩ := exec_split run
    cases reached.symm.trans reached'
    have before : Int64.toInt _ = _ := tracks done s (by simp) reached
    have after : Int64.toInt _ = _ := tracks (done ++ [a]) s' (by simp) extended
    constructor
    · rintro i rfl
      obtain ⟨live, _, counters⟩ := counts_of_move ran
      simp only [reduceCtorEq, or_self, ↓reduceIte, Nat.add_zero] at live
      rw [counters] at after
      omega
    · rintro entry rfl
      obtain ⟨live, _, _⟩ := counts_of_call entry ran
      have := Int64.toInt_lt s'.counters.requestsInFlight
      omega
  · refine inEveryState_of_throughout fun done s clean reached => ?_
    obtain ⟨none, bound⟩ := kept_of_noLeak clean reached
    rw [Tracks, requestsInFlight_eq reached, none, Nat.add_zero, Int64.toInt_ofNat_of_lt bound]

/-- Two overlapping requests, both completed. -/
theorem tracks_iff_noLeak_overlap :
    let steps : List Step :=
      [.call .httpHandle, .call .grpcHandleStream, .poll 1, .poll 0, .complete 1 250 true,
        .complete 0 900 false]
    machine.InEveryState Tracks steps ↔ machine.Throughout NoLeak steps :=
  tracks_iff_noLeak _ _ rfl

/-- A client that disconnects while its request is pending is counted for ever. -/
theorem dropped_request_stays_counted :
    let steps : List Step := [.call .httpHandle, .poll 0, .drop 0]
    (∃ s, machine.exec steps = some s ∧ s.live = 0 ∧ s.counters.requestsInFlight = 1) ∧
      ¬ machine.InEveryState Tracks steps := by
  refine ⟨⟨_, rfl, rfl, rfl⟩, fun tracks => ?_⟩
  have wrong : Int64.toInt 1 = 0 := tracks _ _ List.prefix_rfl rfl
  simp at wrong

end EdgeBootstrap.InFlight
