import EdgeBootstrap.Library.StepMachine
import Mathlib.Data.List.Nodup

/-! `LogDrainBridge`: log entries of handlers, on their way to a log backend that
may buffer. An `emit` hands the entry to the backend and then flushes it; drains
of several dispatchers share one backend, so other calls may come in between. The
backend belongs to another crate. -/
namespace EdgeBootstrap
open StepMachine

inductive LogLevel
  | trace
  | debug
  | info
  | warn
  | error
  | fatal
  deriving DecidableEq, Repr

structure LogEntry where
  level : LogLevel
  source : String
  message : String
  deriving DecidableEq, Repr

structure LogEmitRequest where
  level : String
  handlerId : String
  message : String
  deriving DecidableEq, Repr

/-- `parse_level`. -/
def parseLevel (level : String) : LogLevel :=
  match level.toLower with
  | "trace" => .trace
  | "debug" => .debug
  | "warn" | "warning" => .warn
  | "error" => .error
  | "fatal" => .fatal
  | _ => .info

/-- The entry that is emitted for a request. -/
def LogEmitRequest.entry (req : LogEmitRequest) : LogEntry :=
  ⟨parseLevel req.level, req.handlerId, req.message⟩

/-- `LoggerProvider`; `durable` is what a crash leaves on disk. -/
structure LoggerProvider where
  Sink : Type
  emit : Sink → LogEntry → Sink
  flush : Sink → Sink
  durable : Sink → List LogEntry

/-- What a backend promises: entries are written in the order they were emitted, some
of them may wait in memory, and a flush leaves none waiting. -/
structure LoggerProvider.Buffers (backend : LoggerProvider) where
  written : backend.Sink → List LogEntry
  written_emit : ∀ sink entry, written (backend.emit sink entry) = written sink ++ [entry]
  written_flush : ∀ sink, written (backend.flush sink) = written sink
  durable_written : ∀ sink, backend.durable sink <+: written sink
  durable_emit : ∀ sink entry, backend.durable sink <+: backend.durable (backend.emit sink entry)
  durable_flush : ∀ sink, backend.durable (backend.flush sink) = written sink

/-- A file behind a buffer of so many entries. -/
def LoggerProvider.file (capacity : Nat) : LoggerProvider where
  Sink := List LogEntry × List LogEntry
  emit sink entry :=
    if sink.2.length < capacity then (sink.1, sink.2 ++ [entry]) else (sink.1 ++ sink.2, [entry])
  flush sink := (sink.1 ++ sink.2, [])
  durable := Prod.fst

def LoggerProvider.fileBuffers (capacity : Nat) : (LoggerProvider.file capacity).Buffers where
  written sink := sink.1 ++ sink.2
  written_emit sink entry := by
    by_cases room : sink.2.length < capacity <;> simp [LoggerProvider.file, room]
  written_flush sink := List.append_nil _
  durable_written sink := List.prefix_append _ _
  durable_emit sink entry := by
    by_cases room : sink.2.length < capacity <;> simp [LoggerProvider.file, room]
  durable_flush _ := rfl

/-- `LogDrainBridge::emit`. -/
def LogDrainBridge.emit (backend : LoggerProvider) (sink : backend.Sink) (req : LogEmitRequest) :
    backend.Sink := backend.flush (backend.emit sink req.entry)

namespace LogDrain

inductive Phase
  | called
  | emitted
  | returned
  deriving DecidableEq, Repr

/-- A call of `emit`, and how far it has come. -/
structure Call where
  req : LogEmitRequest
  phase : Phase
  deriving DecidableEq, Repr

variable (backend : LoggerProvider)

structure State where
  sink : backend.Sink
  calls : List Call

inductive Action
  | call (req : LogEmitRequest)
  | emit (i : Nat)
  | flush (i : Nat)

variable {backend}

/-- The call `i` takes a step on the backend, when it has come as far as `phase`. -/
def State.advance (s : State backend) (i : Nat) (phase next : Phase)
    (deed : LogEmitRequest → backend.Sink → backend.Sink) : Option (State backend) :=
  match s.calls[i]? with
  | some call =>
    if call.phase = phase then some ⟨deed call.req s.sink, s.calls.set i ⟨call.req, next⟩⟩ else none
  | none => none

def step (s : State backend) : Action → Option (State backend)
  | .call req => some { s with calls := s.calls ++ [⟨req, .called⟩] }
  | .emit i => s.advance i .called .emitted fun req sink => backend.emit sink req.entry
  | .flush i => s.advance i .emitted .returned fun _ sink => backend.flush sink

/-- Calls of the drains of one backend, their steps in any order. A crash may follow
every run. -/
def machine (start : backend.Sink) : StepMachine (State backend) Action where
  init := ⟨start, []⟩
  step := step

variable {s s' : State backend} {start : backend.Sink} {i : Nat}

theorem advance_spec {phase next : Phase} {deed : LogEmitRequest → backend.Sink → backend.Sink}
    (advanced : s.advance i phase next deed = some s') :
    ∃ req, s.calls[i]? = some ⟨req, phase⟩ ∧ s' = ⟨deed req s.sink, s.calls.set i ⟨req, next⟩⟩ := by
  unfold State.advance at advanced
  cases found : s.calls[i]? with
  | none => simp [found] at advanced
  | some call =>
    obtain ⟨req, at_⟩ := call
    simp only [found] at advanced
    split at advanced
    · rename_i same
      cases advanced
      cases same
      exact ⟨req, rfl, rfl⟩
    · cases advanced

/-- A call with nothing between its steps is `LogDrainBridge::emit`. -/
theorem emit_steps (s : State backend) (req : LogEmitRequest) :
    ∃ actions, (machine start).execFrom s actions =
      some ⟨LogDrainBridge.emit backend s.sink req, s.calls ++ [⟨req, .returned⟩]⟩ :=
  ⟨[.call req, .emit s.calls.length, .flush s.calls.length],
    by simp [machine, step, State.advance, LogDrainBridge.emit]⟩

/-- The calls whose entries the backend was given, in that order. -/
def emits (history : List Action) : List Nat :=
  history.filterMap fun
    | .emit i => some i
    | _ => none

/-- The entry a call is for. -/
def requested (s : State backend) (i : Nat) : Option LogEntry := (s.calls[i]?).map (·.req.entry)

/-- What holds after a history: the backend has written the entries of the calls that
emitted, and a call returns only when its entry is durable. -/
structure Sound (buffers : backend.Buffers) (history : List Action) (s : State backend) : Prop where
  written : (buffers.written s.sink).map some = (emits history).map (requested s)
  emitted : ∀ i, i ∈ emits history ↔ ∃ call, s.calls[i]? = some call ∧ call.phase ≠ .called
  once : (emits history).Nodup
  returned : ∀ i call, s.calls[i]? = some call → call.phase = .returned →
    i ∈ (emits history).take (backend.durable s.sink).length

variable {buffers : backend.Buffers} {history : List Action}

/-- The call `i` has moved on to `next`, and everything else is as it was. -/
theorem calls_set {req : LogEmitRequest} {phase next : Phase} (found : s.calls[i]? = some ⟨req, phase⟩)
    (k : Nat) (call : Call) : (s.calls.set i ⟨req, next⟩)[k]? = some call ↔
      if i = k then call = ⟨req, next⟩ else s.calls[k]? = some call := by
  have bound := (List.getElem?_eq_some_iff.mp found).1
  by_cases same : i = k
  · subst same
    simp [List.getElem?_set_self bound, eq_comm]
  · simp [List.getElem?_set_ne same, same]

theorem requested_set {req : LogEmitRequest} {phase next : Phase} {sink : backend.Sink}
    (found : s.calls[i]? = some ⟨req, phase⟩) :
    requested (⟨sink, s.calls.set i ⟨req, next⟩⟩ : State backend) = requested s := by
  have bound := (List.getElem?_eq_some_iff.mp found).1
  funext k
  by_cases same : i = k
  · subst same
    simp [requested, List.getElem?_set_self bound, found]
  · simp [requested, List.getElem?_set_ne same]

theorem Sound.length_written (sound : Sound buffers history s) :
    (buffers.written s.sink).length = (emits history).length := by
  have lengths := congrArg List.length sound.written
  simpa using lengths

theorem Sound.call (sound : Sound buffers history s) (req : LogEmitRequest) :
    Sound buffers (history ++ [.call req]) { s with calls := s.calls ++ [⟨req, .called⟩] } := by
  have same : emits (history ++ [.call req]) = emits history := by simp [emits]
  have older {k : Nat} {call : Call} (held : (s.calls ++ [⟨req, .called⟩])[k]? = some call)
      (moved : call.phase ≠ .called) : s.calls[k]? = some call := by
    rw [List.getElem?_append] at held
    split at held
    · exact held
    · have last : k - s.calls.length = 0 := by
        have inside := (List.getElem?_eq_some_iff.mp held).1
        simpa using inside
      simp only [last, List.getElem?_cons_zero, Option.some.injEq] at held
      subst held
      exact absurd rfl moved
  constructor
  · rw [same, sound.written]
    refine List.map_congr_left fun k held => ?_
    obtain ⟨call, found, _⟩ := (sound.emitted k).mp held
    have bound := (List.getElem?_eq_some_iff.mp found).1
    simp [requested, List.getElem?_append_left bound]
  · intro k
    rw [same, sound.emitted]
    constructor
    · rintro ⟨call, found, moved⟩
      have bound := (List.getElem?_eq_some_iff.mp found).1
      exact ⟨call, by rwa [List.getElem?_append_left bound], moved⟩
    · rintro ⟨call, found, moved⟩
      exact ⟨call, older found moved, moved⟩
  · rw [same]
    exact sound.once
  · intro k call held returned
    rw [same]
    exact sound.returned k call (older held (by simp [returned])) returned

theorem Sound.emit (sound : Sound buffers history s) {req : LogEmitRequest}
    (found : s.calls[i]? = some ⟨req, .called⟩) :
    Sound buffers (history ++ [.emit i])
      ⟨backend.emit s.sink req.entry, s.calls.set i ⟨req, .emitted⟩⟩ := by
  have added : emits (history ++ [.emit i]) = emits history ++ [i] := by simp [emits]
  have new : i ∉ emits history := by
    rw [sound.emitted]
    rintro ⟨call, held, moved⟩
    cases found.symm.trans held
    exact moved rfl
  constructor
  · rw [added, requested_set found, buffers.written_emit, List.map_append, List.map_append, sound.written]
    simp [requested, found]
  · intro k
    simp only [added, List.mem_append, List.mem_singleton, calls_set found]
    by_cases same : i = k
    · subst same
      simp
    · simp [same, Ne.symm same, sound.emitted]
  · rw [added, ← List.concat_eq_append]
    exact sound.once.concat new
  · intro k call held returned
    rw [calls_set found] at held
    split at held
    · rw [held] at returned
      cases returned
    · have kept := sound.returned k call held returned
      have grown := (buffers.durable_emit s.sink req.entry).length_le
      rw [added]
      exact ((List.take_prefix_take_left grown).trans
        (List.prefix_append (emits history) [i] |>.take _)).subset kept

theorem Sound.flush (sound : Sound buffers history s) {req : LogEmitRequest}
    (found : s.calls[i]? = some ⟨req, .emitted⟩) :
    Sound buffers (history ++ [.flush i]) ⟨backend.flush s.sink, s.calls.set i ⟨req, .returned⟩⟩ := by
  have same : emits (history ++ [.flush i]) = emits history := by simp [emits]
  have others (k : Nat) : k ∈ emits history ↔
      ∃ call, (s.calls.set i ⟨req, .returned⟩)[k]? = some call ∧ call.phase ≠ .called := by
    simp only [sound.emitted, calls_set found]
    by_cases own : i = k
    · subst own
      simp [found]
    · simp [own]
  constructor
  · rw [same, requested_set found, buffers.written_flush, sound.written]
  · intro k
    rw [same, others]
  · rw [same]
    exact sound.once
  · intro k call held returned
    rw [same, buffers.durable_flush, sound.length_written, List.take_length, others]
    exact ⟨call, held, by simp [returned]⟩

theorem Sound.step (sound : Sound buffers history s) {action : Action}
    (stepped : LogDrain.step s action = some s') : Sound buffers (history ++ [action]) s' := by
  cases action with
  | call req =>
    cases stepped
    exact sound.call req
  | emit i =>
    simp only [LogDrain.step] at stepped
    obtain ⟨req, found, rfl⟩ := advance_spec stepped
    exact sound.emit found
  | flush i =>
    simp only [LogDrain.step] at stepped
    obtain ⟨req, found, rfl⟩ := advance_spec stepped
    exact sound.flush found

/-- Whatever calls of the drains of one backend are in progress when the process dies:
the disk has the entries of the first calls to have reached the backend, in that
order and each of them once, and all calls that returned are among these. -/
theorem returned_entries_survive_crash (buffers : backend.Buffers) (start : backend.Sink)
    (fresh : buffers.written start = []) (history : List Action) (s : State backend)
    (ran : (machine start).exec history = some s) :
    (emits history).Nodup ∧ ∃ kept lost, emits history = kept ++ lost ∧
      (backend.durable s.sink).map some = kept.map (requested s) ∧
      (∀ i ∈ lost, ∃ req, s.calls[i]? = some ⟨req, .emitted⟩) ∧
      ∀ i call, s.calls[i]? = some call → call.phase = .returned → i ∈ kept := by
  have sound : Sound buffers history s := by
    refine run_induction (P := Sound buffers) ?_ (fun _ _ _ _ _ sound stepped => sound.step stepped) ran
    exact ⟨by simp [machine, fresh, emits], by simp [machine, emits], List.nodup_nil, by simp [machine]⟩
  let n := (backend.durable s.sink).length
  refine ⟨sound.once, (emits history).take n, (emits history).drop n, (List.take_append_drop n _).symm,
    ?_, ?_, sound.returned⟩
  · have part : backend.durable s.sink = (buffers.written s.sink).take n :=
      List.prefix_iff_eq_take.mp (buffers.durable_written s.sink)
    rw [part, List.map_take, sound.written, List.map_take]
  · intro i lost
    obtain ⟨⟨req, phase⟩, found, moved⟩ := (sound.emitted i).mp (List.mem_of_mem_drop lost)
    cases phase with
    | called => exact absurd rfl moved
    | emitted => exact ⟨req, found⟩
    | returned =>
      have kept := sound.returned i _ found rfl
      exact absurd lost (List.disjoint_take_drop sound.once (Nat.le_refl n) kept)

/-- A call that returned, one that was only handed to the buffer, and a crash. -/
theorem returned_entries_survive_crash_buffered :
    let start : (LoggerProvider.file 8).Sink := ([], [])
    let history : List Action :=
      [.call ⟨"ERROR", "echo", "failed"⟩, .call ⟨"info", "sum", "done"⟩, .emit 0, .flush 0, .emit 1]
    ∃ s, (machine start).exec history = some s ∧
      (emits history).Nodup ∧ ∃ kept lost, emits history = kept ++ lost ∧
        ((LoggerProvider.file 8).durable s.sink).map some = kept.map (requested s) ∧
        (∀ i ∈ lost, ∃ req, s.calls[i]? = some ⟨req, .emitted⟩) ∧
        ∀ i call, s.calls[i]? = some call → call.phase = .returned → i ∈ kept := by
  intro start history
  obtain ⟨s, ran⟩ : ∃ s, (machine start).exec history = some s := ⟨_, rfl⟩
  exact ⟨s, ran,
    returned_entries_survive_crash (LoggerProvider.fileBuffers 8) start rfl history s ran⟩

end LogDrain

end EdgeBootstrap
