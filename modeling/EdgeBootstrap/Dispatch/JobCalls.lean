import EdgeBootstrap.Dispatch.Handler
import EdgeBootstrap.Library.StepMachine

/-! The calls on a job at the same time, as far as the two jobs have them in common. A call of
`run` looks up an id, then the pipeline of that id, and lets the pipeline answer; each lookup
is a step, with anything of the other calls between them. A registration is the other kind of
call, and the only one that writes to the job; its steps are each job's own. -/
namespace EdgeBootstrap.JobCalls
open StepMachine

/-- A call of `run`: before its route lookup, between its lookups, with the
pipeline it found, and when it has returned. -/
inductive Running (Q P A : Type)
  | called (req : Q)
  | routed (id : String)
  | executing (pipeline : P)
  | returned (result : Except JobError A)

/-- The job, and every call so far. -/
structure State (J C R : Type*) where
  job : J
  registrations : List C
  runs : List R

namespace State
variable {J C R : Type*}

/-- The registration `i` takes a step on the job. -/
def advance (s : State J C R) (i : Nat) (f : C → J → Option (C × J)) : Option (State J C R) :=
  (s.registrations[i]?.bind fun call => f call s.job).map fun after =>
    { s with job := after.2, registrations := s.registrations.set i after.1 }

/-- The run `j` takes a step; no run writes to the job. -/
def proceed (s : State J C R) (j : Nat) (f : R → Option R) : Option (State J C R) :=
  (s.runs[j]?.bind f).map fun run => { s with runs := s.runs.set j run }

variable {s s' : State J C R} {job : J} {calls before : List C} {runs earlier : List R}

@[simp] theorem advance_last {call : C} (f : C → J → Option (C × J)) :
    (⟨job, before ++ [call], runs⟩ : State J C R).advance before.length f =
      (f call job).map fun after => ⟨after.2, before ++ [after.1], runs⟩ := by
  simp [advance]

@[simp] theorem proceed_last {run : R} (f : R → Option R) :
    (⟨job, calls, earlier ++ [run]⟩ : State J C R).proceed earlier.length f =
      (f run).map fun after => ⟨job, calls, earlier ++ [after]⟩ := by
  simp [proceed]

/-- A registration's step is one of a call that is there. -/
theorem of_advance {i : Nat} {f : C → J → Option (C × J)} (advanced : s.advance i f = some s') :
    ∃ call ∈ s.registrations, ∃ call' job', f call s.job = some (call', job') ∧
      s' = ⟨job', s.registrations.set i call', s.runs⟩ := by
  simp only [advance, Option.map_eq_some_iff, Option.bind_eq_some_iff] at advanced
  obtain ⟨⟨call', job'⟩, ⟨call, found, stepped⟩, rfl⟩ := advanced
  exact ⟨call, List.mem_of_getElem? found, call', job', stepped, rfl⟩

/-- A run's step is one of a call that is there, and leaves everything else. -/
theorem of_proceed {j : Nat} {f : R → Option R} (proceeded : s.proceed j f = some s') :
    ∃ run ∈ s.runs, ∃ run', f run = some run' ∧
      s' = ⟨s.job, s.registrations, s.runs.set j run'⟩ := by
  simp only [proceed, Option.map_eq_some_iff, Option.bind_eq_some_iff] at proceeded
  obtain ⟨run', ⟨run, found, stepped⟩, rfl⟩ := proceeded
  exact ⟨run, List.mem_of_getElem? found, run', stepped, rfl⟩

end State

section
variable {Q P A : Type}

namespace Running

/-- The route lookup. -/
def lookUpRoute (route : Q → Except RoutingError String) : Running Q P A → Option (Running Q P A)
  | .called req =>
    match route req with
    | .error e => some (.returned (.error (.routing e)))
    | .ok id => some (.routed id)
  | _ => none

/-- The handler lookup; it may fail. -/
def lookUpHandler [Platform] (lookUp : String → Except HandlerError (Option P)) :
    Running Q P A → Option (Running Q P A)
  | .routed id =>
    match lookUp id with
    | .error e => some (.returned (.error (.handler (Platform.handlerErrorText e))))
    | .ok none => some (.returned (.error (.handlerUnavailable id)))
    | .ok (some pipeline) => some (.executing pipeline)
  | _ => none

/-- The pipeline has answered; the job answers with this. -/
def finish (result : Except JobError A) : Running Q P A → Option (Running Q P A)
  | .executing _ => some (.returned result)
  | _ => none

/-- A run between its lookups has an id that is held, and has not missed its handler. -/
structure Backed (held : String → Prop) (run : Running Q P A) : Prop where
  routed : ∀ id, run = .routed id → held id
  available : ∀ id, run ≠ .returned (.error (.handlerUnavailable id))

variable {held held' : String → Prop} {run run' : Running Q P A}

theorem Backed.mono (backed : run.Backed held) (grows : ∀ id, held id → held' id) :
    run.Backed held' :=
  ⟨fun id routed => grows id (backed.routed id routed), backed.available⟩

theorem Backed.of_called (req : Q) : (Running.called req : Running Q P A).Backed held :=
  ⟨fun _ other => (by cases other), fun _ other => (by cases other)⟩

/-- A run that has returned is past every lookup. -/
theorem Backed.of_returned {result : Except JobError A}
    (found : ∀ id, result ≠ .error (.handlerUnavailable id)) :
    (Running.returned result : Running Q P A).Backed held where
  routed := by
    intro id other
    cases other
  available := by
    intro id missed
    exact found id (Running.returned.inj missed)

/-- A route lookup that leads to ids that are held. -/
theorem Backed.lookUpRoute {route : Q → Except RoutingError String}
    (leads : ∀ req id, route req = .ok id → held id) (stepped : run.lookUpRoute route = some run') :
    run'.Backed held := by
  unfold Running.lookUpRoute at stepped
  split at stepped
  · split at stepped
    · cases stepped
      exact .of_returned fun _ missed => by cases missed
    · rename_i routes
      cases stepped
      refine ⟨fun _ same => ?_, fun _ other => (by cases other)⟩
      cases same
      exact leads _ _ routes
  · cases stepped

/-- A handler lookup that finds what is held fails or finds a pipeline. -/
theorem Backed.lookUpHandler [Platform] {lookUp : String → Except HandlerError (Option P)}
    (finds : ∀ id, held id → lookUp id ≠ .ok none) (backed : run.Backed held)
    (stepped : run.lookUpHandler lookUp = some run') : run'.Backed held := by
  unfold Running.lookUpHandler at stepped
  split at stepped
  · rename_i id
    split at stepped
    · cases stepped
      exact .of_returned fun _ missed => by cases missed
    · rename_i missing
      exact absurd missing (finds id (backed.routed id rfl))
    · cases stepped
      exact ⟨fun _ other => (by cases other), fun _ other => (by cases other)⟩
  · cases stepped

theorem Backed.finish {result : Except JobError A}
    (found : ∀ id, result ≠ .error (.handlerUnavailable id))
    (stepped : run.finish result = some run') : run'.Backed held := by
  unfold Running.finish at stepped
  split at stepped
  · cases stepped
    exact .of_returned found
  · cases stepped

end Running

section Backing
variable {J C : Type*} {s s' : State J C (Running Q P A)} {held held' : String → Prop}

/-- Every run is backed. -/
def State.Backs (held : String → Prop) (s : State J C (Running Q P A)) : Prop :=
  ∀ run ∈ s.runs, run.Backed held

/-- A registration's step keeps the ids that runs rely on. -/
theorem State.Backs.advance {i : Nat} {f : C → J → Option (C × J)} (backs : s.Backs held)
    (grows : ∀ id, held id → held' id) (advanced : s.advance i f = some s') : s'.Backs held' := by
  obtain ⟨_, _, _, _, _, rfl⟩ := of_advance advanced
  exact fun run member => (backs run member).mono grows

theorem State.Backs.proceed {j : Nat} {f : Running Q P A → Option (Running Q P A)}
    (backs : s.Backs held)
    (each : ∀ run run', run.Backed held → f run = some run' → run'.Backed held)
    (proceeded : s.proceed j f = some s') : s'.Backs held := by
  obtain ⟨run, here, run', stepped, rfl⟩ := of_proceed proceeded
  intro other member
  rcases List.mem_or_eq_of_mem_set member with before | rfl
  · exact backs other before
  · exact each run _ (backs run here) stepped

theorem State.Backs.run (backs : s.Backs held) (req : Q) :
    ({ s with runs := s.runs ++ [.called req] } : State J C (Running Q P A)).Backs held := by
  intro run member
  rcases List.mem_append.mp member with before | new
  · exact backs run before
  · rw [List.mem_singleton.mp new]
    exact .of_called req

end Backing

section Lookups
variable [Platform] {J C Act : Type*} {σ α : Type}

/-- `Job::run` of both jobs: the id is looked up, then its pipeline, and the pipeline
answers. -/
def run (routed : Except RoutingError String) (lookUp : String → Except HandlerError (Option P))
    (execute : P → Exec σ α (Except JobError A)) : Exec σ α (Except JobError A) :=
  match routed with
  | .error e => pure (.error (.routing e))
  | .ok id =>
    match lookUp id with
    | .error e => pure (.error (.handler (Platform.handlerErrorText e)))
    | .ok none => pure (.error (.handlerUnavailable id))
    | .ok (some pipeline) => execute pipeline

/-- What `run` does from where a call of it has come. -/
def Running.Continues (run : Running Q P A) (execute : P → Exec σ α (Except JobError A))
    (rest : Exec σ α (Except JobError A)) : Prop :=
  (∃ e, run = .returned (.error e) ∧ rest = pure (.error e)) ∨
    ∃ pipeline, run = .executing pipeline ∧ rest = execute pipeline

/-- Two lookups with nothing between them are those of `run`. -/
theorem lookups (M : StepMachine (State J C (Running Q P A)) Act) (s : State J C (Running Q P A))
    (call : Act) (lookUpRoute lookUpHandler : Nat → Act) (req : Q)
    (route : J → Q → Except RoutingError String)
    (lookUp : J → String → Except HandlerError (Option P))
    (calls : M.step s call = some { s with runs := s.runs ++ [.called req] })
    (routes : ∀ t j, M.step t (lookUpRoute j) = t.proceed j (Running.lookUpRoute (route t.job)))
    (looks : ∀ t j, M.step t (lookUpHandler j) = t.proceed j (Running.lookUpHandler (lookUp t.job))) :
    ∃ actions after, M.execFrom s actions = some { s with runs := s.runs ++ [after] } ∧
      ∀ execute : P → Exec σ α (Except JobError A),
        after.Continues execute (run (route s.job req) (lookUp s.job) execute) := by
  let j := s.runs.length
  cases routed : route s.job req with
  | error e =>
    refine ⟨[call, lookUpRoute j], .returned (.error (.routing e)), ?_, fun _ => .inl ⟨_, rfl, rfl⟩⟩
    simp [calls, routes, j, Running.lookUpRoute, routed]
  | ok id =>
    cases found : lookUp s.job id with
    | error e =>
      refine ⟨[call, lookUpRoute j, lookUpHandler j],
        .returned (.error (.handler (Platform.handlerErrorText e))), ?_, fun _ => .inl ⟨_, rfl, ?_⟩⟩
      · simp [calls, routes, looks, j, Running.lookUpRoute, routed, Running.lookUpHandler, found]
      · simp only [run, found]
    | ok entry =>
      cases entry with
      | none =>
        refine ⟨[call, lookUpRoute j, lookUpHandler j], .returned (.error (.handlerUnavailable id)),
          ?_, fun _ => .inl ⟨_, rfl, ?_⟩⟩
        · simp [calls, routes, looks, j, Running.lookUpRoute, routed, Running.lookUpHandler, found]
        · simp only [run, found]
      | some pipeline =>
        refine ⟨[call, lookUpRoute j, lookUpHandler j], .executing pipeline, ?_,
          fun _ => .inr ⟨_, rfl, ?_⟩⟩
        · simp [calls, routes, looks, j, Running.lookUpRoute, routed, Running.lookUpHandler, found]
        · simp only [run, found]

end Lookups

end

end EdgeBootstrap.JobCalls
