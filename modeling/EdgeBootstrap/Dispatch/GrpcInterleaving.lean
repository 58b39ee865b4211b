import EdgeBootstrap.Dispatch.GrpcJob
import EdgeBootstrap.Dispatch.JobCalls

/-! Registrations and calls of one gRPC job at the same time. `register_route`
looks an id up, records its health handler and registers its pipeline under a
lock each, and under no lock together: between its lookup and its registration
another call for the same id can pass the same lookup. What keeps a route in
place is that nobody is in that gap. -/
namespace EdgeBootstrap.GrpcInterleaving
open StepMachine DefaultGrpcJob

section
variable [Platform] {σ α : Type}

/-- How far a call of `register_route` has come, with the id its handler gave. -/
inductive RegistrationPhase
  | named (id : String)
  | cleared (id : String)
  | recorded (id : String)
  | returned (result : Except JobRegistrationError Unit)

/-- A call of `register_route`. -/
structure Registration (α : Type) where
  route : GrpcRoute α
  phase : RegistrationPhase

/-- A call of `run`. -/
abbrev Running (σ α : Type) := JobCalls.Running GrpcRequest (GrpcPipeline σ α) GrpcResponse

namespace Registration

/-- The checks of the names, which touch no store. -/
def call (route : GrpcRoute α) : Registration α :=
  match route.names with
  | .error e => ⟨route, .returned (.error e)⟩
  | .ok (id, _) => ⟨route, .named id⟩

/-- The lookup of the id; a lookup that fails counts as one that finds nothing. -/
def checkRegistered (behaviour : RegistryBehaviour (GrpcPipeline σ α)) (self : Registration α)
    (job : DefaultGrpcJob σ α) : Option (Registration α × DefaultGrpcJob σ α) :=
  match self.phase with
  | .named id =>
    if job.isRegistered behaviour id then
      some ({ self with phase := .returned (.error
        (.registrationFailed id "a route with this id is already registered")) }, job)
    else some ({ self with phase := .cleared id }, job)
  | _ => none

/-- The step under the lock of the health handlers. -/
def insertHealth (self : Registration α) (job : DefaultGrpcJob σ α) :
    Option (Registration α × DefaultGrpcJob σ α) :=
  match self.phase with
  | .cleared id =>
    some ({ self with phase := .recorded id },
      { job with healthHandlers := job.healthHandlers.insert id (self.route.bridged σ) })
  | _ => none

/-- The step under the registry's lock; the registry may refuse. -/
def registerHandler (behaviour : RegistryBehaviour (GrpcPipeline σ α)) (self : Registration α)
    (job : DefaultGrpcJob σ α) : Option (Registration α × DefaultGrpcJob σ α) :=
  match self.phase with
  | .recorded id =>
    match behaviour.register job.registry (self.route.pipeline σ id) with
    | .error e =>
      some ({ self with
        phase := .returned (.error (.handlerRejected (Platform.handlerErrorText e))) }, job)
    | .ok registry => some ({ self with phase := .returned (.ok ()) }, { job with registry })
  | _ => none

/-- The call has found its id free and has not registered it yet. -/
def Pending (id : String) (self : Registration α) : Prop :=
  self.phase = .cleared id ∨ self.phase = .recorded id

end Registration

namespace Running

/-- The route lookup under the registry's lock; one that fails matches nothing. -/
def lookUpRoute (behaviour : RegistryBehaviour (GrpcPipeline σ α)) (job : DefaultGrpcJob σ α) :
    Running σ α → Option (Running σ α) :=
  JobCalls.Running.lookUpRoute fun req => job.route behaviour req.method

/-- The handler lookup under the registry's lock; the lookup may fail. -/
def lookUpHandler (behaviour : RegistryBehaviour (GrpcPipeline σ α)) (job : DefaultGrpcJob σ α) :
    Running σ α → Option (Running σ α) :=
  JobCalls.Running.lookUpHandler (behaviour.get job.registry)

/-- The pipeline has answered. -/
def finish (result : Except HandlerError (List UInt8)) : Running σ α → Option (Running σ α) :=
  JobCalls.Running.finish (answer result)

end Running

/-- The job, and every call so far. -/
abbrev State (σ α : Type) := JobCalls.State (DefaultGrpcJob σ α) (Registration α) (Running σ α)

inductive Action (σ α : Type)
  | registerRoute (route : GrpcRoute α)
  | checkRegistered (i : Nat) (behaviour : RegistryBehaviour (GrpcPipeline σ α))
  | insertHealth (i : Nat)
  | registerHandler (i : Nat) (behaviour : RegistryBehaviour (GrpcPipeline σ α))
  | run (req : GrpcRequest)
  | lookUpRoute (j : Nat) (behaviour : RegistryBehaviour (GrpcPipeline σ α))
  | lookUpHandler (j : Nat) (behaviour : RegistryBehaviour (GrpcPipeline σ α))
  | finish (j : Nat) (result : Except HandlerError (List UInt8))

def step (s : State σ α) : Action σ α → Option (State σ α)
  | .registerRoute route => some { s with registrations := s.registrations ++ [.call route] }
  | .checkRegistered i behaviour => s.advance i (Registration.checkRegistered behaviour)
  | .insertHealth i => s.advance i Registration.insertHealth
  | .registerHandler i behaviour => s.advance i (Registration.registerHandler behaviour)
  | .run req => some { s with runs := s.runs ++ [.called req] }
  | .lookUpRoute j behaviour => s.proceed j (Running.lookUpRoute behaviour s.job)
  | .lookUpHandler j behaviour => s.proceed j (Running.lookUpHandler behaviour s.job)
  | .finish j result => s.proceed j (Running.finish result)

/-- A new job, and no calls yet. -/
def machine : StepMachine (State σ α) (Action σ α) where
  init := ⟨.new, [], []⟩
  step := step

/-- The registry answers the lookup a registration makes of its id. -/
def Action.Answers : Action σ α → Prop
  | .checkRegistered _ behaviour => ∀ entries id, behaviour.getError entries id = none
  | _ => True

variable {s s' t : State σ α} {job job' : DefaultGrpcJob σ α} {call call' : Registration α}
  {id : String}

section Undisturbed

/-- A registration with nothing between its steps is `register_route`. -/
theorem registerRoute_steps (behaviour : RegistryBehaviour (GrpcPipeline σ α)) (s : State σ α)
    (route : GrpcRoute α) :
    ∃ actions, machine.execFrom s actions =
      some ⟨(s.job.registerRoute behaviour route).2,
        s.registrations ++ [⟨route, .returned (s.job.registerRoute behaviour route).1⟩], s.runs⟩ := by
  let i := s.registrations.length
  cases named : route.names with
  | error e =>
    refine ⟨[.registerRoute route], ?_⟩
    rw [registerRoute_of_unnamed named]
    simp [machine, step, Registration.call, named]
  | ok names =>
    obtain ⟨id, pattern⟩ := names
    cases registered : s.job.isRegistered behaviour id with
    | true =>
      refine ⟨[.registerRoute route, .checkRegistered i behaviour], ?_⟩
      rw [registerRoute_of_registered named registered]
      simp [machine, step, Registration.call, named, i, Registration.checkRegistered, registered]
    | false =>
      refine ⟨[.registerRoute route, .checkRegistered i behaviour, .insertHealth i,
        .registerHandler i behaviour], ?_⟩
      cases accepts : behaviour.registerError s.job.registry (route.pipeline σ id) with
      | some e =>
        rw [registerRoute_of_rejected named registered accepts]
        simp [machine, step, Registration.call, named, i, Registration.checkRegistered, registered,
          Registration.insertHealth, Registration.registerHandler, RegistryBehaviour.register,
          accepts, withHealth]
      | none =>
        rw [registerRoute_of_accepted named registered accepts]
        simp [machine, step, Registration.call, named, i, Registration.checkRegistered, registered,
          Registration.insertHealth, Registration.registerHandler, RegistryBehaviour.register,
          accepts, withHealth]

/-- `run` looks up and executes as both jobs do. -/
theorem run_eq (behaviour : RegistryBehaviour (GrpcPipeline σ α)) (job : DefaultGrpcJob σ α)
    (req : GrpcRequest) (ctx : HandlerContext) :
    job.run behaviour req ctx = JobCalls.run (job.route behaviour req.method)
      (behaviour.get job.registry) fun pipeline => answer <$> pipeline.execute req.body ctx := by
  unfold DefaultGrpcJob.run JobCalls.run
  cases job.route behaviour req.method with
  | error e => rfl
  | ok id =>
    cases found : behaviour.get job.registry id with
    | error e => simp only [found]
    | ok entry => cases entry <;> simp only [found]

/-- Two lookups with nothing between them are those of `run`. -/
theorem run_steps (behaviour : RegistryBehaviour (GrpcPipeline σ α)) (s : State σ α)
    (req : GrpcRequest) :
    ∃ actions after, machine.execFrom s actions = some { s with runs := s.runs ++ [after] } ∧
      ∀ ctx, after.Continues (fun pipeline : GrpcPipeline σ α =>
        answer <$> pipeline.execute req.body ctx) (s.job.run behaviour req ctx) := by
  obtain ⟨actions, after, ran, continues⟩ := JobCalls.lookups machine s (.run req)
    (.lookUpRoute · behaviour) (.lookUpHandler · behaviour) req
    (fun job req => job.route behaviour req.method) (fun job => behaviour.get job.registry)
    rfl (fun _ _ => rfl) (fun _ _ => rfl)
  refine ⟨actions, after, ran, fun ctx => ?_⟩
  rw [run_eq]
  exact continues _

end Undisturbed

/-- What a step of a registration does to the registry: nothing, or the
registration it came for. -/
structure Progress (call : Registration α) (job : DefaultGrpcJob σ α) (call' : Registration α)
    (job' : DefaultGrpcJob σ α) : Prop where
  route : call'.route = call.route
  registry : job'.registry = job.registry ∨ ∃ id, call.phase = .recorded id ∧
    job'.registry = job.registry.insert id (call.route.pipeline σ id)

/-- Past the lookup a call for an id that is taken was past it before. -/
def Late (call : Registration α) (job : DefaultGrpcJob σ α) (call' : Registration α) : Prop :=
  ∀ id ∈ job.registry, call'.Pending id → call.Pending id

theorem Progress.of_checkRegistered {behaviour : RegistryBehaviour (GrpcPipeline σ α)}
    (stepped : call.checkRegistered behaviour job = some (call', job')) :
    Progress call job call' job' := by
  unfold Registration.checkRegistered at stepped
  split at stepped
  · split at stepped
    · cases stepped
      exact ⟨rfl, .inl rfl⟩
    · cases stepped
      exact ⟨rfl, .inl rfl⟩
  · cases stepped

/-- A lookup that answers lets nobody past who is too late. -/
theorem Late.of_checkRegistered {behaviour : RegistryBehaviour (GrpcPipeline σ α)}
    (answers : ∀ entries id, behaviour.getError entries id = none)
    (stepped : call.checkRegistered behaviour job = some (call', job')) : Late call job call' := by
  unfold Registration.checkRegistered at stepped
  split at stepped
  · rename_i own _
    split at stepped
    · cases stepped
      rintro id _ (phase | phase) <;> cases phase
    · rename_i free
      cases stepped
      rintro id held (phase | phase)
      · cases phase
        rw [Std.ExtTreeMap.mem_iff_isSome_getElem?] at held
        simp [isRegistered, RegistryBehaviour.get, answers, held] at free
      · cases phase
  · cases stepped

theorem Progress.of_insertHealth (stepped : call.insertHealth job = some (call', job')) :
    Progress call job call' job' ∧ Late call job call' := by
  unfold Registration.insertHealth at stepped
  split at stepped
  · rename_i own phase
    cases stepped
    refine ⟨⟨rfl, .inl rfl⟩, ?_⟩
    rintro id _ (other | recorded)
    · cases other
    · cases recorded
      exact .inl phase
  · cases stepped

theorem Progress.of_registerHandler {behaviour : RegistryBehaviour (GrpcPipeline σ α)}
    (stepped : call.registerHandler behaviour job = some (call', job')) :
    Progress call job call' job' ∧ Late call job call' := by
  unfold Registration.registerHandler at stepped
  split at stepped
  · rename_i own phase
    unfold RegistryBehaviour.register at stepped
    cases refuses : behaviour.registerError job.registry (call.route.pipeline σ own) with
    | some e =>
      simp only [refuses] at stepped
      cases stepped
      refine ⟨⟨rfl, .inl rfl⟩, ?_⟩
      rintro id _ (other | other) <;> cases other
    | none =>
      simp only [refuses] at stepped
      cases stepped
      refine ⟨⟨rfl, .inr ⟨own, phase, rfl⟩⟩, ?_⟩
      rintro id _ (other | other) <;> cases other
  · cases stepped

theorem mem_of_executor {handler : ErasedHandler σ α (List UInt8) (List UInt8)}
    (stored : job.executor .infallible id = some handler) : id ∈ job.registry := by
  rw [executor_infallible] at stored
  obtain ⟨pipeline, held, _⟩ := Option.map_eq_some_iff.mp stored
  rw [Std.ExtTreeMap.mem_iff_isSome_getElem?, held]
  rfl

/-- The id has this handler, and whoever may still register it brings the same. -/
structure Frozen (id : String) (handler : ErasedHandler σ α (List UInt8) (List UInt8))
    (s : State σ α) : Prop where
  stored : s.job.executor .infallible id = some handler
  pending : ∀ call ∈ s.registrations, call.Pending id → call.route.bridged σ = handler

variable {handler : ErasedHandler σ α (List UInt8) (List UInt8)}

/-- A registration's step leaves a frozen id frozen. -/
theorem Frozen.advance {i : Nat}
    {f : Registration α → DefaultGrpcJob σ α → Option (Registration α × DefaultGrpcJob σ α)}
    (frozen : Frozen id handler s)
    (each : ∀ call call' job', f call s.job = some (call', job') →
      Progress call s.job call' job' ∧ Late call s.job call')
    (advanced : s.advance i f = some s') : Frozen id handler s' := by
  obtain ⟨call, here, call', job', stepped, rfl⟩ := JobCalls.State.of_advance advanced
  obtain ⟨progress, late⟩ := each _ _ _ stepped
  constructor
  · rcases progress.registry with same | ⟨own, phase, inserted⟩
    · rw [executor_infallible, same, ← executor_infallible]
      exact frozen.stored
    · rw [executor_infallible, inserted, Std.ExtTreeMap.getElem?_insert]
      split
      · rename_i same
        cases Std.LawfulEqCmp.compare_eq_iff_eq.mp same
        exact congrArg some (frozen.pending call here (.inr phase))
      · rw [← executor_infallible]
        exact frozen.stored
  · intro other held pending
    rcases List.mem_or_eq_of_mem_set held with before | rfl
    · exact frozen.pending other before pending
    · rw [progress.route]
      exact frozen.pending call here (late id (mem_of_executor frozen.stored) pending)

/-- A run's step leaves everything but the runs. -/
theorem Frozen.proceed {j : Nat} {f : Running σ α → Option (Running σ α)}
    (frozen : Frozen id handler s) (proceeded : s.proceed j f = some s') :
    Frozen id handler s' := by
  obtain ⟨_, _, _, _, rfl⟩ := JobCalls.State.of_proceed proceeded
  exact ⟨frozen.stored, frozen.pending⟩

/-- A step leaves a frozen id frozen, as long as lookups answer. -/
theorem Frozen.step {a : Action σ α} (frozen : Frozen id handler s) (answers : a.Answers)
    (stepped : step s a = some s') : Frozen id handler s' := by
  cases a with
  | registerRoute route =>
    cases stepped
    refine ⟨frozen.stored, fun call held pending => ?_⟩
    rcases List.mem_append.mp held with before | new
    · exact frozen.pending call before pending
    · rw [List.mem_singleton.mp new] at pending
      unfold Registration.call at pending
      split at pending <;> rcases pending with phase | phase <;> cases phase
  | checkRegistered i behaviour =>
    exact frozen.advance (fun _ _ _ stepped => ⟨.of_checkRegistered stepped,
      .of_checkRegistered answers stepped⟩) stepped
  | insertHealth i =>
    exact frozen.advance (fun _ _ _ stepped => Progress.of_insertHealth stepped) stepped
  | registerHandler i behaviour =>
    exact frozen.advance (fun _ _ _ stepped => Progress.of_registerHandler stepped) stepped
  | run req =>
    cases stepped
    exact ⟨frozen.stored, frozen.pending⟩
  | lookUpRoute j behaviour | lookUpHandler j behaviour | finish j result =>
    exact frozen.proceed stepped

/-- A frozen id stays frozen. -/
theorem Frozen.later {later : List (Action σ α)} (frozen : Frozen id handler s)
    (answers : ∀ a ∈ later, a.Answers) (ran : machine.execFrom s later = some t) :
    Frozen id handler t := by
  induction later generalizing s with
  | nil =>
    cases ran
    exact frozen
  | cons a later ih =>
    obtain ⟨next, stepped, rest⟩ := Option.bind_eq_some_iff.mp ran
    exact ih (frozen.step (answers a List.mem_cons_self) stepped)
      (fun b member => answers b (List.mem_cons_of_mem _ member)) rest

/-- A registration that has recorded its health handler can register next. -/
theorem registers {i : Nat} {route : GrpcRoute α}
    (found : s.registrations[i]? = some ⟨route, .recorded id⟩) :
    ∃ t, machine.execFrom s [.registerHandler i .infallible] = some t ∧
      t.job.executor .infallible id = some (route.bridged σ) := by
  refine ⟨{ s with
    job := { s.job with registry := s.job.registry.insert id (route.pipeline σ id) }
    registrations := s.registrations.set i ⟨route, .returned (.ok ())⟩ }, ?_, ?_⟩
  · simp [machine, step, JobCalls.State.advance, found, Registration.registerHandler,
      RegistryBehaviour.register, RegistryBehaviour.infallible]
  · rw [executor_infallible, Std.ExtTreeMap.getElem?_insert_self]
    rfl

/-- Whoever is past its lookup can register its route next. -/
theorem overtakes {i : Nat} (found : s.registrations[i]? = some call) (pending : call.Pending id) :
    ∃ later t, (∀ a ∈ later, a.Answers) ∧ machine.execFrom s later = some t ∧
      t.job.executor .infallible id = some (call.route.bridged σ) := by
  obtain ⟨inside, _⟩ := List.getElem?_eq_some_iff.mp found
  obtain ⟨route, phase⟩ := call
  rcases pending with rfl | rfl
  · let recorded : State σ α := { s with
      job := { s.job with healthHandlers := s.job.healthHandlers.insert id (route.bridged σ) }
      registrations := s.registrations.set i ⟨route, .recorded id⟩ }
    have stepped : step s (.insertHealth i) = some recorded := by
      simp [step, JobCalls.State.advance, found, Registration.insertHealth, recorded]
    obtain ⟨t, ran, stored⟩ := registers (s := recorded) (List.getElem?_set_self inside)
    refine ⟨[.insertHealth i, .registerHandler i .infallible], t, by simp [Action.Answers], ?_, stored⟩
    rw [execFrom_cons, show machine.step s (.insertHealth i) = some recorded from stepped]
    exact ran
  · obtain ⟨t, ran, stored⟩ := registers found
    exact ⟨[.registerHandler i .infallible], t, by simp [Action.Answers], ran, stored⟩

/-- An id is in the registry when a lookup of it finds something. -/
theorem mem_of_isRegistered {behaviour : RegistryBehaviour (GrpcPipeline σ α)}
    (registered : job.isRegistered behaviour id = true) : id ∈ job.registry := by
  unfold isRegistered RegistryBehaviour.get at registered
  rw [Std.ExtTreeMap.mem_iff_isSome_getElem?]
  cases refuses : behaviour.getError job.registry id with
  | some e => simp [refuses] at registered
  | none => simpa [refuses] using registered

/-- A registration's step keeps what is in the registry. -/
theorem Progress.grows (progress : Progress call job call' job') :
    ∀ id ∈ job.registry, id ∈ job'.registry := by
  intro id held
  rcases progress.registry with same | ⟨own, _, inserted⟩
  · rwa [same]
  · rw [inserted]
    exact Std.ExtTreeMap.mem_insert.mpr (.inr held)

/-- Every run is backed by the registry. -/
def Sound (s : State σ α) : Prop := s.Backs (· ∈ s.job.registry)

theorem Sound.advance {i : Nat}
    {f : Registration α → DefaultGrpcJob σ α → Option (Registration α × DefaultGrpcJob σ α)}
    (sound : Sound s)
    (each : ∀ call call' job', f call s.job = some (call', job') → Progress call s.job call' job')
    (advanced : s.advance i f = some s') : Sound s' := by
  have backs := advanced
  obtain ⟨_, _, _, _, stepped, rfl⟩ := JobCalls.State.of_advance advanced
  exact JobCalls.State.Backs.advance sound (each _ _ _ stepped).grows backs

theorem Sound.proceed {j : Nat} {f : Running σ α → Option (Running σ α)} (sound : Sound s)
    (each : ∀ run run', run.Backed (· ∈ s.job.registry) → f run = some run' →
      run'.Backed (· ∈ s.job.registry))
    (proceeded : s.proceed j f = some s') : Sound s' := by
  have runs := JobCalls.State.Backs.proceed sound each proceeded
  obtain ⟨_, _, _, _, rfl⟩ := JobCalls.State.of_proceed proceeded
  exact runs

theorem Sound.step {a : Action σ α} (sound : Sound s) (stepped : step s a = some s') :
    Sound s' := by
  cases a with
  | registerRoute route =>
    cases stepped
    exact sound
  | checkRegistered i behaviour =>
    exact sound.advance (fun _ _ _ stepped => .of_checkRegistered stepped) stepped
  | insertHealth i =>
    exact sound.advance (fun _ _ _ stepped => (Progress.of_insertHealth stepped).1) stepped
  | registerHandler i behaviour =>
    exact sound.advance (fun _ _ _ stepped => (Progress.of_registerHandler stepped).1) stepped
  | run req =>
    cases stepped
    exact JobCalls.State.Backs.run sound req
  | lookUpRoute j behaviour =>
    have leads : ∀ (req : GrpcRequest) id, s.job.route behaviour req.method = .ok id →
        id ∈ s.job.registry := by
      intro req id routes
      unfold DefaultGrpcJob.route at routes
      split at routes
      · rename_i registered
        cases routes
        exact mem_of_isRegistered registered
      · cases routes
    exact sound.proceed (fun _ _ _ stepped => .lookUpRoute leads stepped) stepped
  | lookUpHandler j behaviour =>
    have finds : ∀ id ∈ s.job.registry, behaviour.get s.job.registry id ≠ .ok none :=
      fun _ held => behaviour.get_ne_none held
    exact sound.proceed (fun _ _ backed stepped => .lookUpHandler finds backed stepped) stepped
  | finish j result =>
    have found : ∀ id, answer result ≠ .error (.handlerUnavailable id) := by
      intro id missed
      cases result <;> cases missed
    exact sound.proceed (fun _ _ _ stepped => .finish found stepped) stepped

/-- In every interleaving, no call misses the handler it was routed to; and the
handler that answers a method answers it for ever, whatever is registered and
called later, exactly when no registration that is past its lookup of the id and
short of its write brings another handler. -/
theorem route_kept_iff (actions : List (Action σ α)) (s : State σ α)
    (ran : machine.exec actions = some s) :
    (∀ id, .returned (.error (.handlerUnavailable id)) ∉ s.runs) ∧
    ∀ id handler, s.job.executor .infallible id = some handler →
      ((∀ later t, (∀ a ∈ later, a.Answers) → machine.execFrom s later = some t →
        t.job.executor .infallible id = some handler) ↔
      ∀ call ∈ s.registrations, call.Pending id → call.route.bridged σ = handler) := by
  constructor
  · intro id held
    have sound : Sound s := machine.invariant (I := Sound)
      (by simp [Sound, machine, JobCalls.State.Backs])
      (fun _ _ _ sound stepped => sound.step stepped) ran
    exact (sound _ held).available id rfl
  · intro id handler stored
    constructor
    · intro kept call held pending
      obtain ⟨i, found⟩ := List.getElem?_of_mem held
      obtain ⟨later, t, answers, further, overtaken⟩ := overtakes found pending
      exact Option.some.inj (overtaken.symm.trans (kept later t answers further))
    · intro pending later t answers further
      exact (Frozen.later ⟨stored, pending⟩ answers further).stored

end

section Reference

attribute [local instance] Platform.reference

/-- A route of the given id whose handler answers with one byte. -/
def byteRoute (id : String) (byte : UInt8) : GrpcRoute Unit where
  Req := Unit
  Resp := Unit
  handler := ⟨.ok id, .ok "/", fun _ _ app => (.ok (), app), .ok true⟩
  decode _ := .ok ()
  encode _ := [byte]

/-- Two registrations of one id that are both past the lookup: both return `Ok`,
and the second takes the first one's calls. -/
theorem route_kept_iff_overlapping :
    let actions : List (Action Unit Unit) :=
      [.registerRoute (byteRoute "users.Get" 1), .registerRoute (byteRoute "users.Get" 2),
        .checkRegistered 0 .infallible, .checkRegistered 1 .infallible, .insertHealth 0,
        .registerHandler 0 .infallible, .run ⟨"users.Get", [], ⟨[]⟩⟩, .lookUpRoute 0 .infallible]
    ∃ s handler, machine.exec actions = some s ∧
      s.job.executor .infallible "users.Get" = some handler ∧
      ((∀ later t, (∀ a ∈ later, a.Answers) → machine.execFrom s later = some t →
        t.job.executor .infallible "users.Get" = some handler) ↔
      ∀ call ∈ s.registrations, call.Pending "users.Get" → call.route.bridged Unit = handler) := by
  intro actions
  obtain ⟨s, handler, ran, stored⟩ : ∃ s handler, machine.exec actions = some s ∧
      s.job.executor .infallible "users.Get" = some handler :=
    ⟨_, (byteRoute "users.Get" 1).bridged Unit, rfl, rfl⟩
  exact ⟨s, handler, ran, stored, (route_kept_iff actions s ran).2 "users.Get" handler stored⟩

end Reference

end EdgeBootstrap.GrpcInterleaving
