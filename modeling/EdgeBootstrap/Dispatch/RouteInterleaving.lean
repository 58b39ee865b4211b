import EdgeBootstrap.Dispatch.HttpJob
import EdgeBootstrap.Dispatch.JobCalls

/-! Registrations and requests of one HTTP job at the same time. Router, registry
and health handlers each have their own lock, so a call of `register_route` or
`run` is a few steps with anything of the other calls between them. An id enters
the registry before it enters the router and never leaves it, so a request that
was routed finds its handler. -/
namespace EdgeBootstrap.RouteInterleaving
open StepMachine DefaultHttpJob

section
variable [Platform] {σ α : Type}

/-- How far a call of `register_route` has come; the id and pattern are those its
handler gave. -/
inductive RegistrationPhase
  | named (id pattern : String)
  | recorded (id pattern : String)
  | registered (id pattern : String)
  | returned (result : Except JobRegistrationError Unit)

/-- A call of `register_route`. -/
structure Registration (α : Type) where
  route : HttpRoute α
  phase : RegistrationPhase

/-- A call of `run`. -/
abbrev Running (σ α : Type) := JobCalls.Running HttpRequest (HttpPipeline σ α) HttpResponse

namespace Registration

/-- The checks of the names, which touch no store. -/
def call (route : HttpRoute α) : Registration α :=
  match route.names with
  | .error e => ⟨route, .returned (.error e)⟩
  | .ok (id, pattern) => ⟨route, .named id pattern⟩

/-- The step under the lock of the health handlers. -/
def insertHealth (self : Registration α) (job : DefaultHttpJob σ α) :
    Option (Registration α × DefaultHttpJob σ α) :=
  match self.phase with
  | .named id pattern =>
    some ({ self with phase := .recorded id pattern },
      { job with healthHandlers := job.healthHandlers.insert id (self.route.bridged σ) })
  | _ => none

/-- The step under the registry's lock; the registry may refuse. -/
def registerHandler (behaviour : RegistryBehaviour (HttpPipeline σ α)) (self : Registration α)
    (job : DefaultHttpJob σ α) : Option (Registration α × DefaultHttpJob σ α) :=
  match self.phase with
  | .recorded id pattern =>
    match behaviour.register job.registry (self.route.pipeline σ id pattern) with
    | .error e =>
      some ({ self with
        phase := .returned (.error (.handlerRejected (Platform.handlerErrorText e))) }, job)
    | .ok registry => some ({ self with phase := .registered id pattern }, { job with registry })
  | _ => none

/-- The step under the router's lock; a refused insertion leaves the router. -/
def insertRoute (matchit : Matchit) (self : Registration α) (job : DefaultHttpJob σ α) :
    Option (Registration α × DefaultHttpJob σ α) :=
  match self.phase with
  | .registered id pattern =>
    match matchit.insertError (job.router.map Prod.fst) pattern with
    | some reason =>
      some ({ self with phase := .returned (.error (.registrationFailed pattern reason)) }, job)
    | none =>
      some ({ self with phase := .returned (.ok ()) },
        { job with router := job.router ++ [(pattern, id)] })
  | _ => none

end Registration

namespace Running

/-- The step under the router's lock. -/
def lookUpRoute (matchit : Matchit) (job : DefaultHttpJob σ α) :
    Running σ α → Option (Running σ α) :=
  JobCalls.Running.lookUpRoute fun req => job.route ⟨.infallible, matchit⟩ (pathFromUrl req.url)

/-- The step under the registry's lock; the lookup may fail. -/
def lookUpHandler (behaviour : RegistryBehaviour (HttpPipeline σ α)) (job : DefaultHttpJob σ α) :
    Running σ α → Option (Running σ α) :=
  JobCalls.Running.lookUpHandler (behaviour.get job.registry)

/-- The pipeline has answered. -/
def finish (result : Except HandlerError HttpResponse) : Running σ α → Option (Running σ α) :=
  JobCalls.Running.finish (result.mapError fun e => .handler (Platform.handlerErrorText e))

end Running

/-- The job, and every call so far. -/
abbrev State (σ α : Type) := JobCalls.State (DefaultHttpJob σ α) (Registration α) (Running σ α)

inductive Action (σ α : Type)
  | registerRoute (route : HttpRoute α)
  | insertHealth (i : Nat)
  | registerHandler (i : Nat) (behaviour : RegistryBehaviour (HttpPipeline σ α))
  | insertRoute (i : Nat)
  | run (req : HttpRequest)
  | lookUpRoute (j : Nat)
  | lookUpHandler (j : Nat) (behaviour : RegistryBehaviour (HttpPipeline σ α))
  | finish (j : Nat) (result : Except HandlerError HttpResponse)

variable (matchit : Matchit)

def step (s : State σ α) : Action σ α → Option (State σ α)
  | .registerRoute route => some { s with registrations := s.registrations ++ [.call route] }
  | .insertHealth i => s.advance i Registration.insertHealth
  | .registerHandler i behaviour => s.advance i (Registration.registerHandler behaviour)
  | .insertRoute i => s.advance i (Registration.insertRoute matchit)
  | .run req => some { s with runs := s.runs ++ [.called req] }
  | .lookUpRoute j => s.proceed j (Running.lookUpRoute matchit s.job)
  | .lookUpHandler j behaviour => s.proceed j (Running.lookUpHandler behaviour s.job)
  | .finish j result => s.proceed j (Running.finish result)

/-- A new job, and no calls yet. -/
def machine : StepMachine (State σ α) (Action σ α) where
  init := ⟨.new, [], []⟩
  step := step matchit

variable {matchit} {s s' t : State σ α} {job job' : DefaultHttpJob σ α}
  {call call' : Registration α}

section Undisturbed

/-- A registration with nothing between its steps is `register_route`. -/
theorem registerRoute_steps (deps : HttpJobDeps σ α) (s : State σ α) (route : HttpRoute α) :
    ∃ actions, (machine deps.matchit).execFrom s actions =
      some ⟨(s.job.registerRoute deps route).2,
        s.registrations ++ [⟨route, .returned (s.job.registerRoute deps route).1⟩], s.runs⟩ := by
  let i := s.registrations.length
  cases named : route.names with
  | error e =>
    refine ⟨[.registerRoute route], ?_⟩
    rw [registerRoute_of_unnamed named]
    simp [machine, step, Registration.call, named]
  | ok names =>
    obtain ⟨id, pattern⟩ := names
    cases accepts : deps.registry.registerError s.job.registry (route.pipeline σ id pattern) with
    | some e =>
      refine ⟨[.registerRoute route, .insertHealth i, .registerHandler i deps.registry], ?_⟩
      rw [registerRoute_of_rejected named accepts]
      simp [machine, step, Registration.call, named, i, Registration.insertHealth,
        Registration.registerHandler, RegistryBehaviour.register, accepts, withHealth]
    | none =>
      refine ⟨[.registerRoute route, .insertHealth i, .registerHandler i deps.registry,
        .insertRoute i], ?_⟩
      cases fresh : deps.matchit.insertError (s.job.router.map Prod.fst) pattern with
      | some reason =>
        rw [registerRoute_of_conflict named accepts fresh]
        simp [machine, step, Registration.call, named, i, Registration.insertHealth,
          Registration.registerHandler, RegistryBehaviour.register, accepts,
          Registration.insertRoute, fresh, withPipeline, withHealth]
      | none =>
        rw [registerRoute_of_accepted named accepts fresh]
        simp [machine, step, Registration.call, named, i, Registration.insertHealth,
          Registration.registerHandler, RegistryBehaviour.register, accepts,
          Registration.insertRoute, fresh, withPipeline, withHealth]

/-- `run` looks up and executes as both jobs do. -/
theorem run_eq (deps : HttpJobDeps σ α) (job : DefaultHttpJob σ α) (req : HttpRequest)
    (ctx : HandlerContext) :
    job.run deps req ctx = JobCalls.run (job.route deps (pathFromUrl req.url))
      (deps.registry.get job.registry) fun pipeline =>
        (·.mapError fun e => .handler (Platform.handlerErrorText e)) <$> pipeline.execute req ctx := by
  unfold DefaultHttpJob.run JobCalls.run
  cases job.route deps (pathFromUrl req.url) with
  | error e => rfl
  | ok id =>
    cases found : deps.registry.get job.registry id with
    | error e => simp only [found]
    | ok entry => cases entry <;> simp only [found]

/-- Two lookups with nothing between them are those of `run`. -/
theorem run_steps (deps : HttpJobDeps σ α) (s : State σ α) (req : HttpRequest) :
    ∃ actions after, (machine deps.matchit).execFrom s actions =
        some { s with runs := s.runs ++ [after] } ∧
      ∀ ctx, after.Continues (fun pipeline : HttpPipeline σ α =>
        (·.mapError fun e => .handler (Platform.handlerErrorText e)) <$> pipeline.execute req ctx)
          (s.job.run deps req ctx) := by
  obtain ⟨actions, after, ran, continues⟩ := JobCalls.lookups (machine deps.matchit) s (.run req)
    .lookUpRoute (.lookUpHandler · deps.registry) req
    (fun job req => job.route ⟨.infallible, deps.matchit⟩ (pathFromUrl req.url))
    (fun job => deps.registry.get job.registry) rfl (fun _ _ => rfl) (fun _ _ => rfl)
  refine ⟨actions, after, ran, fun ctx => ?_⟩
  rw [run_eq]
  exact continues _

end Undisturbed

/-- What a step of a registration may do: the registry keeps its ids, a router
entry is added for an id that was registered before, and a registration that
comes to its last step has its id in the registry. -/
structure Progress (call : Registration α) (job : DefaultHttpJob σ α) (call' : Registration α)
    (job' : DefaultHttpJob σ α) : Prop where
  grows : ∀ id ∈ job.registry, id ∈ job'.registry
  routed : ∀ entry ∈ job'.router, entry ∈ job.router ∨ call.phase = .registered entry.2 entry.1
  placed : ∀ id pattern, call'.phase = .registered id pattern → id ∈ job'.registry

/-- A step that writes to neither store and is not a registration. -/
theorem Progress.of_idle (registry : job'.registry = job.registry) (router : job'.router = job.router)
    (phase : ∀ id pattern, call'.phase ≠ .registered id pattern) : Progress call job call' job' where
  grows _ held := registry ▸ held
  routed _ held := .inl (router ▸ held)
  placed id pattern here := absurd here (phase id pattern)

theorem Progress.of_insertHealth (stepped : call.insertHealth job = some (call', job')) :
    Progress call job call' job' := by
  unfold Registration.insertHealth at stepped
  split at stepped
  · cases stepped
    exact .of_idle rfl rfl nofun
  · cases stepped

theorem Progress.of_registerHandler {behaviour : RegistryBehaviour (HttpPipeline σ α)}
    (stepped : call.registerHandler behaviour job = some (call', job')) :
    Progress call job call' job' := by
  unfold Registration.registerHandler at stepped
  split at stepped
  · rename_i own pattern _
    unfold RegistryBehaviour.register at stepped
    cases refuses : behaviour.registerError job.registry (call.route.pipeline σ own pattern) with
    | some e =>
      simp only [refuses] at stepped
      cases stepped
      exact .of_idle rfl rfl nofun
    | none =>
      simp only [refuses] at stepped
      cases stepped
      refine ⟨fun id held => ?_, fun _ held => .inl held, fun id _ phase => ?_⟩
      · exact Std.ExtTreeMap.mem_insert.mpr (.inr held)
      · cases phase
        exact Std.ExtTreeMap.mem_insert_self
  · cases stepped

theorem Progress.of_insertRoute {matchit : Matchit}
    (stepped : call.insertRoute matchit job = some (call', job')) : Progress call job call' job' := by
  unfold Registration.insertRoute at stepped
  split at stepped
  · rename_i own pattern phase
    cases refuses : matchit.insertError (job.router.map Prod.fst) pattern with
    | some reason =>
      simp only [refuses] at stepped
      cases stepped
      exact .of_idle rfl rfl nofun
    | none =>
      simp only [refuses] at stepped
      cases stepped
      refine ⟨fun _ held => held, fun entry held => ?_, nofun⟩
      rcases List.mem_append.mp held with before | added
      · exact .inl before
      · cases List.mem_singleton.mp added
        exact .inr phase
  · cases stepped

/-- No id without a handler: not in the router, not in a registration about to
write to the router, not in a run. -/
structure Sound (s : State σ α) : Prop where
  router : ∀ entry ∈ s.job.router, entry.2 ∈ s.job.registry
  registered : ∀ call ∈ s.registrations, ∀ id pattern, call.phase = .registered id pattern →
    id ∈ s.job.registry
  runs : s.Backs (· ∈ s.job.registry)

/-- An id the router answers with is in one of its entries. -/
theorem mem_of_route {deps : HttpJobDeps σ α} {path id : String}
    (routes : job.route deps path = .ok id) : ∃ entry ∈ job.router, entry.2 = id := by
  unfold DefaultHttpJob.route at routes
  split at routes
  · rename_i pattern _
    split at routes
    · rename_i stored found
      cases routes
      obtain ⟨before, after, split, _⟩ := List.lookup_eq_some_iff.mp found
      exact ⟨(pattern, id), by simp [split], rfl⟩
    · cases routes
  · cases routes

/-- A registration's step, with anything else going on. -/
theorem advance_spec {i : Nat}
    {f : Registration α → DefaultHttpJob σ α → Option (Registration α × DefaultHttpJob σ α)}
    (each : ∀ call job call' job', f call job = some (call', job') → Progress call job call' job')
    (advanced : s.advance i f = some s') :
    (∀ id ∈ s.job.registry, id ∈ s'.job.registry) ∧ (Sound s → Sound s') := by
  obtain ⟨call, here, call', job', stepped, rfl⟩ := JobCalls.State.of_advance advanced
  have progress := each _ _ _ _ stepped
  refine ⟨progress.grows, fun sound => ?_⟩
  constructor
  · intro entry held
    rcases progress.routed entry held with before | phase
    · exact progress.grows _ (sound.router entry before)
    · exact progress.grows _ (sound.registered call here _ _ phase)
  · intro other held id pattern phase
    rcases List.mem_or_eq_of_mem_set held with before | rfl
    · exact progress.grows _ (sound.registered other before id pattern phase)
    · exact progress.placed id pattern phase
  · exact sound.runs.advance progress.grows advanced

/-- A run's step, which leaves the job. -/
theorem proceed_spec {j : Nat} {f : Running σ α → Option (Running σ α)} (sound : Sound s)
    (each : ∀ run run', run.Backed (· ∈ s.job.registry) → f run = some run' →
      run'.Backed (· ∈ s.job.registry))
    (proceeded : s.proceed j f = some s') : s'.job = s.job ∧ Sound s' := by
  have runs := sound.runs.proceed each proceeded
  obtain ⟨_, _, _, _, rfl⟩ := JobCalls.State.of_proceed proceeded
  exact ⟨rfl, sound.router, sound.registered, runs⟩

/-- Every step keeps the registered ids and the invariant. -/
theorem step_spec {a : Action σ α} (sound : Sound s) (stepped : step matchit s a = some s') :
    (∀ id ∈ s.job.registry, id ∈ s'.job.registry) ∧ Sound s' := by
  cases a with
  | registerRoute route =>
    cases stepped
    refine ⟨fun _ held => held, sound.router, fun call held id pattern phase => ?_, sound.runs⟩
    rcases List.mem_append.mp held with before | new
    · exact sound.registered call before id pattern phase
    · rw [List.mem_singleton.mp new] at phase
      unfold Registration.call at phase
      split at phase <;> cases phase
  | insertHealth i =>
    obtain ⟨grows, keeps⟩ := advance_spec (fun _ _ _ _ stepped => .of_insertHealth stepped) stepped
    exact ⟨grows, keeps sound⟩
  | registerHandler i behaviour =>
    obtain ⟨grows, keeps⟩ := advance_spec (fun _ _ _ _ stepped => .of_registerHandler stepped) stepped
    exact ⟨grows, keeps sound⟩
  | insertRoute i =>
    obtain ⟨grows, keeps⟩ := advance_spec (fun _ _ _ _ stepped => .of_insertRoute stepped) stepped
    exact ⟨grows, keeps sound⟩
  | run req =>
    cases stepped
    exact ⟨fun _ held => held, sound.router, sound.registered, sound.runs.run req⟩
  | lookUpRoute j =>
    have leads : ∀ (req : HttpRequest) id,
        s.job.route ⟨.infallible, matchit⟩ (pathFromUrl req.url) = .ok id → id ∈ s.job.registry := by
      intro req id routes
      obtain ⟨entry, held, rfl⟩ := mem_of_route routes
      exact sound.router entry held
    obtain ⟨same, kept⟩ := proceed_spec sound (fun _ _ _ stepped => .lookUpRoute leads stepped) stepped
    exact ⟨fun id held => by rwa [same], kept⟩
  | lookUpHandler j behaviour =>
    have finds : ∀ id ∈ s.job.registry, behaviour.get s.job.registry id ≠ .ok none :=
      fun _ held => behaviour.get_ne_none held
    obtain ⟨same, kept⟩ :=
      proceed_spec sound (fun _ _ backed stepped => .lookUpHandler finds backed stepped) stepped
    exact ⟨fun id held => by rwa [same], kept⟩
  | finish j result =>
    have found : ∀ id, result.mapError (fun e => JobError.handler (Platform.handlerErrorText e)) ≠
        .error (.handlerUnavailable id) := by
      intro id missed
      cases result <;> cases missed
    obtain ⟨same, kept⟩ := proceed_spec sound (fun _ _ _ stepped => .finish found stepped) stepped
    exact ⟨fun id held => by rwa [same], kept⟩

/-- The invariant holds in every interleaving. -/
theorem sound_of_exec {actions : List (Action σ α)} (ran : (machine matchit).exec actions = some s) :
    Sound s := by
  refine (machine matchit).invariant (I := Sound) ?_
    (fun _ _ _ sound stepped => (step_spec sound stepped).2) ran
  constructor
  · simp [machine, DefaultHttpJob.new]
  · simp [machine]
  · simp [machine, JobCalls.State.Backs]

/-- What is registered stays registered. -/
theorem registered_later {later : List (Action σ α)} (sound : Sound s)
    (ran : (machine matchit).execFrom s later = some t) :
    ∀ id ∈ s.job.registry, id ∈ t.job.registry := by
  induction later generalizing s with
  | nil =>
    cases ran
    exact fun _ held => held
  | cons a later ih =>
    obtain ⟨next, stepped, rest⟩ := Option.bind_eq_some_iff.mp ran
    obtain ⟨grows, kept⟩ := step_spec sound stepped
    exact fun id held => ih kept rest id (grows id held)

/-- In every interleaving of registrations and requests, an id that the router
answers with is in the registry at that moment and at every later one, and no
request fails for want of its handler. -/
theorem no_dangling_route (behaviour : RegistryBehaviour (HttpPipeline σ α))
    (actions later : List (Action σ α)) (s t : State σ α)
    (ran : (machine matchit).exec actions = some s)
    (further : (machine matchit).execFrom s later = some t) :
    (∀ path id, s.job.route ⟨behaviour, matchit⟩ path = .ok id →
      id ∈ s.job.registry ∧ id ∈ t.job.registry) ∧
    ∀ id, .returned (.error (.handlerUnavailable id)) ∉ s.runs := by
  have sound := sound_of_exec ran
  constructor
  · intro path id routes
    obtain ⟨entry, held, rfl⟩ := mem_of_route routes
    have now := sound.router entry held
    exact ⟨now, registered_later sound further _ now⟩
  · intro id held
    exact (sound.runs _ held).available id rfl

end

section Reference

attribute [local instance] Platform.reference

/-- A request between the registry's and the router's step of a registration
finds no route; one after it finds the handler. -/
theorem no_dangling_route_overlapping :
    let actions : List (Action Unit Unit) :=
      [.registerRoute (.answering "users" "/users" 200 true), .run ⟨.get, "/users", [], none⟩,
        .insertHealth 0, .registerHandler 0 .infallible, .lookUpRoute 0, .insertRoute 0,
        .run ⟨.get, "/users", [], none⟩, .lookUpRoute 1]
    let later : List (Action Unit Unit) := [.lookUpHandler 1 .infallible]
    ∃ s t, (machine .exact).exec actions = some s ∧ (machine .exact).execFrom s later = some t ∧
      s.job.route ⟨.infallible, .exact⟩ "/users" = .ok "users" ∧
      (∀ path id, s.job.route ⟨.infallible, .exact⟩ path = .ok id →
        id ∈ s.job.registry ∧ id ∈ t.job.registry) ∧
      ∀ id, .returned (.error (.handlerUnavailable id)) ∉ s.runs := by
  intro actions later
  obtain ⟨s, t, ran, further, routes⟩ : ∃ s t, (machine .exact).exec actions = some s ∧
      (machine .exact).execFrom s later = some t ∧
      s.job.route ⟨.infallible, .exact⟩ "/users" = .ok "users" := ⟨_, _, rfl, rfl, rfl⟩
  exact ⟨s, t, ran, further, routes, no_dangling_route .infallible actions later s t ran further⟩

end Reference

end EdgeBootstrap.RouteInterleaving
