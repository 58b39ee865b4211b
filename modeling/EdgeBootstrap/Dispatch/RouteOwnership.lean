import EdgeBootstrap.Dispatch.HttpJob

/-! Which handler runs for a path of the HTTP job. The router keeps the id of the
route that added a pattern for good, while the registry follows the last call
that claimed that id, so a route is served by whoever claimed its id last. -/
namespace EdgeBootstrap

section
variable [Platform] {σ α : Type}

/-- The route passes the checks of its names and carries this id. -/
def HttpRoute.claims (id : String) (route : HttpRoute α) : Bool :=
  match route.names with
  | .ok (own, _) => own == id
  | .error _ => false

/-- The last of the routes that claim this id. -/
def lastClaim (id : String) (routes : List (HttpRoute α)) : Option (HttpRoute α) :=
  (routes.filter (HttpRoute.claims id)).getLast?

theorem lastClaim_snoc (id : String) (routes : List (HttpRoute α)) (route : HttpRoute α) :
    lastClaim id (routes ++ [route]) = if route.claims id then some route else lastClaim id routes := by
  by_cases claims : route.claims id
  · simp [lastClaim, List.filter_append, claims]
  · simp [lastClaim, List.filter_append, claims]

/-- A registry that accepts every registration. -/
def HttpJobDeps.overwriting (matchit : Matchit) : HttpJobDeps σ α := ⟨.infallible, matchit⟩

namespace DefaultHttpJob

/-- The route's own handler is executed for the request, between the route's own
decode and encode. -/
structure Serves (deps : HttpJobDeps σ α) (job : DefaultHttpJob σ α) (req : HttpRequest)
    (route : HttpRoute α) : Prop where
  executes : job.executor deps req = some (route.bridged σ)
  answers : ∀ id, route.handler.id = .ok id → ∀ ctx,
    route.Answers id req ctx (job.run deps req ctx)

theorem serves_iff {deps : HttpJobDeps σ α} {job : DefaultHttpJob σ α} {req : HttpRequest}
    {route : HttpRoute α} :
    job.Serves deps req route ↔ job.executor deps req = some (route.bridged σ) := by
  constructor
  · exact Serves.executes
  · intro executes
    refine ⟨executes, fun id own ctx => ?_⟩
    rw [run_of_executor executes]
    exact HttpRoute.bridged_answers own req ctx

section Histories
variable {matchit : Matchit} {job : DefaultHttpJob σ α} {route : HttpRoute α} {id pattern : String}

/-- One call replaces the registry entry of the id it claims, and no other. -/
private theorem stage_after_call :
    ((job.registerRoute (.overwriting matchit) route).2.registry[id]?).map Pipeline.stage =
      if route.claims id then some (route.bridged σ) else (job.registry[id]?).map Pipeline.stage := by
  cases named : route.names with
  | error e => simp [registerRoute_of_unnamed named, HttpRoute.claims, named]
  | ok names =>
    obtain ⟨own, pattern⟩ := names
    have replaced : (job.registerRoute (.overwriting matchit) route).2.registry =
        job.registry.insert own (route.pipeline σ own pattern) := by
      cases fresh : matchit.insertError (job.router.map Prod.fst) pattern with
      | some reason => rw [registerRoute_of_conflict named rfl fresh]; rfl
      | none => rw [registerRoute_of_accepted named rfl fresh]; rfl
    rw [replaced, Std.ExtTreeMap.getElem?_insert]
    by_cases same : own = id
    · simp [HttpRoute.claims, named, same, HttpRoute.pipeline]
    · simp [HttpRoute.claims, named, same]

/-- After any calls the entry of an id is of the last call that claimed it. -/
private theorem stage_after_calls (routes : List (HttpRoute α)) :
    ((job.registerAll (.overwriting matchit) routes).registry[id]?).map Pipeline.stage =
      ((lastClaim id routes).map (HttpRoute.bridged σ)).or
        ((job.registry[id]?).map Pipeline.stage) := by
  induction routes using List.reverseRecOn with
  | nil => rfl
  | append_singleton routes route ih =>
    rw [registerAll_snoc, stage_after_call, lastClaim_snoc]
    by_cases claims : route.claims id
    · simp [claims]
    · rw [if_neg claims, if_neg claims, ih]

/-- The router never forgets the id stored for a pattern. -/
private theorem lookup_after_call {deps : HttpJobDeps σ α}
    (held : job.router.lookup pattern = some id) :
    (job.registerRoute deps route).2.router.lookup pattern = some id := by
  cases named : route.names with
  | error e => rwa [registerRoute_of_unnamed named]
  | ok names =>
    obtain ⟨own, added⟩ := names
    cases accepts : deps.registry.registerError job.registry (route.pipeline σ own added) with
    | some e => rwa [registerRoute_of_rejected named accepts]
    | none =>
      cases fresh : deps.matchit.insertError (job.router.map Prod.fst) added with
      | some reason => rwa [registerRoute_of_conflict named accepts fresh]
      | none =>
        rw [registerRoute_of_accepted named accepts fresh]
        simp [List.lookup_append, held]

private theorem lookup_after_calls {deps : HttpJobDeps σ α} (routes : List (HttpRoute α))
    (held : job.router.lookup pattern = some id) :
    (job.registerAll deps routes).router.lookup pattern = some id := by
  induction routes generalizing job with
  | nil => exact held
  | cons route routes ih => exact ih (lookup_after_call held)

/-- An accepted call stores its id for its pattern. -/
private theorem lookup_of_accepted {deps : HttpJobDeps σ α} (named : route.names = .ok (id, pattern))
    (accepted : (job.registerRoute deps route).1 = .ok ()) :
    (job.registerRoute deps route).2.router.lookup pattern = some id := by
  obtain ⟨own, added, names, fresh, stored⟩ := stored_of_accepted accepted
  cases named.symm.trans names
  have new : job.router.lookup pattern = none := by
    rw [List.lookup_eq_none_iff]
    intro entry member
    have absent := deps.matchit.insert_fresh _ _ fresh
    rw [bne_iff_ne]
    rintro rfl
    exact absent (List.mem_map_of_mem member)
  rw [stored]
  simp [List.lookup_append, new]

/-- A path that resolves to the pattern of an accepted call is executed by the
last of the later calls that claimed its id, or else by its own handler. -/
theorem executor_of_resolved {later : List (HttpRoute α)} {req : HttpRequest}
    (named : route.names = .ok (id, pattern))
    (accepted : (job.registerRoute (.overwriting matchit) route).1 = .ok ())
    (resolves : matchit.resolve
      (((job.registerAll (.overwriting matchit) (route :: later)).router).map Prod.fst)
      (pathFromUrl req.url) = some pattern) :
    (job.registerAll (.overwriting matchit) (route :: later)).executor (.overwriting matchit) req =
      some (((lastClaim id later).getD route).bridged σ) := by
  have stored : (job.registerAll (.overwriting matchit) (route :: later)).router.lookup pattern =
      some id := lookup_after_calls later (lookup_of_accepted named accepted)
  have routed : (job.registerAll (.overwriting matchit) (route :: later)).route
      (.overwriting matchit) (pathFromUrl req.url) = .ok id := by
    unfold DefaultHttpJob.route
    simp only [show (HttpJobDeps.overwriting matchit : HttpJobDeps σ α).matchit = matchit from rfl,
      resolves, stored]
  have own : route.claims id = true := by simp [HttpRoute.claims, named]
  have entry : ((job.registerAll (.overwriting matchit) (route :: later)).registry[id]?).map
      Pipeline.stage = some (((lastClaim id later).getD route).bridged σ) := by
    rw [show job.registerAll (.overwriting matchit) (route :: later) =
      (job.registerRoute (.overwriting matchit) route).2.registerAll (.overwriting matchit) later
      from rfl, stage_after_calls, stage_after_call, if_pos own]
    cases lastClaim id later <;> rfl
  obtain ⟨pipeline, found, stage⟩ := Option.map_eq_some_iff.mp entry
  unfold executor
  simp only [routed]
  have got : (HttpJobDeps.overwriting matchit : HttpJobDeps σ α).registry.get
      (job.registerAll (.overwriting matchit) (route :: later)).registry id =
      .ok (some pipeline) := congrArg Except.ok found
  simp only [got, stage]

end Histories

end DefaultHttpJob

/-- Whatever is registered before and after, a request whose path resolves to the
pattern of an accepted route is executed by that route exactly when the last
later call that claimed its id, if there was one, registered the same handler
with the same decode and encode. -/
theorem route_serves_iff (matchit : Matchit) (job : DefaultHttpJob σ α) (route : HttpRoute α)
    (later : List (HttpRoute α)) (id pattern : String) (req : HttpRequest)
    (named : route.names = .ok (id, pattern))
    (accepted : (job.registerRoute (.overwriting matchit) route).1 = .ok ())
    (resolves : matchit.resolve
      ((job.registerAll (.overwriting matchit) (route :: later)).router.map Prod.fst)
      (DefaultHttpJob.pathFromUrl req.url) = some pattern) :
    (job.registerAll (.overwriting matchit) (route :: later)).Serves (.overwriting matchit) req
        route ↔
      ∀ last, lastClaim id later = some last → last.bridged σ = route.bridged σ := by
  rw [DefaultHttpJob.serves_iff, DefaultHttpJob.executor_of_resolved named accepted resolves,
    Option.some.injEq]
  cases lastClaim id later with
  | none => simp
  | some last => simp

end

section
attribute [local instance] Platform.reference

/-- A later route under another id leaves the first one served, even where it
is refused for using its pattern. -/
theorem route_serves_iff_other_id :
    (DefaultHttpJob.new.registerAll (.overwriting .exact)
      [.answering "users" "/users" 200 true, .answering "people" "/users" 404 true] :
        DefaultHttpJob Unit Unit).Serves (.overwriting .exact) ⟨.get, "/users", [], none⟩
      (.answering "users" "/users" 200 true) :=
  (route_serves_iff .exact .new (.answering "users" "/users" 200 true)
    [.answering "people" "/users" 404 true] "users" "/users" ⟨.get, "/users", [], none⟩
    rfl rfl (by decide)).mpr (by intro last claimed; cases claimed)

/-- Two accepted routes of one id: the first one's requests go to the second. -/
theorem second_route_hijacks_first :
    let deps : HttpJobDeps Unit Unit := .overwriting .exact
    let first : HttpRoute Unit := .answering "users" "/users" 200 true
    let second : HttpRoute Unit := .answering "users" "/people" 404 true
    let one := (DefaultHttpJob.new.registerRoute deps first).2
    let both := (one.registerRoute deps second).2
    (DefaultHttpJob.new.registerRoute deps first).1 = .ok () ∧
      (one.registerRoute deps second).1 = .ok () ∧
      deps.matchit.resolve (both.router.map Prod.fst) "/users" = some "/users" ∧
      ∀ ctx world, (both.run deps ⟨.get, "/users", [], none⟩ ctx).value world =
        .ok (.new 404 []) := by
  have executes : (DefaultHttpJob.new.registerAll (.overwriting .exact)
      [.answering "users" "/users" 200 true, .answering "users" "/people" 404 true] :
        DefaultHttpJob Unit Unit).executor (.overwriting .exact) ⟨.get, "/users", [], none⟩ =
      some ((HttpRoute.answering "users" "/people" 404 true).bridged Unit) := by
    have named : (HttpRoute.answering "users" "/users" 200 true : HttpRoute Unit).names =
        .ok ("users", "/users") := rfl
    exact DefaultHttpJob.executor_of_resolved named rfl (by decide)
  refine ⟨rfl, rfl, by decide, fun ctx world => ?_⟩
  have answers := DefaultHttpJob.run_of_executor executes ctx
  exact congrArg (Traced.value · world) answers

end

end EdgeBootstrap
