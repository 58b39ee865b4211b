import EdgeBootstrap.Dispatch.GrpcReference
import EdgeBootstrap.Dispatch.RouteOwnership
import EdgeBootstrap.Rust.Uri

/-! The health of a job against the handlers its requests reach. After
registrations that were all accepted, the handlers kept for health are those the
registry holds, id by id; a request reaches no other, and it reaches each one
whose id some path leads to. -/
namespace EdgeBootstrap

section
variable [Platform] {σ α Req Resp : Type}

/-- The check of one handler, as a job's loop takes it. -/
def ErasedHandler.reportsHealthy (h : ErasedHandler σ α Req Resp) : Bool :=
  match h.healthCheck with
  | .ok healthy => healthy
  | .error _ => false

/-- The registry finds what it holds. -/
def RegistryBehaviour.Finds {P : Type} (behaviour : RegistryBehaviour P) : Prop :=
  ∀ entries id, behaviour.getError entries id = none

section Loop
variable {handlers : Std.ExtTreeMap String (ErasedHandler σ α Req Resp)}

/-- The loop over the handlers answers alike in any order. -/
theorem allHealthy_of_perm {order : List (ErasedHandler σ α Req Resp)}
    (perm : order.Perm (handlers.toList.map Prod.snd)) :
    order.all ErasedHandler.reportsHealthy = allHealthy handlers := by
  rw [perm.all_eq, List.all_map]
  rfl

theorem allHealthy_iff :
    allHealthy handlers = true ↔
      ∀ (id : String) (h : ErasedHandler σ α Req Resp), handlers[id]? = some h →
        h.healthCheck = .ok true := by
  rw [← Bool.not_eq_false, allHealthy_eq_false_iff]
  simp only [not_exists, not_and, ErasedHandler.Sick, ne_eq, not_not]

end Loop

namespace DefaultHttpJob
variable {deps : HttpJobDeps σ α} {job : DefaultHttpJob σ α} {routes : List (HttpRoute α)}
  {route : HttpRoute α} {id : String}

/-- Each of the calls returned `Ok`, on a new job. -/
def AllAccepted (deps : HttpJobDeps σ α) (routes : List (HttpRoute α)) : Prop :=
  ∀ earlier route later, routes = earlier ++ route :: later →
    ((new.registerAll deps earlier).registerRoute deps route).1 = .ok ()

/-- The handlers the job keeps for health, and those it dispatches to, are of the
last calls for their ids. -/
structure HoldsLast (job : DefaultHttpJob σ α) (routes : List (HttpRoute α)) : Prop where
  health : ∀ id : String, job.healthHandlers[id]? = (lastClaim id routes).map (HttpRoute.bridged σ)
  dispatch : ∀ id : String, (job.registry[id]?).map Pipeline.stage =
    (lastClaim id routes).map (HttpRoute.bridged σ)

/-- An accepted call replaces both entries of its id. -/
theorem HoldsLast.snoc (holds : HoldsLast job routes)
    (accepted : (job.registerRoute deps route).1 = .ok ()) :
    HoldsLast (job.registerRoute deps route).2 (routes ++ [route]) := by
  obtain ⟨own, pattern, named, _, stored⟩ := stored_of_accepted accepted
  have claims (id : String) : route.claims id = (own == id) := by
    simp [HttpRoute.claims, named]
  rw [stored]
  constructor
  · intro id
    rw [lastClaim_snoc, claims]
    simp only [withPipeline, withHealth, Std.ExtTreeMap.getElem?_insert, holds.health]
    by_cases same : own = id <;> simp [same]
  · intro id
    rw [lastClaim_snoc, claims]
    simp only [withPipeline, Std.ExtTreeMap.getElem?_insert]
    by_cases same : own = id
    · simp [same, HttpRoute.pipeline]
    · simpa [same] using holds.dispatch id

theorem holdsLast_of_allAccepted (accepted : AllAccepted deps routes) :
    HoldsLast ((new : DefaultHttpJob σ α).registerAll deps routes) routes := by
  induction routes using List.reverseRecOn with
  | nil => exact ⟨fun _ => rfl, fun _ => rfl⟩
  | append_singleton routes route ih =>
    rw [registerAll_snoc]
    refine (ih fun earlier route' later split => ?_).snoc (accepted routes route [] rfl)
    exact accepted earlier route' (later ++ [route]) (by simp [split])

/-- A request whose path leads to an id is executed by the handler of the last
call for it. -/
theorem executor_of_route {req : HttpRequest} (finds : deps.registry.Finds)
    (holds : HoldsLast job routes) (routed : job.route deps (pathFromUrl req.url) = .ok id) :
    job.executor deps req = (lastClaim id routes).map (HttpRoute.bridged σ) := by
  unfold executor
  simp only [routed, RegistryBehaviour.get, finds job.registry id]
  rw [← holds.dispatch]
  cases job.registry[id]? <;> rfl

theorem executor_eq_some {req : HttpRequest} {h : ErasedHandler σ α HttpRequest HttpResponse}
    (finds : deps.registry.Finds) (holds : HoldsLast job routes)
    (executes : job.executor deps req = some h) :
    ∃ id route, lastClaim id routes = some route ∧ h = route.bridged σ := by
  cases routed : job.route deps (pathFromUrl req.url) with
  | error e => simp [executor, routed] at executes
  | ok id =>
    rw [executor_of_route finds holds routed] at executes
    obtain ⟨route, last, same⟩ := Option.map_eq_some_iff.mp executes
    exact ⟨id, route, last, same.symm⟩

/-- What the health of a job says of the routes registered with it. -/
structure HealthByLast (deps : HttpJobDeps σ α) (job : DefaultHttpJob σ α)
    (routes : List (HttpRoute α)) : Prop where
  health : job.healthCheck = true ↔
    ∀ id route, lastClaim id routes = some route → route.handler.healthCheck = .ok true
  executes : ∀ req h, job.executor deps req = some h →
    ∃ id route, lastClaim id routes = some route ∧ h = route.bridged σ
  reached : (∀ id route, lastClaim id routes = some route →
      ∃ req : HttpRequest, job.route deps (pathFromUrl req.url) = .ok id) →
    (job.healthCheck = true ↔
      ∀ req h, job.executor deps req = some h → h.healthCheck = .ok true)
  anyOrder : ∀ order : List (ErasedHandler σ α HttpRequest HttpResponse),
    order.Perm (job.healthHandlers.toList.map Prod.snd) →
      order.all ErasedHandler.reportsHealthy = job.healthCheck

theorem HoldsLast.healthCheck_iff (holds : HoldsLast job routes) : job.healthCheck = true ↔
    ∀ id route, lastClaim id routes = some route → route.handler.healthCheck = .ok true := by
  rw [healthCheck, allHealthy_iff]
  constructor
  · intro healthy id route last
    exact healthy id (route.bridged σ) (by rw [holds.health, last]; rfl)
  · intro healthy id h held
    rw [holds.health] at held
    obtain ⟨route, last, rfl⟩ := Option.map_eq_some_iff.mp held
    exact healthy id route last

theorem HoldsLast.healthByLast (finds : deps.registry.Finds) (holds : HoldsLast job routes) :
    HealthByLast deps job routes where
  health := holds.healthCheck_iff
  executes _ _ executes := executor_eq_some finds holds executes
  reached reach := by
    rw [holds.healthCheck_iff]
    constructor
    · intro healthy req h executes
      obtain ⟨id, route, last, rfl⟩ := executor_eq_some finds holds executes
      exact healthy id route last
    · intro healthy id route last
      obtain ⟨req, routed⟩ := reach id route last
      refine healthy req (route.bridged σ) ?_
      rw [executor_of_route finds holds routed, last]
      rfl
  anyOrder _ perm := allHealthy_of_perm perm

end DefaultHttpJob

namespace DefaultGrpcJob
variable {behaviour : RegistryBehaviour (GrpcPipeline σ α)} {job : DefaultGrpcJob σ α}
  {routes : List (GrpcRoute α)} {route : GrpcRoute α}

/-- Each of the calls returned `Ok`, on a new job. -/
def AllAccepted (behaviour : RegistryBehaviour (GrpcPipeline σ α)) (routes : List (GrpcRoute α)) :
    Prop :=
  ∀ earlier route later, routes = earlier ++ route :: later →
    ((new.registerAll behaviour earlier).registerRoute behaviour route).1 = .ok ()

/-- The handlers kept for health are those in the registry. -/
def Mirrored (job : DefaultGrpcJob σ α) : Prop :=
  ∀ id : String, job.healthHandlers[id]? = (job.registry[id]?).map Pipeline.stage

theorem Mirrored.registerRoute (mirrored : Mirrored job)
    (accepted : (job.registerRoute behaviour route).1 = .ok ()) :
    Mirrored (job.registerRoute behaviour route).2 := by
  obtain ⟨own, pattern, _, stored⟩ := stored_of_accepted accepted
  rw [stored]
  intro id
  simp only [withHealth, Std.ExtTreeMap.getElem?_insert]
  by_cases same : own = id
  · simp [same, GrpcRoute.pipeline]
  · simpa [same] using mirrored id

theorem mirrored_of_allAccepted (accepted : AllAccepted behaviour routes) :
    Mirrored ((new : DefaultGrpcJob σ α).registerAll behaviour routes) := by
  induction routes using List.reverseRecOn with
  | nil => exact fun _ => rfl
  | append_singleton routes route ih =>
    rw [registerAll_snoc]
    refine (ih fun earlier route' later split => ?_).registerRoute (accepted routes route [] rfl)
    exact accepted earlier route' (later ++ [route]) (by simp [split])

/-- A call is executed by the handler in the registry under its method. -/
theorem executor_eq (finds : behaviour.Finds) (method : String) :
    job.executor behaviour method = (job.registry[method]?).map Pipeline.stage := by
  unfold executor DefaultGrpcJob.route isRegistered
  simp only [RegistryBehaviour.get, finds job.registry method]
  cases held : job.registry[method]? <;> simp [finds job.registry method, held]

/-- Every handler kept for health is the one of some method. -/
theorem Mirrored.healthCheck_iff (finds : behaviour.Finds) (mirrored : Mirrored job) :
    job.healthCheck = true ↔
      ∀ method h, job.executor behaviour method = some h → h.healthCheck = .ok true := by
  have same (method : String) : job.executor behaviour method = job.healthHandlers[method]? := by
    rw [executor_eq finds, mirrored method]
  simp only [healthCheck, allHealthy_iff, same]

end DefaultGrpcJob

/-- After registrations that all returned `Ok`: an HTTP job is healthy exactly
when the last handler registered under each id is, which are the handlers a
request can be executed by; where some path leads to each id, those are all that
its requests reach. A gRPC job is healthy exactly when every handler that some
method is executed by is. Neither depends on the order of the handlers. -/
theorem job_health_iff (deps : HttpJobDeps σ α) (behaviour : RegistryBehaviour (GrpcPipeline σ α))
    (findsHttp : deps.registry.Finds) (findsGrpc : behaviour.Finds) (httpRoutes : List (HttpRoute α))
    (grpcRoutes : List (GrpcRoute α)) (acceptedHttp : DefaultHttpJob.AllAccepted deps httpRoutes)
    (acceptedGrpc : DefaultGrpcJob.AllAccepted behaviour grpcRoutes) :
    DefaultHttpJob.HealthByLast deps (DefaultHttpJob.new.registerAll deps httpRoutes) httpRoutes ∧
    let job := DefaultGrpcJob.new.registerAll behaviour grpcRoutes
    (job.healthCheck = true ↔
      ∀ method h, job.executor behaviour method = some h → h.healthCheck = .ok true) ∧
    ∀ order : List (ErasedHandler σ α (List UInt8) (List UInt8)),
      order.Perm (job.healthHandlers.toList.map Prod.snd) →
        order.all ErasedHandler.reportsHealthy = job.healthCheck :=
  ⟨(DefaultHttpJob.holdsLast_of_allAccepted acceptedHttp).healthByLast findsHttp,
    (DefaultGrpcJob.mirrored_of_allAccepted acceptedGrpc).healthCheck_iff findsGrpc,
    fun _ perm => allHealthy_of_perm perm⟩

end

section Reference
attribute [local instance] Platform.withUrls

/-- A gRPC route that answers every call with an empty body. -/
def GrpcRoute.answering (id : String) (healthy : Bool) : GrpcRoute Unit where
  Req := Unit
  Resp := Unit
  handler := ⟨.ok id, .ok "/call", fun _ _ app => (.ok (), app), .ok healthy⟩
  decode _ := .ok ()
  encode _ := []

private abbrev exactDeps : HttpJobDeps Unit Unit := .overwriting .exact

private abbrev usersRoutes : List (HttpRoute Unit) := [.answering "users" "/users" 200 true]

private abbrev usersCalls : List (GrpcRoute Unit) := [.answering "pkg.Svc/Users" true]

/-- A job of each kind, with one route. -/
theorem job_health_iff_users :
    DefaultHttpJob.HealthByLast exactDeps (DefaultHttpJob.new.registerAll exactDeps usersRoutes)
        usersRoutes ∧
      let job : DefaultGrpcJob Unit Unit := DefaultGrpcJob.new.registerAll .infallible usersCalls
      (job.healthCheck = true ↔
        ∀ method h, job.executor .infallible method = some h → h.healthCheck = .ok true) := by
  have http : DefaultHttpJob.AllAccepted exactDeps usersRoutes := by
    intro earlier route later split
    cases earlier with
    | nil =>
      cases split
      rfl
    | cons => simp at split
  have grpc : DefaultGrpcJob.AllAccepted (.infallible : RegistryBehaviour (GrpcPipeline Unit Unit))
      usersCalls := by
    intro earlier route later split
    cases earlier with
    | nil =>
      cases split
      rfl
    | cons => simp at split
  have both := job_health_iff exactDeps .infallible (fun _ _ => rfl) (fun _ _ => rfl) usersRoutes
    usersCalls http grpc
  exact ⟨both.1, both.2.1⟩

/-- The job finds no path with a query in it. -/
private theorem query_not_mem_pathFromUrl (url : String) :
    '?' ∉ (DefaultHttpJob.pathFromUrl url).toList := by
  unfold DefaultHttpJob.pathFromUrl
  cases parsed : Platform.uriPath url with
  | none =>
    intro member
    rw [String.toList_ofList] at member
    have outer := List.mem_takeWhile_imp (List.takeWhile_subset _ member)
    simp at outer
  | some path => exact Rust.Url.query_not_mem_path parsed

private abbrev searchRoutes : List (HttpRoute Unit) :=
  [.answering "users" "/users" 200 true, .answering "search" "/search?q" 200 false]

private theorem searchRoutes_accepted : DefaultHttpJob.AllAccepted exactDeps searchRoutes := by
  intro earlier route later split
  cases earlier with
  | nil =>
    cases split
    rfl
  | cons first earlier =>
    cases earlier with
    | nil =>
      cases split
      rfl
    | cons => simp at split

/-- A sick handler under a pattern with a query: no request leads to it, and the
job is unhealthy. -/
theorem unreachable_handler_turns_health :
    let job := DefaultHttpJob.new.registerAll exactDeps searchRoutes
    DefaultHttpJob.AllAccepted exactDeps searchRoutes ∧
      (∀ req h, job.executor exactDeps req = some h → h.healthCheck = .ok true) ∧
      job.healthCheck = false := by
  intro job
  refine ⟨searchRoutes_accepted, ?_, by decide⟩
  intro req h executes
  have patterns : job.router = [("/users", "users"), ("/search?q", "search")] := rfl
  have other : DefaultHttpJob.pathFromUrl req.url ≠ "/search?q" := by
    intro same
    have clean := query_not_mem_pathFromUrl req.url
    rw [same] at clean
    exact clean (by decide)
  have holds := DefaultHttpJob.holdsLast_of_allAccepted searchRoutes_accepted
  by_cases users : DefaultHttpJob.pathFromUrl req.url = "/users"
  · have routed : job.route exactDeps (DefaultHttpJob.pathFromUrl req.url) = .ok "users" := by
      rw [users]
      rfl
    rw [DefaultHttpJob.executor_of_route (fun _ _ => rfl) holds routed] at executes
    cases executes
    rfl
  · have nowhere : job.route exactDeps (DefaultHttpJob.pathFromUrl req.url) = .error .noMatch := by
      have unresolved : exactDeps.matchit.resolve (job.router.map Prod.fst)
          (DefaultHttpJob.pathFromUrl req.url) = none := by
        rw [patterns]
        exact if_neg (by simp [users, other])
      unfold DefaultHttpJob.route
      rw [unresolved]
    simp [DefaultHttpJob.executor, nowhere] at executes

end Reference

end EdgeBootstrap
