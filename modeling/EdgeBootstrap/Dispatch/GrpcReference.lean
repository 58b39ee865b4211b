import EdgeBootstrap.Dispatch.GrpcJob

/-! The gRPC job as a map in which the first registration of an id wins. The
method of a call is the id its route registered with, the key of its pipeline and
what the job lists, so one description of the registry after any registrations
answers for all of them. -/
namespace EdgeBootstrap

section
variable [Platform] {σ α : Type}

/-- The handler gives an id and a pattern, and neither is empty. -/
def GrpcRoute.Named (route : GrpcRoute α) (id : String) : Prop :=
  route.handler.id = .ok id ∧ id ≠ "" ∧ ∃ pattern, route.handler.pattern = .ok pattern ∧ pattern ≠ ""

/-- The route passes the checks of its names and carries this id. -/
def GrpcRoute.claims (id : String) (route : GrpcRoute α) : Bool :=
  match route.names with
  | .ok (own, _) => own == id
  | .error _ => false

/-- The reference map: the first of the routes that claim this id. -/
def firstClaim (id : String) (routes : List (GrpcRoute α)) : Option (GrpcRoute α) :=
  routes.find? (GrpcRoute.claims id)

namespace DefaultGrpcJob

/-- The call returns `Ok` after the earlier calls, on a new job whose registry
never refuses. -/
def Accepts (σ : Type) (earlier : List (GrpcRoute α)) (route : GrpcRoute α) : Prop :=
  (((new : DefaultGrpcJob σ α).registerAll .infallible earlier).registerRoute .infallible route).1 =
    .ok ()

/-- Some call of the list for this id returned `Ok`. -/
def Registered (σ : Type) (routes : List (GrpcRoute α)) (id : String) : Prop :=
  ∃ earlier route later, routes = earlier ++ route :: later ∧ Accepts σ earlier route ∧
    route.handler.id = .ok id

section Histories
variable {routes earlier : List (GrpcRoute α)} {route : GrpcRoute α} {id pattern : String}

/-- The checks pass exactly when id and pattern are there and not empty. -/
theorem names_ok_iff : (∃ pattern, route.names = .ok (id, pattern)) ↔ route.Named id := by
  unfold GrpcRoute.names Handler.names GrpcRoute.Named
  cases route.handler.id with
  | error e => simp
  | ok own =>
    by_cases empty : own = ""
    · simp only [empty, if_true]
      refine iff_of_false (by simp) ?_
      rintro ⟨same, nonempty, _⟩
      exact nonempty (Except.ok.inj same).symm
    · simp only [empty, if_false]
      cases route.handler.pattern with
      | error e => simp
      | ok p =>
        by_cases blank : p = ""
        · simp [blank]
        · simp only [blank, if_false, Except.ok.injEq, Prod.mk.injEq, exists_and_left, exists_eq',
            and_true, exists_eq_left']
          constructor
          · rintro rfl
            exact ⟨rfl, empty, blank⟩
          · exact And.left

theorem claims_iff : route.claims id = true ↔ route.Named id := by
  rw [← names_ok_iff]
  unfold GrpcRoute.claims
  cases route.names with
  | error e => simp
  | ok names =>
    simp only [beq_iff_eq, Except.ok.injEq, Prod.ext_iff, exists_and_left, exists_eq', and_true]

theorem isRegistered_infallible (job : DefaultGrpcJob σ α) (id : String) :
    job.isRegistered .infallible id = (job.registry[id]?).isSome := rfl

variable (σ routes) in
/-- The registry after any calls is the reference map. -/
theorem registry_eq (id : String) :
    ((new : DefaultGrpcJob σ α).registerAll .infallible routes).registry[id]? =
      (firstClaim id routes).map (·.pipeline σ id) := by
  induction routes using List.reverseRecOn generalizing id with
  | nil => rfl
  | append_singleton routes route ih =>
    have extended : firstClaim id (routes ++ [route]) =
        (firstClaim id routes).or (if route.claims id then some route else none) := by
      by_cases claims : route.claims id
      · simp [firstClaim, List.find?_append, claims]
      · simp [firstClaim, List.find?_append, claims]
    rw [registerAll_snoc, extended]
    generalize (new : DefaultGrpcJob σ α).registerAll .infallible routes = job at ih ⊢
    cases named : route.names with
    | error e =>
      rw [registerRoute_of_unnamed named, ih]
      simp [GrpcRoute.claims, named]
    | ok names =>
      obtain ⟨own, pattern⟩ := names
      have registered : job.isRegistered .infallible own = (firstClaim own routes).isSome := by
        rw [isRegistered_infallible, ih, Option.isSome_map]
      cases held : firstClaim own routes with
      | some first =>
        rw [held] at registered
        rw [registerRoute_of_registered named registered, ih]
        by_cases same : own = id
        · subst same
          simp [held]
        · simp [GrpcRoute.claims, named, same]
      | none =>
        rw [held] at registered
        rw [registerRoute_of_accepted named registered rfl, Std.ExtTreeMap.getElem?_insert, ih]
        by_cases same : own = id
        · subst same
          simp [GrpcRoute.claims, named, held]
        · simp [GrpcRoute.claims, named, same]

/-- A call is accepted when its names are and no earlier call claimed its id. -/
theorem accepts_iff : Accepts σ earlier route ↔ ∃ id, route.Named id ∧ firstClaim id earlier = none := by
  unfold Accepts
  cases named : route.names with
  | error e =>
    rw [registerRoute_of_unnamed named]
    refine iff_of_false (by simp) ?_
    rintro ⟨id, names, _⟩
    obtain ⟨pattern, accepted⟩ := names_ok_iff.mpr names
    rw [named] at accepted
    cases accepted
  | ok names =>
    obtain ⟨own, pattern⟩ := names
    have own_named : route.Named own := names_ok_iff.mp ⟨pattern, named⟩
    have only : (∃ id, route.Named id ∧ firstClaim id earlier = none) ↔ firstClaim own earlier = none := by
      constructor
      · rintro ⟨id, names, free⟩
        rwa [Except.ok.inj (own_named.1.symm.trans names.1)]
      · exact fun free => ⟨own, own_named, free⟩
    have registered : ((new : DefaultGrpcJob σ α).registerAll .infallible earlier).isRegistered
        .infallible own = (firstClaim own earlier).isSome := by
      rw [isRegistered_infallible, registry_eq, Option.isSome_map]
    rw [only]
    cases held : firstClaim own earlier with
    | some first =>
      rw [held] at registered
      rw [registerRoute_of_registered named registered]
      simp
    | none =>
      rw [held] at registered
      rw [registerRoute_of_accepted named registered rfl]
      simp

/-- The reference map holds the accepted call of an id. -/
theorem firstClaim_eq_some_iff : firstClaim id routes = some route ↔
    ∃ earlier later, routes = earlier ++ route :: later ∧ Accepts σ earlier route ∧
      route.handler.id = .ok id := by
  unfold firstClaim
  rw [List.find?_eq_some_iff_append, claims_iff]
  constructor
  · rintro ⟨named, earlier, later, split, unclaimed⟩
    have free : firstClaim id earlier = none := by
      simpa [firstClaim] using unclaimed
    exact ⟨earlier, later, split, accepts_iff.mpr ⟨id, named, free⟩, named.1⟩
  · rintro ⟨earlier, later, split, accepted, carries⟩
    obtain ⟨own, named, free⟩ := accepts_iff.mp accepted
    cases Except.ok.inj (named.1.symm.trans carries)
    exact ⟨named, earlier, later, split, by simpa [firstClaim] using free⟩

/-- The reference map has nothing for an id that no accepted call carries. -/
theorem firstClaim_eq_none_iff : firstClaim id routes = none ↔ ¬ Registered σ routes id := by
  constructor
  · rintro unclaimed ⟨earlier, route, later, split, accepted, carries⟩
    have held := firstClaim_eq_some_iff.mpr ⟨earlier, later, split, accepted, carries⟩
    rw [unclaimed] at held
    cases held
  · intro free
    cases held : firstClaim id routes with
    | none => rfl
    | some route =>
      obtain ⟨earlier, later, split, accepted, carries⟩ := firstClaim_eq_some_iff.mp held
      exact absurd ⟨earlier, route, later, split, accepted, carries⟩ free

/-- What the job is after a list of calls: which calls were accepted, what a
request executes and with whose decode and encode, and what is listed. -/
structure FirstWins (σ : Type) (routes : List (GrpcRoute α)) : Prop where
  accepts : ∀ earlier route later, routes = earlier ++ route :: later →
    (Accepts σ earlier route ↔ ∃ id, route.Named id ∧ ¬ Registered σ earlier id)
  executes : ∀ earlier route later id, routes = earlier ++ route :: later →
    Accepts σ earlier route → route.handler.id = .ok id → ∀ req ctx, req.method = id →
    route.Answers id req ctx
      (((new : DefaultGrpcJob σ α).registerAll .infallible routes).run .infallible req ctx)
  refuses : ∀ req ctx, ¬ Registered σ routes req.method →
    ((new : DefaultGrpcJob σ α).registerAll .infallible routes).run .infallible req ctx =
      pure (.error (.routing .noMatch))
  lists : ∀ id, id ∈ ((new : DefaultGrpcJob σ α).registerAll .infallible routes).listRouteIds
    .infallible ↔ Registered σ routes id
  once : (((new : DefaultGrpcJob σ α).registerAll .infallible routes).listRouteIds .infallible).Nodup

/-- A request executes the pipeline that the registry has for its method. -/
theorem run_infallible (job : DefaultGrpcJob σ α) (req : GrpcRequest) (ctx : HandlerContext) :
    job.run .infallible req ctx =
      match job.registry[req.method]? with
      | some pipeline => answer <$> pipeline.execute req.body ctx
      | none => pure (.error (.routing .noMatch)) := by
  unfold DefaultGrpcJob.run DefaultGrpcJob.route
  rw [isRegistered_infallible]
  cases held : job.registry[req.method]? with
  | none => simp
  | some pipeline => simp [RegistryBehaviour.get, RegistryBehaviour.infallible, held]

/-- Over any list of registrations the job is the map in which the first
registration of an id wins. -/
theorem grpc_job_first_wins (routes : List (GrpcRoute α)) : FirstWins σ routes where
  accepts := by
    intro earlier route later _
    simp only [accepts_iff, firstClaim_eq_none_iff (σ := σ)]
  executes := by
    rintro earlier route later id split accepted carries req ctx rfl
    have held := firstClaim_eq_some_iff.mpr ⟨earlier, later, split, accepted, carries⟩
    rw [run_infallible, registry_eq, held]
    exact GrpcRoute.bridged_answers carries req ctx
  refuses := by
    intro req ctx free
    rw [run_infallible, registry_eq, firstClaim_eq_none_iff.mpr free]
    rfl
  lists := by
    intro id
    have keys : ((new : DefaultGrpcJob σ α).registerAll .infallible routes).listRouteIds .infallible =
        ((new : DefaultGrpcJob σ α).registerAll .infallible routes).registry.keys := rfl
    rw [keys, Std.ExtTreeMap.mem_keys, Std.ExtTreeMap.mem_iff_isSome_getElem?, registry_eq,
      Option.isSome_map, Option.isSome_iff_ne_none, ne_eq, firstClaim_eq_none_iff, not_not]
  once := Std.ExtTreeMap.nodup_keys

end Histories

end DefaultGrpcJob

end

end EdgeBootstrap
