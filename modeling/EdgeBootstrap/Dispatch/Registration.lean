import EdgeBootstrap.Dispatch.HttpJob
import EdgeBootstrap.Dispatch.GrpcJob

/-! What a failed registration leaves behind. `register_route` fills its stores
in turn and undoes nothing, so a failure after the first write shows unless the
stores already held what it wrote. -/
namespace EdgeBootstrap

/-- Writing an entry changes nothing exactly when it is already there. -/
private theorem insert_eq_self_iff {V : Type} (m : Std.ExtTreeMap String V) (k : String) (v : V) :
    m.insert k v = m ↔ m[k]? = some v := by
  constructor
  · intro same
    rw [← same]
    simp
  · intro held
    apply Std.ExtTreeMap.ext_getElem?
    intro k'
    rw [Std.ExtTreeMap.getElem?_insert]
    split
    · rename_i here
      rw [← held, Std.LawfulEqCmp.compare_eq_iff_eq.mp here]
    · rfl

section
variable [Platform] {σ α : Type}

/-- A step that would fail comes after writes the HTTP job already held: the
health entry when the registry rejects, that and the pipeline when the router
does. -/
structure DefaultHttpJob.FailsCleanly (deps : HttpJobDeps σ α) (job : DefaultHttpJob σ α)
    (route : HttpRoute α) (id pattern : String) : Prop where
  rejected : deps.registry.registerError job.registry (route.pipeline σ id pattern) ≠ none →
    job.healthHandlers[id]? = some (route.bridged σ)
  conflicts : deps.registry.registerError job.registry (route.pipeline σ id pattern) = none →
    deps.matchit.insertError (job.router.map Prod.fst) pattern ≠ none →
    job.healthHandlers[id]? = some (route.bridged σ) ∧
      job.registry[id]? = some (route.pipeline σ id pattern)

/-- The gRPC job writes the health entry before the registry can reject. -/
def DefaultGrpcJob.FailsCleanly (behaviour : RegistryBehaviour (GrpcPipeline σ α))
    (job : DefaultGrpcJob σ α) (route : GrpcRoute α) (id : String) : Prop :=
  job.isRegistered behaviour id = false →
    behaviour.registerError job.registry (route.pipeline σ id) ≠ none →
    job.healthHandlers[id]? = some (route.bridged σ)

private theorem DefaultHttpJob.withHealth_eq_self_iff (job : DefaultHttpJob σ α) (route : HttpRoute α)
    (id : String) :
    job.withHealth route id = job ↔ job.healthHandlers[id]? = some (route.bridged σ) := by
  rw [← insert_eq_self_iff]
  cases job
  simp [DefaultHttpJob.withHealth]

private theorem DefaultHttpJob.withPipeline_eq_self_iff (job : DefaultHttpJob σ α)
    (route : HttpRoute α) (id pattern : String) : job.withPipeline route id pattern = job ↔
      job.healthHandlers[id]? = some (route.bridged σ) ∧
        job.registry[id]? = some (route.pipeline σ id pattern) := by
  rw [← insert_eq_self_iff, ← insert_eq_self_iff]
  cases job
  simp [DefaultHttpJob.withPipeline, DefaultHttpJob.withHealth, and_comm]

private theorem DefaultGrpcJob.withHealth_eq_self_iff (job : DefaultGrpcJob σ α) (route : GrpcRoute α)
    (id : String) :
    job.withHealth route id = job ↔ job.healthHandlers[id]? = some (route.bridged σ) := by
  rw [← insert_eq_self_iff]
  cases job
  simp [DefaultGrpcJob.withHealth]

private theorem http_unchanged_iff (deps : HttpJobDeps σ α) (job : DefaultHttpJob σ α)
    (route : HttpRoute α) :
    (∀ e, (job.registerRoute deps route).1 = .error e → (job.registerRoute deps route).2 = job) ↔
      ∀ id pattern, route.names = .ok (id, pattern) → job.FailsCleanly deps route id pattern := by
  cases named : route.names with
  | error e =>
    rw [DefaultHttpJob.registerRoute_of_unnamed named]
    simp
  | ok names =>
    obtain ⟨id, pattern⟩ := names
    cases accepts : deps.registry.registerError job.registry (route.pipeline σ id pattern) with
    | some e =>
      rw [DefaultHttpJob.registerRoute_of_rejected named accepts]
      have unchanged := job.withHealth_eq_self_iff route id
      constructor
      · rintro kept _ _ ⟨⟩
        refine ⟨fun _ => unchanged.mp (kept _ rfl), fun accepted => ?_⟩
        rw [accepts] at accepted
        cases accepted
      · rintro clean _ _
        exact unchanged.mpr ((clean id pattern rfl).rejected (by simp [accepts]))
    | none =>
      cases fresh : deps.matchit.insertError (job.router.map Prod.fst) pattern with
      | some reason =>
        rw [DefaultHttpJob.registerRoute_of_conflict named accepts fresh]
        have unchanged := job.withPipeline_eq_self_iff route id pattern
        constructor
        · rintro kept _ _ ⟨⟩
          refine ⟨fun rejected => absurd accepts rejected, fun _ _ => unchanged.mp (kept _ rfl)⟩
        · rintro clean _ _
          exact unchanged.mpr ((clean id pattern rfl).conflicts accepts (by simp [fresh]))
      | none =>
        rw [DefaultHttpJob.registerRoute_of_accepted named accepts fresh]
        constructor
        · rintro _ _ _ ⟨⟩
          exact ⟨fun rejected => absurd accepts rejected, fun _ conflicts => absurd fresh conflicts⟩
        · rintro _ _ ⟨⟩

private theorem grpc_unchanged_iff (behaviour : RegistryBehaviour (GrpcPipeline σ α))
    (job : DefaultGrpcJob σ α) (route : GrpcRoute α) :
    (∀ e, (job.registerRoute behaviour route).1 = .error e →
        (job.registerRoute behaviour route).2 = job) ↔
      ∀ id pattern, route.names = .ok (id, pattern) → job.FailsCleanly behaviour route id := by
  cases named : route.names with
  | error e =>
    rw [DefaultGrpcJob.registerRoute_of_unnamed named]
    simp
  | ok names =>
    obtain ⟨id, pattern⟩ := names
    cases registered : job.isRegistered behaviour id with
    | true =>
      rw [DefaultGrpcJob.registerRoute_of_registered named registered]
      constructor
      · rintro _ _ _ ⟨⟩ free
        rw [registered] at free
        cases free
      · intros
        rfl
    | false =>
      cases accepts : behaviour.registerError job.registry (route.pipeline σ id) with
      | some e =>
        rw [DefaultGrpcJob.registerRoute_of_rejected named registered accepts]
        have unchanged := job.withHealth_eq_self_iff route id
        constructor
        · rintro kept _ _ ⟨⟩ _ _
          exact unchanged.mp (kept _ rfl)
        · rintro clean _ _
          exact unchanged.mpr (clean id pattern rfl registered (by simp [accepts]))
      | none =>
        rw [DefaultGrpcJob.registerRoute_of_accepted named registered accepts]
        constructor
        · rintro _ _ _ ⟨⟩ _ rejected
          exact absurd accepts rejected
        · rintro _ _ ⟨⟩

/-- A registration that fails leaves its job as it was exactly when it fails in
its own checks, or the job already held all it wrote before the step that
failed. -/
theorem failed_registration_unchanged_iff (deps : HttpJobDeps σ α) (httpJob : DefaultHttpJob σ α)
    (httpRoute : HttpRoute α) (behaviour : RegistryBehaviour (GrpcPipeline σ α))
    (grpcJob : DefaultGrpcJob σ α) (grpcRoute : GrpcRoute α) :
    ((∀ e, (httpJob.registerRoute deps httpRoute).1 = .error e →
        (httpJob.registerRoute deps httpRoute).2 = httpJob) ↔
      ∀ id pattern, httpRoute.names = .ok (id, pattern) →
        httpJob.FailsCleanly deps httpRoute id pattern) ∧
    ((∀ e, (grpcJob.registerRoute behaviour grpcRoute).1 = .error e →
        (grpcJob.registerRoute behaviour grpcRoute).2 = grpcJob) ↔
      ∀ id pattern, grpcRoute.names = .ok (id, pattern) →
        grpcJob.FailsCleanly behaviour grpcRoute id) :=
  ⟨http_unchanged_iff deps httpJob httpRoute, grpc_unchanged_iff behaviour grpcJob grpcRoute⟩

end

section
attribute [local instance] Platform.reference

/-- A route refused for its pattern turns the health of the job. -/
theorem refused_route_turns_health :
    let deps : HttpJobDeps Unit Unit := ⟨.infallible, .exact⟩
    let job := DefaultHttpJob.new.registerAll deps [.answering "users" "/users" 200 true]
    let refused : HttpRoute Unit := .answering "people" "/users" 200 false
    (job.registerRoute deps refused).1 =
        .error (.registrationFailed "/users" "conflicts with a registered route") ∧
      job.healthCheck = true ∧ (job.registerRoute deps refused).2.healthCheck = false := by
  refine ⟨rfl, ?_, ?_⟩ <;> decide

end

end EdgeBootstrap
