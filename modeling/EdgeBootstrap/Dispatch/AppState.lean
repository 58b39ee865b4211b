import EdgeBootstrap.Dispatch.GrpcJob
import EdgeBootstrap.Dispatch.HttpJob

/-! Application code changes the state of the application and nothing else. A
supplied ingress does so by its type; a job does because every handler it stores
was bridged by a registration. -/
namespace EdgeBootstrap

variable [Platform] {σ α : Type}

section Supplied

theorem AppHttpIngress.staysInApp (app : AppHttpIngress α) (req : InboundRequest) :
    ((app.ingress σ).handle req).StaysInApp := Exec.staysInApp_enter _ _

theorem AppGrpcIngress.handleUnary_staysInApp (app : AppGrpcIngress α) (req : UnaryRequest) :
    ((app.ingress σ).handleUnary req).StaysInApp := Exec.staysInApp_enter _ _

theorem AppGrpcIngress.handleStream_staysInApp (app : AppGrpcIngress α) (req : StreamRequest) :
    ((app.ingress σ).handleStream req).StaysInApp := Exec.staysInApp_enter _ _

end Supplied

section Stored
variable {Req Resp : Type}

def ErasedHandler.StaysInApp (h : ErasedHandler σ α Req Resp) : Prop :=
  ∀ req ctx, (h.execute req ctx).StaysInApp

/-- Every pipeline of a registry stays in the application. -/
def StoredStayInApp (registry : Std.ExtTreeMap String (Pipeline σ α Req Resp)) : Prop :=
  ∀ (id : String) (p : Pipeline σ α Req Resp), registry[id]? = some p → p.stage.StaysInApp

theorem storedStayInApp_empty :
    StoredStayInApp (∅ : Std.ExtTreeMap String (Pipeline σ α Req Resp)) := by
  intro id p stored
  simp at stored

theorem StoredStayInApp.insert {registry : Std.ExtTreeMap String (Pipeline σ α Req Resp)}
    {p : Pipeline σ α Req Resp} (stored : StoredStayInApp registry) (id : String)
    (stays : p.stage.StaysInApp) : StoredStayInApp (registry.insert id p) := by
  intro other q found
  rw [Std.ExtTreeMap.getElem?_insert] at found
  split at found
  · cases found
    exact stays
  · exact stored other q found

/-- What a registry answers for an id is stored in it. -/
theorem StoredStayInApp.of_get {behaviour : RegistryBehaviour (Pipeline σ α Req Resp)}
    {registry : Std.ExtTreeMap String (Pipeline σ α Req Resp)} {id : String}
    {p : Pipeline σ α Req Resp} (stored : StoredStayInApp registry)
    (found : behaviour.get registry id = .ok (some p)) : p.stage.StaysInApp := by
  unfold RegistryBehaviour.get at found
  split at found
  · cases found
  · exact stored id p (Except.ok.inj found)

end Stored

theorem HttpRoute.bridged_staysInApp (route : HttpRoute α) : (route.bridged σ).StaysInApp := by
  intro req ctx
  unfold bridged
  cases decoded : route.decode req with
  | error e =>
    simp only [decoded]
    exact Exec.staysInApp_pure _
  | ok typed =>
    simp only [decoded]
    exact (Exec.staysInApp_enter _ _).map _

theorem GrpcRoute.bridged_staysInApp (route : GrpcRoute α) : (route.bridged σ).StaysInApp := by
  intro body ctx
  unfold bridged
  cases decoded : route.decode body with
  | error e =>
    simp only [decoded]
    exact Exec.staysInApp_pure _
  | ok typed =>
    simp only [decoded]
    exact (Exec.staysInApp_enter _ _).map _

namespace DefaultHttpJob
variable (deps : HttpJobDeps σ α) (job : DefaultHttpJob σ α)

/-- A registration stores a bridged handler, or nothing. -/
theorem storedStayInApp_registerRoute {job : DefaultHttpJob σ α}
    (stored : StoredStayInApp job.registry) (route : HttpRoute α) :
    StoredStayInApp (registerRoute deps job route).2.registry := by
  have stays : ∀ id pattern, (route.pipeline σ id pattern).stage.StaysInApp :=
    fun _ _ => route.bridged_staysInApp
  cases named : route.names with
  | error e => rwa [registerRoute_of_unnamed named]
  | ok names =>
    obtain ⟨id, pattern⟩ := names
    cases accepts : deps.registry.registerError job.registry (route.pipeline σ id pattern) with
    | some e => rwa [registerRoute_of_rejected named accepts]
    | none =>
      cases fresh : deps.matchit.insertError (job.router.map Prod.fst) pattern with
      | some reason =>
        rw [registerRoute_of_conflict named accepts fresh]
        exact stored.insert id (stays id pattern)
      | none =>
        rw [registerRoute_of_accepted named accepts fresh]
        exact stored.insert id (stays id pattern)

/-- After any registrations a job stores bridged handlers only. -/
theorem storedStayInApp_registerAll (routes : List (HttpRoute α)) :
    StoredStayInApp (registerAll deps .new routes).registry := by
  induction routes using List.reverseRecOn with
  | nil => exact storedStayInApp_empty
  | append_singleton routes route ih =>
    rw [registerAll_snoc]
    exact storedStayInApp_registerRoute deps ih route

theorem run_staysInApp (stored : StoredStayInApp job.registry) (req : HttpRequest)
    (ctx : HandlerContext) : (job.run deps req ctx).StaysInApp := by
  unfold run
  split
  · exact Exec.staysInApp_pure _
  · split
    · exact Exec.staysInApp_pure _
    · exact Exec.staysInApp_pure _
    · rename_i pipeline found
      exact (stored.of_get found req ctx).map _

end DefaultHttpJob

namespace DefaultGrpcJob
variable (behaviour : RegistryBehaviour (GrpcPipeline σ α)) (job : DefaultGrpcJob σ α)

/-- A registration stores a bridged handler, or nothing. -/
theorem storedStayInApp_registerRoute {job : DefaultGrpcJob σ α}
    (stored : StoredStayInApp job.registry) (route : GrpcRoute α) :
    StoredStayInApp (registerRoute behaviour job route).2.registry := by
  cases named : route.names with
  | error e => rwa [registerRoute_of_unnamed named]
  | ok names =>
    obtain ⟨id, pattern⟩ := names
    cases free : job.isRegistered behaviour id with
    | true => rwa [registerRoute_of_registered named free]
    | false =>
      cases accepts : behaviour.registerError job.registry (route.pipeline σ id) with
      | some e => rwa [registerRoute_of_rejected named free accepts]
      | none =>
        rw [registerRoute_of_accepted named free accepts]
        exact stored.insert id route.bridged_staysInApp

/-- After any registrations a job stores bridged handlers only. -/
theorem storedStayInApp_registerAll (routes : List (GrpcRoute α)) :
    StoredStayInApp (registerAll behaviour .new routes).registry := by
  induction routes using List.reverseRecOn with
  | nil => exact storedStayInApp_empty
  | append_singleton routes route ih =>
    rw [registerAll_snoc]
    exact storedStayInApp_registerRoute behaviour ih route

theorem run_staysInApp (stored : StoredStayInApp job.registry) (req : GrpcRequest)
    (ctx : HandlerContext) : (job.run behaviour req ctx).StaysInApp := by
  unfold run
  split
  · exact Exec.staysInApp_pure _
  · split
    · exact Exec.staysInApp_pure _
    · exact Exec.staysInApp_pure _
    · rename_i pipeline found
      exact (stored.of_get found req.body ctx).map _

end DefaultGrpcJob

end EdgeBootstrap
