import Std.Data.ExtTreeMap
import EdgeBootstrap.Transport.Ingress

/-! What the two jobs share: handlers as the application writes them and as the
jobs store them, the registry of `edge-dispatch`, and the check of a handler's
names. The registry may reject a registration or fail a lookup whenever it
likes; an accepted registration replaces the entry under its id. -/
namespace EdgeBootstrap

variable [Platform]

/-- `HandlerContext`; its command bus is always the no-op one. -/
structure HandlerContext where
  security : Platform.SecurityContext
  observer : Platform.ObserverContext

/-- `Handler`, as the application implements it. -/
structure Handler (α Req Resp : Type) where
  id : Except HandlerError String
  pattern : Except HandlerError String
  execute : Req → HandlerContext → α → Except HandlerError Resp × α
  healthCheck : Except HandlerError Bool

/-- A bridged handler behind its trait object: what the job calls of it. -/
structure ErasedHandler (σ α Req Resp : Type) where
  execute : Req → HandlerContext → Exec σ α (Except HandlerError Resp)
  healthCheck : Except HandlerError Bool

/-- A `Pipeline` of a single pass-through stage. -/
structure Pipeline (σ α Req Resp : Type) where
  id : String
  pattern : String
  stage : ErasedHandler σ α Req Resp

/-- `Pipeline::execute` with a single pass-through stage. -/
def Pipeline.execute {σ α Req Resp : Type} (p : Pipeline σ α Req Resp) (req : Req)
    (ctx : HandlerContext) : Exec σ α (Except HandlerError Resp) := p.stage.execute req ctx

/-- The health of every stored handler: each answers `Ok` and healthy. -/
def allHealthy {σ α Req Resp : Type}
    (handlers : Std.ExtTreeMap String (ErasedHandler σ α Req Resp)) : Bool :=
  handlers.toList.all fun entry =>
    match entry.2.healthCheck with
    | .ok healthy => healthy
    | .error _ => false

/-- The handler's own check fails, or answers that it is not healthy. -/
def ErasedHandler.Sick {σ α Req Resp : Type} (h : ErasedHandler σ α Req Resp) : Prop :=
  h.healthCheck ≠ .ok true

/-- The stored handlers are reported unhealthy exactly when one of them is. -/
theorem allHealthy_eq_false_iff {σ α Req Resp : Type}
    {handlers : Std.ExtTreeMap String (ErasedHandler σ α Req Resp)} :
    allHealthy handlers = false ↔
      ∃ (id : String) (h : ErasedHandler σ α Req Resp), handlers[id]? = some h ∧ h.Sick := by
  have sick : ∀ h : ErasedHandler σ α Req Resp,
      (match h.healthCheck with | .ok healthy => healthy | .error _ => false) = false ↔ h.Sick := by
    intro h
    unfold ErasedHandler.Sick
    cases h.healthCheck with
    | error e => simp
    | ok healthy => cases healthy <;> simp
  simp only [allHealthy, List.all_eq_false, Bool.not_eq_true, Prod.exists,
    Std.ExtTreeMap.mem_toList_iff_getElem?_eq_some, sick]

/-- When the registry refuses, given its entries. -/
structure RegistryBehaviour (P : Type) where
  registerError : Std.ExtTreeMap String P → P → Option HandlerError
  getError : Std.ExtTreeMap String P → String → Option HandlerError
  listError : Std.ExtTreeMap String P → Option HandlerError

/-- A registry that never refuses. -/
def RegistryBehaviour.infallible {P : Type} : RegistryBehaviour P where
  registerError _ _ := none
  getError _ _ := none
  listError _ := none

section Registry
variable {σ α Req Resp : Type} (behaviour : RegistryBehaviour (Pipeline σ α Req Resp))
  (entries : Std.ExtTreeMap String (Pipeline σ α Req Resp))

/-- `HandlerRegistry::register`. -/
def RegistryBehaviour.register (p : Pipeline σ α Req Resp) :
    Except HandlerError (Std.ExtTreeMap String (Pipeline σ α Req Resp)) :=
  match behaviour.registerError entries p with
  | some e => .error e
  | none => .ok (entries.insert p.id p)

/-- `HandlerRegistry::get`. -/
def RegistryBehaviour.get (id : String) : Except HandlerError (Option (Pipeline σ α Req Resp)) :=
  match behaviour.getError entries id with
  | some e => .error e
  | none => .ok entries[id]?

/-- `HandlerRegistry::list_ids`. -/
def RegistryBehaviour.listIds : Except HandlerError (List String) :=
  match behaviour.listError entries with
  | some e => .error e
  | none => .ok entries.keys

/-- A lookup of an id that is there fails or finds its pipeline. -/
theorem RegistryBehaviour.get_ne_none {entries : Std.ExtTreeMap String (Pipeline σ α Req Resp)}
    {id : String} (held : id ∈ entries) : behaviour.get entries id ≠ .ok none := by
  intro missing
  unfold RegistryBehaviour.get at missing
  split at missing
  · cases missing
  · rw [Std.ExtTreeMap.mem_iff_isSome_getElem?, Except.ok.inj missing] at held
    cases held

end Registry

/-- `JobRegistrationError`; the key is the pattern over HTTP, the id over gRPC. -/
inductive JobRegistrationError
  | registrationFailed (key reason : String)
  | handlerRejected (msg : String)
  deriving DecidableEq, Repr

/-- The checks of a handler's id and pattern, with the texts for an empty one. -/
def Handler.names {α Req Resp : Type} (h : Handler α Req Resp) (emptyId emptyPattern : String) :
    Except JobRegistrationError (String × String) :=
  match h.id with
  | .error e => .error (.handlerRejected (Platform.handlerErrorText e))
  | .ok id =>
    if id = "" then .error (.handlerRejected emptyId)
    else match h.pattern with
      | .error e => .error (.handlerRejected (Platform.handlerErrorText e))
      | .ok pattern =>
        if pattern = "" then .error (.handlerRejected emptyPattern) else .ok (id, pattern)

/-- Execution of the application's handler, under the name it registers by. -/
def Handler.enter {σ α Req Resp : Type} (h : Handler α Req Resp) (req : Req) (ctx : HandlerContext) :
    Exec σ α (Except HandlerError Resp) :=
  Exec.enter (.handler (h.id.toOption.getD "")) (h.execute req ctx)

section Answers
variable {σ α ε Req Resp A : Type}

/-- What a call for this handler comes to, between a decode and an encode: what does not
decode reaches no handler; the rest is handed to it once, in the caller's context, and what
it returns is encoded. -/
structure Handler.Answers (h : Handler α Req Resp) (id : String) (decoded : Except ε Req)
    (errorText : ε → String) (encode : Resp → A) (ctx : HandlerContext)
    (call : Exec σ α (Except JobError A)) : Prop where
  undecodable : ∀ e, decoded = .error e → ∀ w, call w =
    (.error (.handler (Platform.handlerErrorText (.invalidRequest (errorText e)))), w, [])
  failed : ∀ typed, decoded = .ok typed → ∀ w e app, h.execute typed ctx w.app = (.error e, app) →
    call w = (.error (.handler (Platform.handlerErrorText e)), { w with app },
      [.entered (.handler id)])
  answered : ∀ typed, decoded = .ok typed → ∀ w resp app,
    h.execute typed ctx w.app = (.ok resp, app) →
    call w = (.ok (encode resp), { w with app }, [.entered (.handler id)])

/-- A call that refuses what does not decode and otherwise responds as the handler does. -/
theorem Handler.answers_of_enter {h : Handler α Req Resp} {id : String} {decoded : Except ε Req}
    {errorText : ε → String} {encode : Resp → A} {ctx : HandlerContext}
    {call : Exec σ α (Except JobError A)}
    (respond : Except HandlerError Resp → Except JobError A) (own : h.id = .ok id)
    (refuses : ∀ e, decoded = .error e →
      call = pure (respond (.error (.invalidRequest (errorText e)))))
    (enters : ∀ typed, decoded = .ok typed → call = respond <$> h.enter typed ctx)
    (fails : ∀ e, respond (.error e) = .error (.handler (Platform.handlerErrorText e)))
    (encodes : ∀ resp, respond (.ok resp) = .ok (encode resp)) :
    h.Answers id decoded errorText encode ctx call := by
  have entered : ∀ typed, decoded = .ok typed → ∀ w : World σ α, call w =
      (respond (h.execute typed ctx w.app).1, { w with app := (h.execute typed ctx w.app).2 },
        [.entered (.handler id)]) := by
    intro typed decodes w
    rw [enters typed decodes, Handler.enter, own]
    rfl
  constructor
  · intro e undecoded w
    rw [refuses e undecoded, fails]
    rfl
  · intro typed decodes w e app ran
    rw [entered typed decodes, ran, fails]
  · intro typed decodes w resp app ran
    rw [entered typed decodes, ran, encodes]

end Answers

end EdgeBootstrap
