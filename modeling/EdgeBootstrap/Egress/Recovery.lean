import EdgeBootstrap.Egress.ServiceRegistry
import Mathlib.Logic.Function.Iterate

/-! Whether a named service client can ever send again. Its users only see the
`HttpEgress` interface, and a call reports only for the backend it was given:
a backend that failed once is never given to a call, so nothing puts it back. -/
namespace EdgeBootstrap
open StepMachine LoadBalancedHttpEgress

section

variable [Platform]

/-- What a pool promises of the health of its backends: all are selectable when
it is built, a selection hands out a selectable one and changes no health, and a
report makes the backend it is about selectable exactly when it is a success. The
strategies take turns: a selectable backend is handed out after finitely many
selections that nobody reports on. -/
structure LoadbalancerSvc.Health (svc : LoadbalancerSvc) where
  Member : svc.Pool → Backend → Prop
  Selectable : svc.Pool → BackendId → Prop
  member_built : ∀ {config pool}, svc.buildPool config = .ok pool → ∀ b,
    Member pool b ↔ ∃ c ∈ svc.backends config, b = c.backend
  selectable_built : ∀ {config pool}, svc.buildPool config = .ok pool →
    ∀ b, Member pool b → Selectable pool b.id
  selected : ∀ {pool b}, (svc.select pool).1 = .ok b → Member pool b ∧ Selectable pool b.id
  member_select : ∀ pool b, Member (svc.select pool).2 b ↔ Member pool b
  selectable_select : ∀ pool id, Selectable (svc.select pool).2 id ↔ Selectable pool id
  member_report : ∀ pool id outcome b, Member (svc.reportOutcome pool id outcome) b ↔ Member pool b
  selectable_report : ∀ {pool b}, Member pool b → ∀ outcome id,
    Selectable (svc.reportOutcome pool b.id outcome) id ↔
      if id = b.id then outcome = .success else Selectable pool id
  fair : ∀ {pool b}, Member pool b → Selectable pool b.id →
    ∃ n, (svc.select ((fun p => (svc.select p).2)^[n] pool)).1 = .ok b

/-- Every request is answered with the status. -/
structure HttpEgress.Answers (inner : HttpEgress) (status : Nat) : Prop where
  send : ∀ request, ∃ resp, inner.send request = .ok resp ∧ resp.status = status
  sendStream : ∀ request, ∃ resp, inner.sendStream request = .ok resp ∧ resp.status = status

theorem HttpEgress.answers_answering (status : Nat)
    (config : Except HttpEgressError Platform.HttpConfig) :
    (HttpEgress.answering status config).Answers status :=
  ⟨fun _ => ⟨_, rfl, rfl⟩, fun _ => ⟨_, rfl, rfl⟩⟩

variable (deps : EgressDeps)

/-- With the inner client now answering 200, further calls lead to a send that
returns `Ok`. -/
inductive CanSend : deps.loadbalancer.Pool → Prop
  | now {pool : deps.loadbalancer.Pool} {inner : HttpEgress} {request : HttpRequest}
      {resp : HttpResponse} (answers : inner.Answers 200)
      (sends : (LoadBalancedHttpEgress.send deps inner request).value pool = .ok resp) : CanSend pool
  | later {pool : deps.loadbalancer.Pool} (call : EgressCall) (answers : call.inner.Answers 200)
      (after : CanSend ((call.perform deps).state pool)) : CanSend pool

/-- The call is sent to the backend and fails there. -/
def FailsOn (id : BackendId) (pool : deps.loadbalancer.Pool) (call : EgressCall) : Prop :=
  ∃ request backend url, call.request? = some request ∧
    (deps.loadbalancer.select pool).1 = .ok backend ∧ backend.id = id ∧
    rewriteUrl deps request.url backend.url = .ok url ∧ call.outcomeAt deps url ≠ .success

variable {deps} {pool : deps.loadbalancer.Pool}
  {call : EgressCall} {id : BackendId}

section Health
variable (health : deps.loadbalancer.Health)

/-- No call adds or removes a backend. -/
theorem member_perform (b : Backend) :
    health.Member ((call.perform deps).state pool) b ↔ health.Member pool b := by
  cases call.course pool with
  | untouched _ state => rw [state]
  | refused _ state | unusable _ _ _ state => rw [state, health.member_select]
  | sent _ _ _ state => rw [state, health.member_report, health.member_select]

/-- A backend is selectable after a call when it was before and did not fail in
the call. -/
theorem selectable_perform :
    health.Selectable ((call.perform deps).state pool) id ↔
      health.Selectable pool id ∧ ¬ FailsOn deps id pool call := by
  cases call.course pool with
  | untouched needless state =>
    have spared : ¬ FailsOn deps id pool call := by
      rintro ⟨request, _, _, needs, _⟩
      cases needless.symm.trans needs
    simp [state, spared]
  | refused selected state =>
    have spared : ¬ FailsOn deps id pool call := by
      rintro ⟨_, _, _, _, selects, _⟩
      cases selected.symm.trans selects
    simp [state, health.selectable_select, spared]
  | unusable needs selected unusable state =>
    have spared : ¬ FailsOn deps id pool call := by
      rintro ⟨_, _, url, needs', selected', _, usable, _⟩
      cases needs.symm.trans needs'
      cases selected.symm.trans selected'
      exact unusable (rewriteUrl_ok_iff.mp ⟨url, usable⟩)
    simp [state, health.selectable_select, spared]
  | @sent request backend url needs selected usable state =>
    obtain ⟨member, selectable⟩ := health.selected selected
    have member' := (health.member_select pool backend).mpr member
    have fails : FailsOn deps id pool call ↔ id = backend.id ∧ call.outcomeAt deps url ≠ .success := by
      constructor
      · rintro ⟨_, _, _, needs', selected', rfl, usable', fails⟩
        cases needs.symm.trans needs'
        cases selected.symm.trans selected'
        cases usable.symm.trans usable'
        exact ⟨rfl, fails⟩
      · rintro ⟨rfl, fails⟩
        exact ⟨request, backend, url, needs, selected, rfl, usable, fails⟩
    rw [state, health.selectable_report member', health.selectable_select, fails]
    by_cases same : id = backend.id
    · subst same
      simp [selectable]
    · simp [same]

/-- A backend is selectable after a run when it was before and failed in none of
its calls. -/
theorem selectable_run {start : deps.loadbalancer.Pool} {history : List EgressCall}
    {s : ClientState deps} (ran : (clientMachine deps start).exec history = some s) :
    health.Selectable s.pool id ↔ health.Selectable start id ∧
      (clientMachine deps start).Throughout (fun _ s call => ¬ FailsOn deps id s.pool call) history := by
  induction history using List.reverseRecOn generalizing s with
  | nil =>
    cases ran
    simp [clientMachine]
  | append_singleton history call ih =>
    obtain ⟨before, reached, step⟩ := exec_snoc.mp ran
    cases step
    have spared : (∀ t, (clientMachine deps start).exec history = some t → ¬ FailsOn deps id t.pool call) ↔
        ¬ FailsOn deps id before.pool call := by
      simp [reached]
    rw [selectable_perform, ih reached, throughout_snoc, spared, and_assoc]

/-- The backends after a run are those before it. -/
theorem member_run {start : deps.loadbalancer.Pool} {history : List EgressCall}
    {s : ClientState deps} (ran : (clientMachine deps start).exec history = some s) (b : Backend) :
    health.Member s.pool b ↔ health.Member start b := by
  refine (clientMachine deps start).invariant
    (I := fun s => health.Member s.pool b ↔ health.Member start b) Iff.rfl ?_ ran
  intro s call s' same step
  cases step
  exact (member_perform health b).trans same

end Health

section Sending
variable {inner : HttpEgress} {request : HttpRequest}

/-- A send that returns `Ok` went to a backend with a URL. -/
theorem selected_of_send {resp : HttpResponse}
    (sends : (LoadBalancedHttpEgress.send deps inner request).value pool = .ok resp) :
    ∃ b, (deps.loadbalancer.select pool).1 = .ok b ∧ deps.url.Parses b.url := by
  obtain ⟨answer, next, selects⟩ : ∃ answer next, deps.loadbalancer.select pool = (answer, next) :=
    ⟨_, _, rfl⟩
  simp only [LoadBalancedHttpEgress.send, Traced.value] at sends
  cases answer with
  | error e =>
    rw [balanced_of_refused selects] at sends
    cases sends
  | ok b =>
    cases rewritten : rewriteUrl deps request.url b.url with
    | error e =>
      rw [balanced_of_unusable selects rewritten] at sends
      cases sends
    | ok url => exact ⟨b, by rw [selects], (rewriteUrl_ok_iff.mp ⟨url, rewritten⟩).1⟩

variable (request) in
/-- When the backend handed out and the request have URLs, a send reaches the
inner client. -/
theorem canSend_of_selected {b : Backend} (answers : inner.Answers 200)
    (selected : (deps.loadbalancer.select pool).1 = .ok b) (parses : deps.url.Parses b.url)
    (requestParses : deps.url.Parses request.url) : CanSend deps pool := by
  obtain ⟨answer, next, selects⟩ : ∃ answer next, deps.loadbalancer.select pool = (answer, next) :=
    ⟨_, _, rfl⟩
  rw [selects] at selected
  cases selected
  obtain ⟨url, rewritten⟩ := rewriteUrl_ok_iff.mpr ⟨parses, requestParses⟩
  obtain ⟨resp, answered, _⟩ := answers.send { request with url := url }
  have sends : (LoadBalancedHttpEgress.send deps inner request).value pool = .ok resp := by
    simp only [LoadBalancedHttpEgress.send, Traced.value]
    rw [balanced_of_usable selects rewritten]
    exact answered
  exact .now answers sends

/-- A backend with a URL that the pool comes to in the end can be sent to. -/
theorem canSend_of_turn {b : Backend} (parses : deps.url.Parses b.url) (n : Nat)
    (turn : (deps.loadbalancer.select
      ((fun p => (deps.loadbalancer.select p).2)^[n] pool)).1 = .ok b) : CanSend deps pool := by
  let inner : HttpEgress := .answering 200 (.error (.internal ""))
  let request : HttpRequest := ⟨.get, b.url, [], none⟩
  have answers : inner.Answers 200 := HttpEgress.answers_answering 200 _
  induction n generalizing pool with
  | zero => exact canSend_of_selected request answers turn parses parses
  | succ n ih =>
    rw [Function.iterate_succ_apply] at turn
    have after := ih turn
    cases (EgressCall.send inner request).course pool with
    | untouched needless => cases needless
    | refused _ state | unusable _ _ _ state =>
      rw [← state] at after
      exact .later (.send inner request) answers after
    | sent needs selected usable =>
      cases needs
      exact canSend_of_selected request answers selected (rewriteUrl_ok_iff.mp ⟨_, usable⟩).1 parses

end Sending

/-- Some continuation sends exactly when a backend with a URL is selectable. -/
theorem canSend_iff (health : deps.loadbalancer.Health) : CanSend deps pool ↔
    ∃ b, health.Member pool b ∧ health.Selectable pool b.id ∧ deps.url.Parses b.url := by
  constructor
  · intro can
    induction can with
    | now _ sends =>
      obtain ⟨b, selected, parses⟩ := selected_of_send sends
      obtain ⟨member, selectable⟩ := health.selected selected
      exact ⟨b, member, selectable, parses⟩
    | later _ _ _ ih =>
      obtain ⟨b, member, selectable, parses⟩ := ih
      exact ⟨b, (member_perform health b).mp member, ((selectable_perform health).mp selectable).1, parses⟩
  · rintro ⟨b, member, selectable, parses⟩
    obtain ⟨n, turn⟩ := health.fair member selectable
    exact canSend_of_turn parses n turn

variable {inner : HttpEgress} {σ α : Type}

/-- After a history of calls on a service client, some continuation through the
same interface sends exactly when the service has a backend with a URL on which
no call of the history failed. -/
theorem service_client_recovers_iff (health : deps.loadbalancer.Health)
    (builder : RuntimeBuilder σ α) (config : RuntimeConfig) (service : ServiceEgressConfig)
    (registry : ServiceRegistry deps) (name : String) (client : LoadBalancedHttpEgress deps)
    (configured : builder.config = some config)
    (entry : config.services[name]? = some service)
    (built : builder.buildRegistry deps inner = some registry)
    (registered : registry.service name = some client) (history : List EgressCall)
    (s : ClientState deps) (ran : (clientMachine deps client.pool).exec history = some s) :
    CanSend deps s.pool ↔
      ∃ c ∈ deps.loadbalancer.backends service.loadbalancer, deps.url.Parses c.url ∧
        (clientMachine deps client.pool).Throughout
          (fun _ s call => ¬ FailsOn deps c.backend.id s.pool call) history := by
  have pool := serviceClient_pool (buildRegistry_service built configured entry registered)
  rw [canSend_iff health]
  constructor
  · rintro ⟨b, member, selectable, parses⟩
    obtain ⟨c, held, rfl⟩ := (health.member_built pool b).mp ((member_run health ran b).mp member)
    exact ⟨c, held, parses, ((selectable_run health ran).mp selectable).2⟩
  · rintro ⟨c, held, parses, spared⟩
    have member : health.Member client.pool c.backend := (health.member_built pool _).mpr ⟨c, held, rfl⟩
    have selectable := health.selectable_built pool _ member
    exact ⟨c.backend, (member_run health ran _).mpr member,
      (selectable_run health ran).mpr ⟨selectable, spared⟩, parses⟩

end

section Reference

attribute [local instance] Platform.pooled

namespace RoundRobin
variable {pool : List Slot} {slot : Slot}

/-- A selection takes the first healthy backend and puts it last, or finds none
and leaves the pool. -/
theorem select_cases (skipped rest : List Slot) (sick : ∀ t ∈ skipped, t.healthy = false) :
    (∃ before t after, skipped ++ rest = before ++ t :: after ∧ (∀ u ∈ before, u.healthy = false) ∧
      t.healthy = true ∧ select skipped rest = (.ok t.config.backend, after ++ before ++ [t])) ∨
    (∀ t ∈ skipped ++ rest, t.healthy = false) ∧
      ∃ e, select skipped rest = (.error e, skipped ++ rest) := by
  induction rest generalizing skipped with
  | nil => exact .inr ⟨by simpa using sick, _, by rw [select, List.append_nil]⟩
  | cons t rest ih =>
    by_cases healthy : t.healthy = true
    · exact .inl ⟨skipped, t, rest, rfl, sick, healthy, by simp [select, healthy]⟩
    · have unhealthy : t.healthy = false := by simpa using healthy
      have next : select skipped (t :: rest) = select (skipped ++ [t]) rest := by
        simp [select, unhealthy]
      have skip : ∀ u ∈ skipped ++ [t], u.healthy = false := by
        intro u held
        rcases List.mem_append.mp held with earlier | here
        · exact sick u earlier
        · rwa [List.mem_singleton.mp here]
      rw [next]
      simpa using ih (skipped ++ [t]) skip

/-- A selection keeps the slots. -/
theorem mem_select : slot ∈ (select [] pool).2 ↔ slot ∈ pool := by
  rcases select_cases [] pool (by simp) with ⟨before, t, after, split, _, _, selects⟩ | ⟨_, e, selects⟩
  · rw [List.nil_append] at split
    rw [selects, split]
    simp only [List.mem_append, List.mem_cons, List.not_mem_nil, or_false]
    tauto
  · rw [selects, List.nil_append]

/-- A healthy slot comes to the front: every selection before its turn moves it up. -/
theorem turn_comes (healthy : slot.healthy = true) (ahead behind : List Slot)
    (split : pool = ahead ++ slot :: behind) :
    ∃ n, (select [] ((fun p => (select [] p).2)^[n] pool)).1 = .ok slot.config.backend := by
  induction length : ahead.length using Nat.strong_induction_on generalizing pool ahead behind with
  | _ k ih =>
    have now : (select [] pool).1 = .ok slot.config.backend →
        ∃ n, (select [] ((fun p => (select [] p).2)^[n] pool)).1 = .ok slot.config.backend :=
      fun first => ⟨0, first⟩
    rcases select_cases [] pool (by simp) with ⟨before, t, after, cut, sick, _, selects⟩ | ⟨sick, _, _⟩
    · rw [List.nil_append, split] at cut
      rcases List.append_eq_append_iff.mp cut with ⟨between, rfl, shape⟩ | ⟨between, rfl, shape⟩
      · cases between with
        | nil =>
          cases shape
          exact now (by rw [selects])
        | cons u between =>
          cases shape
          exact absurd healthy (by simp [sick slot (by simp)])
      · cases between with
        | nil =>
          cases shape
          exact now (by rw [selects])
        | cons u between =>
          obtain ⟨rfl, rfl⟩ := List.cons.inj shape
          have shorter : between.length < k := by
            rw [← length]
            simp only [List.length_append, List.length_cons]
            omega
          obtain ⟨n, turn⟩ := ih between.length shorter between (behind ++ before ++ [t]) rfl rfl
          refine ⟨n + 1, ?_⟩
          rw [Function.iterate_succ_apply, selects]
          simpa using turn
    · exact absurd healthy (by simp [sick slot (by simp [split])])

/-- A report sets the health of every slot of its backend. -/
theorem exists_report_iff {id other : BackendId} {outcome : Outcome} :
    (∃ t ∈ report pool id outcome, t.config.backend.id = other ∧ t.healthy = true) ↔
      ∃ t ∈ pool, t.config.backend.id = other ∧
        if other = id then outcome = .success else t.healthy = true := by
  simp only [report, List.mem_map, exists_exists_and_eq_and]
  refine exists_congr fun t => and_congr_right fun _ => ?_
  by_cases same : t.config.backend.id = id
  · by_cases here : other = id
    · simp [same, here]
    · simp [same, here, Ne.symm here]
  · by_cases here : other = id
    · simp [same, here]
    · simp [same, here]

/-- What a built pool holds. -/
theorem build_eq {config : List BackendConfig} (built : build config = .ok pool) :
    pool = config.map fun c => ⟨c, true⟩ := by
  unfold build at built
  split at built
  · cases built
  split at built
  · cases built
  split at built
  · cases built
  · exact (Except.ok.inj built).symm

theorem backend_of_id {c d : BackendConfig} (same : c.backend.id = d.backend.id) :
    c.backend = d.backend := by
  simp only [BackendConfig.backend, BackendId.mk.injEq] at same ⊢
  simp [same]

/-- Round-robin pools keep the promises. -/
def health : LoadbalancerSvc.roundRobin.Health :=
  { Member := fun pool b => ∃ t ∈ pool, b = t.config.backend
    Selectable := fun pool id => ∃ t ∈ pool, t.config.backend.id = id ∧ t.healthy = true
    member_built := by
      intro config pool built b
      rw [build_eq built]
      simp
    selectable_built := by
      intro config pool built b member
      rw [build_eq built] at member ⊢
      obtain ⟨t, held, rfl⟩ := member
      obtain ⟨c, configured, rfl⟩ := List.mem_map.mp held
      exact ⟨_, held, rfl, rfl⟩
    selected := by
      intro pool b selected
      rcases select_cases [] pool (by simp) with
        ⟨before, t, after, split, _, healthy, selects⟩ | ⟨_, e, selects⟩
      · have same : t.config.backend = b := by simpa [selects] using selected
        have held : t ∈ pool := by simp [show pool = _ from split]
        subst same
        exact ⟨⟨t, held, rfl⟩, t, held, rfl, healthy⟩
      · simp [selects] at selected
    member_select := by
      intro pool b
      simp only [mem_select]
    selectable_select := by
      intro pool id
      simp only [mem_select]
    member_report := by
      intro pool id outcome b
      simp only [report, List.mem_map, exists_exists_and_eq_and]
      refine exists_congr fun t => and_congr_right fun _ => ?_
      split <;> rfl
    selectable_report := by
      intro pool b member outcome id
      rw [exists_report_iff]
      by_cases same : id = b.id
      · obtain ⟨t, held, rfl⟩ := member
        simp only [same, if_true]
        exact ⟨fun ⟨_, _, _, outcome⟩ => outcome, fun success => ⟨t, held, rfl, success⟩⟩
      · simp only [same, if_false]
    fair := by
      intro pool b member selectable
      obtain ⟨t, held, same, healthy⟩ := selectable
      obtain ⟨u, _, rfl⟩ := member
      obtain ⟨ahead, behind, split⟩ := List.append_of_mem held
      rw [← backend_of_id same]
      exact turn_comes healthy ahead behind split }

end RoundRobin

/-- The crates on one backend and one request URL. -/
private abbrev oneBackend : EgressDeps :=
  .reference ["https://only-backend.internal", "https://irrelevant.test"]

private abbrev userService : ServiceEgressConfig := ⟨[⟨"https://only-backend.internal", 1⟩]⟩

private abbrev userServiceConfig : RuntimeConfig :=
  { services := (∅ : Std.ExtTreeMap String ServiceEgressConfig).insert "user-service" userService }

private abbrev userServiceBuilder : RuntimeBuilder Unit Unit :=
  { egressHttp := some (.ok ()), config := some userServiceConfig }

private abbrev irrelevant : HttpRequest := ⟨.get, "https://irrelevant.test", [], none⟩

/-- A service whose only backend answered 404 once can still send. -/
theorem service_client_recovers_iff_not_found :
    let history : List EgressCall := [.send (.answering 404 (.ok ())) irrelevant]
    ∃ registry client s,
      userServiceBuilder.buildRegistry oneBackend (.answering 200 (.ok ())) = some registry ∧
      registry.service "user-service" = some client ∧
      (clientMachine oneBackend client.pool).exec history = some s ∧
      (CanSend oneBackend s.pool ↔
        ∃ c ∈ oneBackend.loadbalancer.backends userService.loadbalancer, oneBackend.url.Parses c.url ∧
          (clientMachine oneBackend client.pool).Throughout
            (fun _ s call => ¬ FailsOn oneBackend c.backend.id s.pool call) history) := by
  intro history
  obtain ⟨registry, client, s, built, registered, ran⟩ : ∃ registry client s,
      userServiceBuilder.buildRegistry oneBackend (.answering 200 (.ok ())) = some registry ∧
      registry.service "user-service" = some client ∧
      (clientMachine oneBackend client.pool).exec history = some s := ⟨_, _, _, rfl, rfl, rfl⟩
  exact ⟨registry, client, s, built, registered, ran,
    service_client_recovers_iff RoundRobin.health userServiceBuilder userServiceConfig userService
      registry "user-service" client rfl rfl built registered history s ran⟩

/-- One 503 of its only backend, and a service client never sends again. -/
theorem one_server_error_stops_the_client :
    ∃ registry client s,
      userServiceBuilder.buildRegistry oneBackend (.answering 200 (.ok ())) = some registry ∧
      registry.service "user-service" = some client ∧
      (clientMachine oneBackend client.pool).exec [.send (.answering 503 (.ok ())) irrelevant] =
        some s ∧
      ¬ CanSend oneBackend s.pool := by
  refine ⟨_, _, _, rfl, rfl, rfl, ?_⟩
  rw [canSend_iff RoundRobin.health]
  rintro ⟨b, _, ⟨t, held, _, healthy⟩, _⟩
  have sick : t.healthy = false := by
    rw [List.mem_singleton.mp held]
    rfl
  rw [sick] at healthy
  cases healthy

end Reference

end EdgeBootstrap
