import EdgeBootstrap.Platform
import EdgeBootstrap.Library.StepMachine
import EdgeBootstrap.Library.Traced

/-! `LoadBalancedHttpEgress`: a client that selects a backend for every request,
rewrites the request's URL to it, delegates to an inner client and reports to
the pool how that went. The pool and the URL parser belong to other crates; what
the inner client answers is an input of every call. -/
namespace EdgeBootstrap
open StepMachine

/-- `HttpEgressError`, with the variant this repository builds. -/
inductive HttpEgressError
  | internal (msg : String)
  | other (variant msg : String)
  deriving DecidableEq, Repr

structure HttpStreamResponse where
  status : Nat
  headers : List (String × String)
  deriving DecidableEq, Repr

/-- How a client answers: `dyn HttpEgress` at the time of one call. Its requests
and responses are modelled by the types of the ingress crate; only a URL and a
status are read here. -/
structure HttpEgress [Platform] where
  send : HttpRequest → Except HttpEgressError HttpResponse
  sendStream : HttpRequest → Except HttpEgressError HttpStreamResponse
  healthCheck : Except HttpEgressError Unit
  config : Except HttpEgressError Platform.HttpConfig

/-- A client that answers every request with a status. -/
def HttpEgress.answering [Platform] (status : Nat) (config : Except HttpEgressError Platform.HttpConfig) :
    HttpEgress where
  send _ := .ok (.new status [])
  sendStream _ := .ok ⟨status, []⟩
  healthCheck := .ok ()
  config := config

/-- `BackendId`, the backend's URL. -/
structure BackendId where
  url : String
  deriving DecidableEq, Repr

/-- What `select` hands out. -/
structure Backend where
  id : BackendId
  url : String
  deriving DecidableEq, Repr

structure BackendConfig where
  url : String
  weight : Nat
  deriving DecidableEq, Repr

/-- The backend a configured one becomes. -/
def BackendConfig.backend (c : BackendConfig) : Backend := ⟨⟨c.url⟩, c.url⟩

inductive Outcome
  | success
  | failure (reason : String)
  deriving DecidableEq, Repr

/-- `LoadbalancerSvc` and its pools. Errors are their texts. -/
structure LoadbalancerSvc [Platform] where
  Pool : Type
  backends : Platform.LoadbalancerConfig → List BackendConfig
  buildPool : Platform.LoadbalancerConfig → Except String Pool
  select : Pool → Except String Backend × Pool
  reportOutcome : Pool → BackendId → Outcome → Pool
  backendCount : Pool → Nat

/-- A reference environment whose pool configurations are their backends. -/
@[reducible] def Platform.pooled : Platform :=
  { Platform.reference with LoadbalancerConfig := List BackendConfig }

/-- A backend of a round-robin pool, and whether it is healthy. -/
structure Slot where
  config : BackendConfig
  healthy : Bool
  deriving DecidableEq, Repr

namespace RoundRobin

/-- The first healthy backend, which goes to the back with those before it. -/
def select (skipped : List Slot) : List Slot → Except String Backend × List Slot
  | [] => (.error "no healthy backend available", skipped)
  | slot :: rest =>
    if slot.healthy then (.ok slot.config.backend, rest ++ skipped ++ [slot])
    else select (skipped ++ [slot]) rest

def report (pool : List Slot) (id : BackendId) (outcome : Outcome) : List Slot :=
  pool.map fun slot =>
    if slot.config.backend.id = id then { slot with healthy := decide (outcome = .success) } else slot

/-- A pool needs a backend, and of each backend a URL and a weight. -/
def build (config : List BackendConfig) : Except String (List Slot) :=
  if config = [] then .error "no backends configured"
  else if ∃ c ∈ config, c.url = "" then .error "backend URL must not be empty"
  else if ∃ c ∈ config, c.weight = 0 then .error "backend weight must be positive"
  else .ok (config.map fun c => ⟨c, true⟩)

end RoundRobin

/-- Round-robin pools. -/
@[reducible] def LoadbalancerSvc.roundRobin : @LoadbalancerSvc Platform.pooled :=
  letI := Platform.pooled
  { Pool := List Slot
    backends := fun config => config
    buildPool := RoundRobin.build
    select := RoundRobin.select []
    reportOutcome := RoundRobin.report
    backendCount := List.length }

/-- `url::Url`, as `rewrite_url` uses it. Errors are their texts. -/
structure UrlCrate where
  Url : Type
  parse : String → Except String Url
  path : Url → String
  query : Url → Option String
  fragment : Url → Option String
  setPath : Url → String → Url
  setQuery : Url → Option String → Url
  setFragment : Url → Option String → Url
  toText : Url → String

/-- The text is a URL. -/
def UrlCrate.Parses (crate : UrlCrate) (text : String) : Prop := ∃ u, crate.parse text = .ok u

/-- A URL whose scheme and host are given as one text. -/
structure HostUrl where
  origin : String
  path : String := "/"
  query : Option String := none
  fragment : Option String := none
  deriving DecidableEq, Repr

/-- The parser on some URLs that have no path of their own, and on texts that
are no URL. -/
def UrlCrate.hosts (origins : List String) : UrlCrate where
  Url := HostUrl
  parse text := if text ∈ origins then .ok { origin := text } else .error "relative URL without a base"
  path := HostUrl.path
  query := HostUrl.query
  fragment := HostUrl.fragment
  setPath u path := { u with path }
  setQuery u query := { u with query }
  setFragment u fragment := { u with fragment }
  toText u := u.origin ++ u.path ++ ((u.query.map ("?" ++ ·)).getD "") ++
    ((u.fragment.map ("#" ++ ·)).getD "")

/-- The crates the client is built on. -/
structure EgressDeps [Platform] where
  loadbalancer : LoadbalancerSvc
  url : UrlCrate
  isServerError : HttpResponse → Bool
  errorText : HttpEgressError → String

/-- The reference crates: round-robin pools, and the given origins as the URLs. -/
@[reducible] def EgressDeps.reference (origins : List String) : @EgressDeps Platform.pooled :=
  letI := Platform.pooled
  { loadbalancer := .roundRobin
    url := .hosts origins
    isServerError := fun resp => decide (500 ≤ resp.status)
    errorText := fun e =>
      match e with
      | .internal msg | .other _ msg => msg }

/-- What the client does to the pool and to the inner client. -/
inductive EgressEvent
  | selected (backend : Backend)
  | delegated (request : HttpRequest)
  | reported (id : BackendId) (outcome : Outcome)

namespace EgressEvent

/-- The backend a selection handed out. -/
def selection? : EgressEvent → Option BackendId
  | .selected backend => some backend.id
  | _ => none

/-- The outcome reported, and for which backend. -/
def report? : EgressEvent → Option (BackendId × Outcome)
  | .reported id outcome => some (id, outcome)
  | _ => none

end EgressEvent

variable [Platform] (deps : EgressDeps)

/-- A client around a pool. -/
structure LoadBalancedHttpEgress where
  inner : HttpEgress
  pool : deps.loadbalancer.Pool

inductive LoadBalancedHttpEgressError
  | invalidConfig (msg : String)
  deriving DecidableEq, Repr

namespace LoadBalancedHttpEgress

variable {deps}

variable (deps) in
def new (inner : HttpEgress) (config : Platform.LoadbalancerConfig) :
    Except LoadBalancedHttpEgressError (LoadBalancedHttpEgress deps) :=
  match deps.loadbalancer.buildPool config with
  | .ok pool => .ok ⟨inner, pool⟩
  | .error e => .error (.invalidConfig e)

variable (deps) in
/-- A computation on the pool of a client. -/
abbrev OnPool (β : Type) : Type := Traced deps.loadbalancer.Pool EgressEvent β

variable (deps) in
/-- `report_outcome`. -/
def reportOutcome (id : BackendId) (outcome : Outcome) : OnPool deps Unit := do
  Traced.modify fun pool => deps.loadbalancer.reportOutcome pool id outcome
  Traced.tell (.reported id outcome)

variable (deps) in
def select : OnPool deps (Except String Backend) := do
  let answer ← Traced.zoom id (fun pool _ => pool) deps.loadbalancer.select
  match answer with
  | .ok backend => Traced.tell (.selected backend)
  | .error _ => pure ()
  return answer

def backendCount (self : LoadBalancedHttpEgress deps) : Nat :=
  deps.loadbalancer.backendCount self.pool

variable (deps) in
def rewriteUrl (orig backendUrl : String) : Except HttpEgressError String := do
  let base ← (deps.url.parse backendUrl).mapError fun e => .internal ("invalid backend URL: " ++ e)
  let origUrl ← (deps.url.parse orig).mapError fun e => .internal ("invalid request URL: " ++ e)
  let base := deps.url.setPath base (deps.url.path origUrl)
  let base := deps.url.setQuery base (deps.url.query origUrl)
  let base := deps.url.setFragment base (deps.url.fragment origUrl)
  return deps.url.toText base

variable (deps) in
/-- What `send` and `send_stream` share: `call` is the inner client's operation
and `outcome` what is reported of its result. -/
def balanced {R : Type} (call : HttpRequest → Except HttpEgressError R)
    (outcome : Except HttpEgressError R → Outcome) (request : HttpRequest) :
    OnPool deps (Except HttpEgressError R) := do
  match ← select deps with
  | .error e => return .error (.internal e)
  | .ok backend =>
    match rewriteUrl deps request.url backend.url with
    -- the `?` leaves here, before anything is reported
    | .error e => return .error e
    | .ok url =>
      let request := { request with url := url }
      Traced.tell (.delegated request)
      let result := call request
      reportOutcome deps backend.id (outcome result)
      return result

variable (deps) in
/-- What `send` reports of a result. -/
def sendOutcome : Except HttpEgressError HttpResponse → Outcome
  | .ok resp =>
    if deps.isServerError resp then .failure ("status " ++ toString resp.status) else .success
  | .error e => .failure (deps.errorText e)

variable (deps) in
/-- What `send_stream` reports of a result. -/
def streamOutcome : Except HttpEgressError HttpStreamResponse → Outcome
  | .ok _ => .success
  | .error e => .failure (deps.errorText e)

variable (deps) in
def send (inner : HttpEgress) (request : HttpRequest) :
    OnPool deps (Except HttpEgressError HttpResponse) :=
  balanced deps inner.send (sendOutcome deps) request

variable (deps) in
def sendStream (inner : HttpEgress) (request : HttpRequest) :
    OnPool deps (Except HttpEgressError HttpStreamResponse) :=
  balanced deps inner.sendStream (streamOutcome deps) request

variable (deps) in
def healthCheck (inner : HttpEgress) : OnPool deps (Except HttpEgressError Unit) :=
  pure inner.healthCheck

variable (deps) in
def config (inner : HttpEgress) : OnPool deps (Except HttpEgressError Platform.HttpConfig) :=
  pure inner.config

section Balanced
variable {R : Type} {call : HttpRequest → Except HttpEgressError R}
  {outcome : Except HttpEgressError R → Outcome} {request : HttpRequest}
  {pool pool' : deps.loadbalancer.Pool} {backend : Backend} {e : String}

/-- `rewrite_url` needs both its URLs to parse, and nothing else. -/
theorem rewriteUrl_ok_iff {orig backendUrl : String} :
    (∃ url, rewriteUrl deps orig backendUrl = .ok url) ↔
      deps.url.Parses backendUrl ∧ deps.url.Parses orig := by
  unfold rewriteUrl UrlCrate.Parses
  cases deps.url.parse backendUrl with
  | error e => simp [Except.mapError, bind, Except.bind]
  | ok base =>
    cases deps.url.parse orig with
    | error e => simp [Except.mapError, bind, Except.bind]
    | ok u => simp [Except.mapError, bind, Except.bind, pure, Except.pure]

/-- No backend: the call ends there. -/
theorem balanced_of_refused (refused : deps.loadbalancer.select pool = (.error e, pool')) :
    balanced deps call outcome request pool = (.error (.internal e), pool', []) := by
  simp [balanced, select, bind, pure, Traced.zoom, refused]

/-- A backend, and no URL for it: the call ends with the selection unanswered. -/
theorem balanced_of_unusable {failed : HttpEgressError}
    (selected : deps.loadbalancer.select pool = (.ok backend, pool'))
    (unusable : rewriteUrl deps request.url backend.url = .error failed) :
    balanced deps call outcome request pool = (.error failed, pool', [.selected backend]) := by
  simp [balanced, select, bind, pure, Traced.zoom, Traced.tell, selected, unusable]

/-- A backend and a URL for it: the call is made and its outcome reported. -/
theorem balanced_of_usable {url : String}
    (selected : deps.loadbalancer.select pool = (.ok backend, pool'))
    (usable : rewriteUrl deps request.url backend.url = .ok url) :
    let result := call { request with url := url }
    balanced deps call outcome request pool =
      (result, deps.loadbalancer.reportOutcome pool' backend.id (outcome result),
        [.selected backend, .delegated { request with url := url },
          .reported backend.id (outcome result)]) := by
  simp [balanced, select, reportOutcome, bind, pure, Traced.zoom, Traced.tell, Traced.modify,
    selected, usable]

end Balanced

end LoadBalancedHttpEgress

end EdgeBootstrap
