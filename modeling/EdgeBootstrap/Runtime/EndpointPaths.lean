import EdgeBootstrap.Dispatch.HttpJob
import EdgeBootstrap.Metrics.Handler
import EdgeBootstrap.Runtime.HealthHandler
import EdgeBootstrap.Rust.Uri
import Mathlib.Data.List.DropRight

/-! Which URLs the runtime's own endpoints answer, against the path their routes
would be found by. The endpoints cut the query off the text of the URL; the job
asks for the path of the URI, without its fragment and without scheme and
authority. -/
namespace EdgeBootstrap
open Rust.Url

theorem Rust.trimEndMatches_isPrefix (c : Char) (s : String) :
    (Rust.trimEndMatches c s).toList <+: s.toList := by
  rw [Rust.trimEndMatches, String.toList_ofList]
  exact List.rdropWhile_prefix _ _

/-- Trimming removes no other character. -/
theorem Rust.mem_trimEndMatches {c d : Char} {s : String} (other : d ≠ c) :
    d ∈ (Rust.trimEndMatches c s).toList ↔ d ∈ s.toList := by
  constructor
  · exact fun member => (trimEndMatches_isPrefix c s).subset member
  · intro member
    rw [Rust.trimEndMatches, String.toList_ofList, List.mem_reverse]
    have inside : d ∈ s.toList.reverse := List.mem_reverse.mpr member
    rw [← List.takeWhile_append_dropWhile (p := fun x => decide (x = c)) (l := s.toList.reverse),
      List.mem_append] at inside
    rcases inside with trimmed | kept
    · exact absurd (by simpa using List.mem_takeWhile_imp trimmed) other
    · exact kept

/-- The text of a URL before its query. -/
def beforeQuery (url : String) : List Char := url.toList.takeWhile (· ≠ '?')

theorem beforeQuery_isPrefix (url : String) : beforeQuery url <+: url.toList :=
  List.takeWhile_prefix _

theorem endpointPath_eq (url : String) :
    endpointPath url = Rust.trimEndMatches '/' (.ofList (beforeQuery url)) := rfl

theorem pathPart_eq (url : String) :
    pathPart url.toList = (beforeQuery url).takeWhile (· ≠ '#') := by
  rw [beforeQuery, List.takeWhile_takeWhile, pathPart]
  congr 1
  funext c
  by_cases query : c = '?' <;> by_cases fragment : c = '#' <;> simp [endsPath, query, fragment]

section
variable [Platform] {σ α : Type} {url p : String} {scheme authority rest : List Char}

/-- The request is answered when the paths match, and is not found otherwise. -/
structure FoundWhen (found : Prop) (answer : Except HttpIngressError HttpResponse) : Prop where
  served : found → ∃ resp, answer = .ok resp
  refused : ¬ found → ∃ msg, answer = .error (.notFound msg)

/-- The paths as the job finds routes by them, without trailing slashes. -/
def SamePath (url p : String) : Prop :=
  Rust.trimEndMatches '/' (DefaultHttpJob.pathFromUrl url) = Rust.trimEndMatches '/' p

/-- A URL in origin form has no fragment before its query, or neither with the
fragment nor without is it the path; one in absolute form is no URI, or one with
another path. -/
structure Unmistakable (url p : String) : Prop where
  origin : url.toList.head? = some '/' → '#' ∉ beforeQuery url ∨
    (Rust.trimEndMatches '/' (.ofList (beforeQuery url)) ≠ Rust.trimEndMatches '/' p ∧
      Rust.trimEndMatches '/' (.ofList (pathPart url.toList)) ≠ Rust.trimEndMatches '/' p)
  absolute : ∀ scheme authority rest, IsAbsolute url.toList scheme authority rest →
    Platform.uriPath url ≠ none →
    Rust.trimEndMatches '/' (.ofList (absolutePath rest)) ≠ Rust.trimEndMatches '/' p

omit [Platform] in
theorem foundWhen_iff {answer : Except HttpIngressError HttpResponse} {matched found : Prop}
    (served : matched → ∃ resp, answer = .ok resp)
    (refused : ¬ matched → ∃ msg, answer = .error (.notFound msg)) :
    FoundWhen found answer ↔ (matched ↔ found) := by
  constructor
  · intro when
    constructor
    · intro matches_
      by_contra missing
      obtain ⟨_, ok⟩ := served matches_
      obtain ⟨_, error⟩ := when.refused missing
      rw [ok] at error
      cases error
    · intro there
      by_contra differs
      obtain ⟨_, ok⟩ := when.served there
      obtain ⟨_, error⟩ := refused differs
      rw [ok] at error
      cases error
  · intro same
    exact ⟨fun there => served (same.mpr there), fun missing => refused fun m => missing (same.mp m)⟩

/-- Over the origin form the job drops the fragment. -/
theorem pathFromUrl_of_origin (uri : Lawful Platform.uriPath) (rooted : url.toList.head? = some '/') :
    DefaultHttpJob.pathFromUrl url = .ofList (pathPart url.toList) := by
  unfold DefaultHttpJob.pathFromUrl
  cases parsed : Platform.uriPath url with
  | none => rw [pathPart_eq, beforeQuery]
  | some path =>
    rw [← uri.origin url path rooted parsed]
    exact String.ofList_toList.symm

omit [Platform] in
/-- What starts with a scheme is not the path, whatever is trimmed. -/
theorem trim_ne_of_scheme (absolute : IsAbsolute url.toList scheme authority rest)
    (rooted : p.toList.head? = some '/') {cs : List Char} (front : cs <+: url.toList)
    (colon : ':' ∈ cs) : Rust.trimEndMatches '/' (.ofList cs) ≠ Rust.trimEndMatches '/' p := by
  intro same
  have inUrl := (Rust.trimEndMatches_isPrefix '/' (.ofList cs))
  rw [String.toList_ofList] at inUrl
  have inPath := Rust.trimEndMatches_isPrefix '/' p
  rw [← same] at inPath
  have member : ':' ∈ (Rust.trimEndMatches '/' (.ofList cs)).toList := by
    rw [Rust.mem_trimEndMatches (by decide), String.toList_ofList]
    exact colon
  cases trimmed : (Rust.trimEndMatches '/' (.ofList cs)).toList with
  | nil =>
    rw [trimmed] at member
    cases member
  | cons c _ =>
    rw [trimmed] at inUrl inPath
    obtain ⟨_, path⟩ := inPath
    obtain ⟨_, whole⟩ := inUrl.trans front
    rw [← path] at rooted
    have first := absolute.unrooted
    rw [← whole] at first
    exact first rooted

omit [Platform] in
/-- The colon of an absolute URL stands before its query and its fragment. -/
theorem colon_mem_pathPart (absolute : IsAbsolute url.toList scheme authority rest) :
    ':' ∈ pathPart url.toList := by
  have inScheme : ∀ c ∈ scheme, (!endsPath c) = true := by
    intro c member
    have other := (absolute.scheme c member).2
    simp only [endsAuthority, Bool.or_eq_false_iff] at other
    simp [other.2]
  rw [absolute.shape, pathPart, List.takeWhile_append_of_pos inScheme]
  exact List.mem_append_right _ (by simp [endsPath])

omit [Platform] in
/-- A fragment before the query stays in the endpoint's path, and is no part of
the other. -/
theorem trim_ne_of_fragment (fragment : '#' ∈ beforeQuery url) :
    Rust.trimEndMatches '/' (.ofList (beforeQuery url)) ≠
      Rust.trimEndMatches '/' (.ofList (pathPart url.toList)) := by
  intro same
  have held : '#' ∈ (Rust.trimEndMatches '/' (.ofList (beforeQuery url))).toList := by
    rw [Rust.mem_trimEndMatches (by decide), String.toList_ofList]
    exact fragment
  rw [same, Rust.mem_trimEndMatches (by decide), String.toList_ofList, pathPart_eq] at held
  have cut := List.mem_takeWhile_imp held
  simp at cut

/-- In origin form the two paths differ by the fragment. -/
theorem endpointPath_iff_of_origin (uri : Lawful Platform.uriPath)
    (origin : url.toList.head? = some '/') :
    (endpointPath url = Rust.trimEndMatches '/' p ↔ SamePath url p) ↔ Unmistakable url p := by
  have only : Unmistakable url p ↔ '#' ∉ beforeQuery url ∨
      (Rust.trimEndMatches '/' (.ofList (beforeQuery url)) ≠ Rust.trimEndMatches '/' p ∧
        Rust.trimEndMatches '/' (.ofList (pathPart url.toList)) ≠ Rust.trimEndMatches '/' p) :=
    ⟨fun clear => clear.origin origin,
      fun clear => ⟨fun _ => clear, fun _ _ _ other => absurd origin other.unrooted⟩⟩
  rw [endpointPath_eq, SamePath, pathFromUrl_of_origin uri origin, only]
  by_cases fragment : '#' ∈ beforeQuery url
  · have differ := trim_ne_of_fragment fragment
    simp only [fragment, not_true_eq_false, false_or]
    constructor
    · intro same
      constructor
      · exact fun left => differ (left.trans (same.mp left).symm)
      · exact fun right => differ ((same.mpr right).trans right.symm)
    · rintro ⟨left, right⟩
      exact iff_of_false left right
  · have same : pathPart url.toList = beforeQuery url := by
      rw [pathPart_eq, List.takeWhile_eq_self_iff]
      intro c member
      have other : c ≠ '#' := by
        rintro rfl
        exact fragment member
      simpa using other
    simp [same, fragment]

/-- In absolute form the endpoint's path starts with the scheme, and is not `p`. -/
theorem endpointPath_iff_of_absolute (uri : Lawful Platform.uriPath)
    (rooted : p.toList.head? = some '/') (absolute : IsAbsolute url.toList scheme authority rest) :
    (endpointPath url = Rust.trimEndMatches '/' p ↔ SamePath url p) ↔ Unmistakable url p := by
  have colon := colon_mem_pathPart absolute
  have inQuery : ':' ∈ beforeQuery url := by
    rw [pathPart_eq] at colon
    exact List.takeWhile_subset _ colon
  have unmatched : Rust.trimEndMatches '/' (.ofList (beforeQuery url)) ≠ Rust.trimEndMatches '/' p :=
    trim_ne_of_scheme absolute rooted (beforeQuery_isPrefix url) inQuery
  have front : pathPart url.toList <+: url.toList := List.takeWhile_prefix _
  have elsewhere (origin : url.toList.head? = some '/') : False := absolute.unrooted origin
  rw [endpointPath_eq, SamePath, iff_false_left unmatched]
  unfold DefaultHttpJob.pathFromUrl
  cases parsed : Platform.uriPath url with
  | none =>
    have fallback : Rust.trimEndMatches '/' (.ofList (pathPart url.toList)) ≠ Rust.trimEndMatches '/' p :=
      trim_ne_of_scheme absolute rooted front colon
    rw [pathPart_eq] at fallback
    refine iff_of_true fallback ⟨fun origin => (elsewhere origin).elim, fun _ _ _ _ accepted => ?_⟩
    exact absurd parsed accepted
  | some path =>
    have held (scheme authority rest) (other : IsAbsolute url.toList scheme authority rest) :
        path = .ofList (absolutePath rest) := by
      rw [← uri.absolute url path scheme authority rest other parsed]
      exact String.ofList_toList.symm
    constructor
    · intro differ
      refine ⟨fun origin => (elsewhere origin).elim, fun scheme authority rest other _ => ?_⟩
      rw [← held scheme authority rest other]
      exact differ
    · intro clear
      have differ := clear.absolute scheme authority rest absolute (by simp [parsed])
      rwa [← held scheme authority rest absolute] at differ

/-- The endpoint's path and the job's are the same exactly where the URL cannot
be mistaken. -/
theorem endpointPath_iff (uri : Lawful Platform.uriPath) (rooted : p.toList.head? = some '/')
    (form : url.toList.head? = some '/' ∨
      ∃ scheme authority rest, IsAbsolute url.toList scheme authority rest) :
    (endpointPath url = Rust.trimEndMatches '/' p ↔ SamePath url p) ↔ Unmistakable url p := by
  rcases form with origin | ⟨scheme, authority, rest, absolute⟩
  · exact endpointPath_iff_of_origin uri origin
  · exact endpointPath_iff_of_absolute uri rooted absolute

/-- The health endpoint and the metrics endpoint answer a `GET` exactly where the
path the job finds routes by is theirs, and have nothing there otherwise, just
when the URL cannot be mistaken. -/
theorem endpoint_matches_iff (uri : Lawful Platform.uriPath) (health : DefaultHealthHandler σ α)
    (metrics : MetricsHandler) (req : HttpRequest) (method : req.method = .get)
    (form : req.url.toList.head? = some '/' ∨
      ∃ scheme authority rest, IsAbsolute req.url.toList scheme authority rest)
    (healthRooted : health.path.toList.head? = some '/')
    (metricsRooted : metrics.path.toList.head? = some '/') (now : UInt64)
    (records : List MetricRecord) :
    (FoundWhen (SamePath req.url health.path) (health.answer req now) ↔
      Unmistakable req.url health.path) ∧
    (FoundWhen (SamePath req.url metrics.path) (metrics.answer req records) ↔
      Unmistakable req.url metrics.path) := by
  constructor
  · rw [← endpointPath_iff uri healthRooted form]
    apply foundWhen_iff
    · intro same
      exact ⟨_, by simp [DefaultHealthHandler.answer, method, same]; rfl⟩
    · intro differs
      exact ⟨_, by simp [DefaultHealthHandler.answer, method, differs]; rfl⟩
  · rw [← endpointPath_iff uri metricsRooted form]
    apply foundWhen_iff
    · intro same
      exact ⟨_, by simp [MetricsHandler.answer, method, same]; rfl⟩
    · intro differs
      exact ⟨_, by simp [MetricsHandler.answer, method, differs]; rfl⟩

end

section Reference
attribute [local instance] Platform.withUrls

/-- The health endpoint of a runtime without transports. -/
private abbrev idleHealth : DefaultHealthHandler Unit Unit :=
  ⟨⟨.default, ⟨none, none⟩, ⟨.ok (), none⟩, ⟨.ok (), .ok ⟨.healthy, []⟩, .ok ()⟩, .running, none, none⟩,
    "/health"⟩

/-- The metrics endpoint, without metrics. -/
private abbrev noMetrics (path : String) : MetricsHandler := ⟨⟨fun _ => []⟩, path⟩

/-- A URL with a query. -/
theorem endpoint_matches_iff_query :
    FoundWhen (SamePath "/health?probe=1" "/health")
        (idleHealth.answer ⟨.get, "/health?probe=1", [], none⟩ 0) ∧
      FoundWhen (SamePath "/health?probe=1" "/metrics")
        ((noMetrics "/metrics").answer ⟨.get, "/health?probe=1", [], none⟩ []) := by
  have both := endpoint_matches_iff lawful_path idleHealth (noMetrics "/metrics")
    ⟨.get, "/health?probe=1", [], none⟩ rfl (.inl rfl) rfl rfl 0 []
  have clear (p : String) : Unmistakable "/health?probe=1" p :=
    ⟨fun _ => .inl (by decide), fun _ _ _ absolute => absurd rfl absolute.unrooted⟩
  exact ⟨both.1.mpr (clear _), both.2.mpr (clear _)⟩

/-- The job finds routes to the URL at `/health`, and both endpoints there answer
that nothing is found. -/
structure Mistaken (url : String) : Prop where
  same : SamePath url "/health"
  health : idleHealth.answer ⟨.get, url, [], none⟩ 0 = .error (.notFound ("not found: " ++ url))
  metrics : (noMetrics "/health").answer ⟨.get, url, [], none⟩ [] =
    .error (.notFound ("not found: " ++ url))

theorem Mistaken.not_found {url : String} (mistaken : Mistaken url) :
    ¬ FoundWhen (SamePath url "/health") (idleHealth.answer ⟨.get, url, [], none⟩ 0) ∧
      ¬ FoundWhen (SamePath url "/health") ((noMetrics "/health").answer ⟨.get, url, [], none⟩ []) := by
  obtain ⟨same, health, metrics⟩ := mistaken
  constructor
  · intro found
    obtain ⟨_, answered⟩ := found.served same
    rw [health] at answered
    cases answered
  · intro found
    obtain ⟨_, answered⟩ := found.served same
    rw [metrics] at answered
    cases answered

/-- A URL with a fragment, and one in absolute form: the job finds the path of
the endpoint in both, and the endpoint finds neither. -/
theorem fragment_and_absolute_form_not_found :
    let get (url : String) : HttpRequest := ⟨.get, url, [], none⟩
    (Mistaken "/health#top" ∧
      ¬ FoundWhen (SamePath "/health#top" "/health") (idleHealth.answer (get "/health#top") 0) ∧
      ¬ FoundWhen (SamePath "/health#top" "/health")
        ((noMetrics "/health").answer (get "/health#top") [])) ∧
    (Mistaken "http://localhost:8080/health" ∧
      ¬ FoundWhen (SamePath "http://localhost:8080/health" "/health")
        (idleHealth.answer (get "http://localhost:8080/health") 0) ∧
      ¬ FoundWhen (SamePath "http://localhost:8080/health" "/health")
        ((noMetrics "/health").answer (get "http://localhost:8080/health") [])) := by
  have fragment : Mistaken "/health#top" := ⟨rfl, rfl, rfl⟩
  have absolute : Mistaken "http://localhost:8080/health" := ⟨rfl, rfl, rfl⟩
  exact ⟨⟨fragment, fragment.not_found⟩, absolute, absolute.not_found⟩

end Reference

end EdgeBootstrap
