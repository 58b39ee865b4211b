import EdgeBootstrap.Rust.Text
import EdgeBootstrap.Platform
import Mathlib.Data.List.TakeWhile

/-! Request URLs in origin form and in absolute form, and what the path of a
`http::Uri` is for them. -/
namespace EdgeBootstrap

namespace Rust.Url

def endsPath (c : Char) : Bool := c = '?' || c = '#'

def endsAuthority (c : Char) : Bool := c = '/' || endsPath c

/-- What stands before the query and the fragment. -/
def pathPart (cs : List Char) : List Char := cs.takeWhile fun c => !endsPath c

/-- A scheme, an authority and what follows them. -/
structure IsAbsolute (cs scheme authority rest : List Char) : Prop where
  shape : cs = scheme ++ (':' :: '/' :: '/' :: (authority ++ rest))
  named : scheme ≠ []
  scheme : ∀ c ∈ scheme, c ≠ ':' ∧ endsAuthority c = false
  authority : ∀ c ∈ authority, endsAuthority c = false
  rest : ∀ c ∈ rest.head?, endsAuthority c = true

/-- A URL in absolute form is not in origin form. -/
theorem IsAbsolute.unrooted {cs scheme authority rest : List Char}
    (absolute : IsAbsolute cs scheme authority rest) : cs.head? ≠ some '/' := by
  have inScheme := absolute.scheme
  rw [absolute.shape]
  cases scheme with
  | nil => exact absurd rfl absolute.named
  | cons c scheme =>
    intro rooted
    cases rooted
    exact absurd (inScheme '/' List.mem_cons_self).2 (by decide)

/-- The path of an absolute URL; one that is left out is the root. -/
def absolutePath (rest : List Char) : List Char := if pathPart rest = [] then ['/'] else pathPart rest

/-- What `http::Uri` documents of the path of a URL it accepts. -/
structure Lawful (uriPath : String → Option String) : Prop where
  origin : ∀ url path, url.toList.head? = some '/' → uriPath url = some path →
    path.toList = pathPart url.toList
  absolute : ∀ url path scheme authority rest, IsAbsolute url.toList scheme authority rest →
    uriPath url = some path → path.toList = absolutePath rest

/-- The path of every URL in one of the two forms; no other text is a URI. -/
def path (url : String) : Option String :=
  if url.toList.head? = some '/' then some (.ofList (pathPart url.toList))
  else
    let scheme := url.toList.takeWhile fun c => c ≠ ':' && !endsAuthority c
    match url.toList.dropWhile fun c => c ≠ ':' && !endsAuthority c with
    | ':' :: '/' :: '/' :: cs =>
      if scheme = [] then none
      else some (.ofList (absolutePath (cs.dropWhile fun c => !endsAuthority c)))
    | _ => none

private theorem takeWhile_append_of_head {p : Char → Bool} {xs ys : List Char} (inside : ∀ c ∈ xs, p c = true)
    (outside : ∀ c ∈ ys.head?, p c = false) :
    (xs ++ ys).takeWhile p = xs ∧ (xs ++ ys).dropWhile p = ys := by
  rw [List.takeWhile_append_of_pos inside, List.dropWhile_append_of_pos inside]
  cases ys with
  | nil => simp
  | cons c ys =>
    have no : p c = false := outside c rfl
    simp [no]

theorem lawful_path : Lawful path where
  origin url p rooted found := by
    rw [path, if_pos rooted] at found
    cases found
    exact String.toList_ofList
  absolute url p scheme authority rest absolute found := by
    have unrooted := absolute.unrooted
    obtain ⟨shape, named, inScheme, inAuthority, ends⟩ := absolute
    have first : ∀ c ∈ scheme, (c ≠ ':' && !endsAuthority c) = true := by
      intro c member
      obtain ⟨colon, other⟩ := inScheme c member
      simp [colon, other]
    have colon : ∀ c ∈ (':' :: '/' :: '/' :: (authority ++ rest)).head?,
        (c ≠ ':' && !endsAuthority c) = false := by
      intro c head
      cases head
      decide
    have second : ∀ c ∈ authority, (!endsAuthority c) = true := by
      intro c member
      simp [inAuthority c member]
    have after : ∀ c ∈ rest.head?, (!endsAuthority c) = false := by
      intro c head
      simp [ends c head]
    rw [path, if_neg unrooted, shape] at found
    simp only [takeWhile_append_of_head first colon, takeWhile_append_of_head second after,
      if_neg named] at found
    cases found
    exact String.toList_ofList

theorem query_not_mem_pathPart (cs : List Char) : '?' ∉ pathPart cs := by
  intro member
  exact absurd (List.mem_takeWhile_imp member) (by decide)

/-- No path has a query in it. -/
theorem query_not_mem_path {url p : String} (found : path url = some p) : '?' ∉ p.toList := by
  simp only [path] at found
  split at found
  · cases found
    simpa using query_not_mem_pathPart url.toList
  split at found
  · rename_i cs _
    split at found
    · cases found
    · cases found
      rw [String.toList_ofList, absolutePath]
      split
      · decide
      · exact query_not_mem_pathPart _
  · cases found

end Rust.Url

/-- The reference environment with the paths of URLs. -/
@[reducible] def Platform.withUrls : Platform := { Platform.reference with uriPath := Rust.Url.path }

end EdgeBootstrap
