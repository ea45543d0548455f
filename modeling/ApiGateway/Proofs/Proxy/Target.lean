import ApiGateway.Proofs.Http.Uri
import ApiGateway.Proofs.Url.Authority
import ApiGateway.Proxy.Outbound

/-!
# The authority of an outbound target

The outbound target is read from a text: the locator of the backend without its last
slashes, the forwarded path and the query. The authority of that text ends where the
locator's does if anything is left of the locator behind its authority, or if the path
starts with a slash. When neither is the case the path runs into the authority
(`authority_of_asterisk`).
-/

namespace ApiGateway

namespace Url

/-- The text of a locator behind its authority. -/
def afterAuthority (url : Url) : List Char :=
  url.path.toList ++
    (match url.query with
    | some query => '?' :: query.toList
    | none => []) ++
    (match url.fragment with
    | some fragment => '#' :: fragment.toList
    | none => [])

/-- Nothing but slashes follows the authority. -/
structure Bare (url : Url) : Prop where
  path : ∀ c ∈ url.path.toList, c = '/'
  query : url.query = none
  fragment : url.fragment = none

theorem toList_text {url : Url} {authority : UrlAuthority}
    (named : url.authority = some authority) :
    url.text.toList =
      url.scheme.toList ++ ([':', '/', '/'] ++ (authority.text.toList ++ url.afterAuthority)) := by
  have unguarded : url.guardedPath = url.path := by simp [guardedPath, named]
  simp only [text, named, unguarded, afterAuthority]
  cases url.query <;> cases url.fragment <;> simp

theorem trimEnd_afterAuthority_eq_nil_iff {url : Url} :
    Text.trimEndWith (· = '/') url.afterAuthority = [] ↔ url.Bare := by
  rw [Text.trimEndWith_eq_nil_iff]
  constructor
  · intro slashes
    refine ⟨?_, ?_, ?_⟩
    · intro c member
      have inside : c ∈ url.afterAuthority := by simp [afterAuthority, member]
      simpa using slashes c inside
    · cases query : url.query with
      | none => rfl
      | some text =>
          have inside : '?' ∈ url.afterAuthority := by simp [afterAuthority, query]
          exact absurd (slashes '?' inside) (by decide)
    · cases fragment : url.fragment with
      | none => rfl
      | some text =>
          have inside : '#' ∈ url.afterAuthority := by simp [afterAuthority, fragment]
          exact absurd (slashes '#' inside) (by decide)
  · intro bare c member
    have inPath : c ∈ url.path.toList := by
      simpa [afterAuthority, bare.query, bare.fragment] using member
    simp [bare.path c inPath]

/-- What follows the authority of a locator of the web starts with a delimiter. -/
theorem WebShaped.delimited {url : Url} (shaped : url.WebShaped) :
    Http.Uri.Delimited url.afterAuthority := by
  intro c first
  rcases shaped.path with empty | ⟨rest, rooted⟩
  · cases query : url.query with
    | some text =>
        simp only [afterAuthority, empty, query, List.nil_append, List.cons_append,
          List.head?_cons, Option.mem_some_iff] at first
        rw [← first]
        decide
    | none =>
        cases fragment : url.fragment with
        | some text =>
            simp only [afterAuthority, empty, query, fragment, List.nil_append, List.head?_cons,
              Option.mem_some_iff] at first
            rw [← first]
            decide
        | none => simp [afterAuthority, empty, query, fragment] at first
  · simp only [afterAuthority, rooted, List.cons_append, List.head?_cons,
      Option.mem_some_iff] at first
    rw [← first]
    decide

end Url

namespace Proxy

open Http.Uri (Delimited IsWeb)

/-- What is left of a target behind its authority when its last slashes are cut off. -/
def basePath (target : Url) : List Char := Text.trimEndWith (· = '/') target.afterAuthority

/-- A query as it stands in a text. -/
def queryText (query : Option String) : List Char :=
  match query with
  | some query => if query.isEmpty then [] else '?' :: query.toList
  | none => []

section Joining

variable {target : Url} {authority : UrlAuthority} {path : String} {query : Option String}
  {uri : Http.Uri}

theorem parse_joinedText (joined : targetUri target path query = .ok uri) :
    Http.Uri.parse (joinedText target path query) = .ok uri := by
  simp only [targetUri] at joined
  split at joined
  · next parsed =>
      cases joined
      exact parsed
  · cases joined

theorem delimited_basePath (shaped : target.WebShaped) : Delimited (basePath target) :=
  shaped.delimited.of_prefix (Text.trimEndWith_prefix ..)

variable (named : target.authority = some authority)
include named

theorem undelimited_of_named (shaped : target.WebShaped) :
    Url.Undelimited authority.text.toList := by
  obtain ⟨other, same, clean⟩ := shaped.authority
  rw [named] at same
  rw [Option.some.inj same]
  exact clean

/-- The slashes at the end of a target never reach its authority. -/
theorem trimEnd_target (shaped : target.WebShaped) (host : authority.text ≠ "") :
    Text.trimEndWith (· = '/') target.text.toList =
      target.scheme.toList ++ ([':', '/', '/'] ++ (authority.text.toList ++ basePath target)) := by
  rw [Url.toList_text named, ← List.append_assoc, ← List.append_assoc]
  by_cases gone : basePath target = []
  · have filled : authority.text.toList ≠ [] := by simpa using host
    rw [Text.trimEndWith_append_of_eq_nil gone, gone, List.append_nil]
    obtain ⟨front, last, ends⟩ : ∃ front last, authority.text.toList = front ++ [last] :=
      ⟨_, _, (List.dropLast_concat_getLast filled).symm⟩
    have plain : Http.Uri.endsAuthority last = false :=
      undelimited_of_named named shaped last (by simp [ends])
    have noSlash : decide (last = '/') = false := by
      rw [decide_eq_false_iff_not]
      rintro rfl
      cases plain
    rw [ends, ← List.append_assoc, Text.trimEndWith_concat noSlash]
    simp
  · rw [Text.trimEndWith_append_of_ne_nil gone]
    simp [basePath]

theorem toList_joinedText (shaped : target.WebShaped) (host : authority.text ≠ "") :
    (joinedText target path query).toList =
      target.scheme.toList ++ ([':', '/', '/'] ++ (authority.text.toList ++
        (basePath target ++ (path.toList ++ queryText query)))) := by
  simp only [joinedText, String.toList_append, String.toList_ofList,
    trimEnd_target named shaped host, List.append_assoc]
  cases query with
  | none => simp [queryText]
  | some text =>
      simp only [queryText]
      split <;> simp

/-- The authority of the outbound target is the backend's if a delimiter follows it. -/
theorem authority_of_delimited (web : IsWeb target.scheme) (shaped : target.WebShaped)
    (host : authority.text ≠ "")
    (delimited : Delimited (basePath target ++ (path.toList ++ queryText query)))
    (joined : targetUri target path query = .ok uri) :
    uri.scheme = some target.scheme ∧ uri.authority = some authority.text := by
  obtain ⟨_, _, -, rfl⟩ := Http.Uri.parse_absolute web (undelimited_of_named named shaped)
    delimited (toList_joinedText named shaped host) (parse_joinedText joined)
  rw [String.ofList_toList]
  exact ⟨rfl, rfl⟩

/-- Without a delimiter the asterisk becomes a part of the authority. -/
theorem authority_of_asterisk (web : IsWeb target.scheme) (shaped : target.WebShaped)
    (host : authority.text ≠ "") (bare : target.Bare)
    (joined : targetUri target "*" none = .ok uri) :
    uri.scheme = some target.scheme ∧ uri.authority = some (authority.text ++ "*") := by
  have clean : Url.Undelimited (authority.text.toList ++ ['*']) := by
    rw [Url.Undelimited.append_iff, Url.Undelimited.cons_iff]
    exact ⟨undelimited_of_named named shaped, by decide, .nil⟩
  have nothing : basePath target = [] := Url.trimEnd_afterAuthority_eq_nil_iff.mpr bare
  have chars : (joinedText target "*" none).toList = target.scheme.toList ++
      ([':', '/', '/'] ++ (authority.text.toList ++ ['*'] ++ [])) := by
    rw [toList_joinedText named shaped host, nothing]
    simp [queryText]
  have ended : Delimited [] := nofun
  obtain ⟨_, _, -, rfl⟩ :=
    Http.Uri.parse_absolute web clean ended chars (parse_joinedText joined)
  rw [String.ofList_append, String.ofList_toList]
  exact ⟨rfl, rfl⟩

end Joining

end Proxy

end ApiGateway
