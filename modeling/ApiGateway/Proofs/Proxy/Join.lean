import ApiGateway.Proofs.Proxy.Target
import ApiGateway.Proofs.Routing.Built
import ApiGateway.Proofs.Url.Parts

/-!
# Path and query of an outbound target

The forwarded path is written behind the whole text of the backend's locator, not behind
its path. For a locator that ends with its path these are the same, and the outbound
target is the join that is meant (`Joins`). A query of the locator takes the path and the
forwarded query in, and a fragment takes them along when it is cut off (`Places`).
-/

namespace ApiGateway.Proxy

open Http.Uri (Delimited IsWeb joinParts)
open Url (Unmarked)

/-- A text without its last slashes. -/
def trimSlashes (text : String) : String :=
  String.ofList (Text.trimEndWith (· = '/') text.toList)

/-- A query that says something. -/
def asked (query : Option String) : Option String := query.filter fun text => !text.isEmpty

/-- The forwarded path stands behind the path of the locator, and the query is the one that is
forwarded. -/
structure Joins (target : Url) (path : String) (query : Option String) (uri : Http.Uri) :
    Prop where
  path : uri.path = trimSlashes target.path ++ path
  query : uri.query = asked query

/-! ## Texts -/

theorem mem_of_mem_trimSlashes {text : String} {c : Char}
    (member : c ∈ (trimSlashes text).toList) : c ∈ text.toList := by
  rw [trimSlashes, String.toList_ofList] at member
  exact (Text.trimEndWith_prefix _ _).subset member

theorem queryText_eq (query : Option String) :
    queryText query = ((asked query).map String.toList).elim [] ('?' :: ·) := by
  cases query with
  | none => rfl
  | some text =>
      simp only [queryText, asked]
      cases empty : text.isEmpty with
      | true => simp [Option.filter, empty]
      | false => simp [Option.filter, empty]

theorem hash_not_mem_queryText {query : Option String}
    (plain : ∀ text ∈ query, '#' ∉ text.toList) : '#' ∉ queryText query := by
  cases query with
  | none => exact List.not_mem_nil
  | some text =>
      simp only [queryText]
      split
      · exact List.not_mem_nil
      · rw [List.mem_cons, not_or]
        exact ⟨by decide, plain text rfl⟩

theorem basePath_of_path {target : Url} (noQuery : target.query = none)
    (noFragment : target.fragment = none) : basePath target = (trimSlashes target.path).toList := by
  simp [basePath, Url.afterAuthority, trimSlashes, noQuery, noFragment]

theorem basePath_of_query {target : Url} {present : String} (known : target.query = some present)
    (noFragment : target.fragment = none) :
    basePath target = target.path.toList ++ '?' :: (trimSlashes present).toList := by
  simp only [basePath, Url.afterAuthority, known, noFragment, List.append_nil]
  rw [Text.trimEndWith_append_cons (by decide), trimSlashes, String.toList_ofList]

theorem basePath_of_fragment {target : Url} {present : String}
    (known : target.fragment = some present) :
    basePath target = joinParts target.path.toList (target.query.map String.toList)
      (some (trimSlashes present).toList) := by
  simp only [basePath, Url.afterAuthority, known, joinParts]
  rw [Text.trimEndWith_append_cons (by decide), trimSlashes, String.toList_ofList]
  cases target.query with
  | none => simp
  | some query => simp

/-! ## Joining -/

/-- Where the forwarded path and query end up in an outbound target. -/
structure Places (target : Url) (path : String) (query : Option String) (uri : Http.Uri) :
    Prop where
  behindPath : target.query = none → target.fragment = none → Joins target path query uri
  /-- Both are a part of the locator's own query. -/
  behindQuery : ∀ present, target.query = some present → target.fragment = none →
    uri.path = target.path ∧
      uri.query = some (trimSlashes present ++ path ++ String.ofList (queryText query))
  /-- Neither is left. -/
  behindFragment : target.fragment ≠ none → uri.path = target.path ∧ uri.query = target.query
  /-- A fragment does no harm if nothing is lost with it. -/
  joins_iff : Joins target path query uri ↔
    (target.query = none ∧ target.fragment = none) ∨
      (target.fragment ≠ none ∧ target.path = trimSlashes target.path ++ path ∧
        target.query = asked query)

section Joining

variable {target : Url} {path : String} {query : Option String} {uri : Http.Uri}
  (web : IsWeb target.scheme) (separable : target.Separable)
  (opened : ∃ rest, path.toList = '/' :: rest) (joined : targetUri target path query = .ok uri)
include web separable opened joined

/-- The parts that the text behind the authority is written from are those of the target. -/
theorem parts_of_joined {first : String} {second : Option String} {third : Option (List Char)}
    (clean : Unmarked first.toList) (filled : first ≠ "")
    (noHash : ∀ text ∈ second, '#' ∉ text.toList)
    (written : basePath target ++ (path.toList ++ queryText query) =
      joinParts first.toList (second.map String.toList) third) :
    uri.path = first ∧ uri.query = second := by
  obtain ⟨authority, named, host⟩ := separable.host
  have shaped := separable.toWebShaped
  have delimited : Delimited (basePath target ++ (path.toList ++ queryText query)) := by
    refine (delimited_basePath shaped).append ?_
    obtain ⟨rest, slash⟩ := opened
    intro c head
    rw [slash] at head
    cases head
    decide
  obtain ⟨scanned, found, read, rfl⟩ := Http.Uri.parse_absolute web
    (undelimited_of_named named shaped) delimited (toList_joinedText named shaped host)
    (parse_joinedText joined)
  rw [written] at read
  have noHash : ∀ chars ∈ second.map String.toList, '#' ∉ chars := by
    intro chars mapped
    obtain ⟨text, known, rfl⟩ := Option.map_eq_some_iff.mp mapped
    exact noHash text known
  obtain ⟨rfl, rfl⟩ := Http.Uri.scanPathAndQuery_joinParts clean noHash read
  constructor
  · simp [Http.Uri.rooted, filled]
  · simp [Function.comp_def]

theorem placed_of_fragment {present : String} (known : target.fragment = some present) :
    uri.path = target.path ∧ uri.query = target.query := by
  have written : basePath target ++ (path.toList ++ queryText query) =
      joinParts target.path.toList (target.query.map String.toList)
        (some ((trimSlashes present).toList ++ (path.toList ++ queryText query))) := by
    rw [basePath_of_fragment known]
    simp [joinParts]
  exact parts_of_joined web separable opened joined separable.unmarked separable.filled
    separable.plain written

variable (unmarked : Unmarked path.toList) (plain : ∀ text ∈ query, '#' ∉ text.toList)
include unmarked plain

theorem joins_of_path (noQuery : target.query = none) (noFragment : target.fragment = none) :
    Joins target path query uri := by
  have clean : Unmarked (trimSlashes target.path ++ path).toList := by
    intro c member
    rw [String.toList_append] at member
    rcases List.mem_append.mp member with inTarget | inPath
    · exact separable.unmarked c (mem_of_mem_trimSlashes inTarget)
    · exact unmarked c inPath
  have filled : trimSlashes target.path ++ path ≠ "" := by
    obtain ⟨rest, slash⟩ := opened
    intro empty
    rw [(String.append_eq_empty_iff.mp empty).2] at slash
    cases slash
  have noHash : ∀ text ∈ asked query, '#' ∉ text.toList :=
    fun text known => plain text (Option.filter_eq_some_iff.mp known).1
  have written : basePath target ++ (path.toList ++ queryText query) =
      joinParts (trimSlashes target.path ++ path).toList ((asked query).map String.toList)
        none := by
    rw [basePath_of_path noQuery noFragment, queryText_eq]
    simp [joinParts]
  obtain ⟨samePath, sameQuery⟩ :=
    parts_of_joined web separable opened joined clean filled noHash written
  exact ⟨samePath, sameQuery⟩

theorem placed_of_query {present : String} (known : target.query = some present)
    (noFragment : target.fragment = none) :
    uri.path = target.path ∧
      uri.query = some (trimSlashes present ++ path ++ String.ofList (queryText query)) := by
  have noHash : '#' ∉ (trimSlashes present ++ path ++ String.ofList (queryText query)).toList := by
    simp only [String.toList_append, String.toList_ofList, List.mem_append, not_or]
    refine ⟨⟨?_, ?_⟩, ?_⟩
    · exact fun member => separable.plain present known (mem_of_mem_trimSlashes member)
    · exact (Url.unmarked_iff.mp unmarked).2
    · exact hash_not_mem_queryText plain
  have written : basePath target ++ (path.toList ++ queryText query) =
      joinParts target.path.toList
        ((some (trimSlashes present ++ path ++ String.ofList (queryText query))).map
          String.toList) none := by
    rw [basePath_of_query known noFragment]
    simp [joinParts]
  exact parts_of_joined web separable opened joined separable.unmarked separable.filled
    (by simpa using noHash) written

/-- A query that takes the forwarded one in is longer than it. -/
theorem not_joins_of_query {present : String} (known : target.query = some present)
    (noFragment : target.fragment = none) : ¬ Joins target path query uri := by
  intro joins
  obtain ⟨-, taken⟩ :=
    placed_of_query web separable opened joined unmarked plain known noFragment
  generalize whole : trimSlashes present ++ path ++ String.ofList (queryText query) = text at taken
  rw [joins.query] at taken
  obtain ⟨same, filled⟩ := Option.filter_eq_some_iff.mp taken
  have longer : queryText query = '?' :: text.toList := by
    rw [Bool.not_eq_true'] at filled
    simp [same, queryText, filled]
  have lengths := congrArg String.length whole
  rw [longer] at lengths
  simp only [String.length_append, String.length_ofList, List.length_cons,
    String.length_toList] at lengths
  omega

theorem places_of_joined : Places target path query uri where
  behindPath := joins_of_path web separable opened joined unmarked plain
  behindQuery _ := placed_of_query web separable opened joined unmarked plain
  behindFragment present := by
    obtain ⟨text, known⟩ := Option.ne_none_iff_exists'.mp present
    exact placed_of_fragment web separable opened joined known
  joins_iff := by
    constructor
    · intro joins
      cases fragment : target.fragment with
      | none =>
          cases own : target.query with
          | none => exact .inl ⟨rfl, rfl⟩
          | some present =>
              exact absurd joins
                (not_joins_of_query web separable opened joined unmarked plain own fragment)
      | some text =>
          obtain ⟨samePath, sameQuery⟩ :=
            placed_of_fragment web separable opened joined fragment
          exact .inr ⟨nofun, samePath.symm.trans joins.path, sameQuery.symm.trans joins.query⟩
    · rintro (⟨noQuery, noFragment⟩ | ⟨present, samePath, sameQuery⟩)
      · exact joins_of_path web separable opened joined unmarked plain noQuery noFragment
      · obtain ⟨text, known⟩ := Option.ne_none_iff_exists'.mp present
        obtain ⟨ownPath, ownQuery⟩ := placed_of_fragment web separable opened joined known
        exact ⟨ownPath.trans samePath, ownQuery.trans sameQuery⟩

end Joining

/-- The outbound target of a route that was built joins the forwarded path and query with the
locator of the backend as it is meant exactly if the locator has neither a query nor a fragment,
or if it has a fragment and nothing is lost with it. In the other cases the path and the query end
up in the locator's own query, or nowhere. -/
theorem places_of_built {definitions : List Routing.Definition} {defaultTimeout : Duration}
    {table : Routing.Table} {shadowings : List Routing.Shadowing}
    (built : Routing.Table.build definitions defaultTimeout = .ok (table, shadowings))
    {route : Routing.Route} (member : route ∈ table.routes) (web : IsWeb route.target.scheme)
    {path : String} (opened : ∃ rest, path.toList = '/' :: rest) (unmarked : Unmarked path.toList)
    {query : Option String} (plain : ∀ text ∈ query, '#' ∉ text.toList) {uri : Http.Uri}
    (joined : targetUri route.target path query = .ok uri) :
    Places route.target path query uri := by
  obtain ⟨definition, -, -, url, methods, parsed, -, same⟩ :=
    Routing.Table.yields_of_mem_build built member
  have separable : route.target.Separable := by
    rw [same] at web ⊢
    exact Url.separable_of_parse parsed web
  exact places_of_joined web separable opened joined unmarked plain

/-- A definition that leads to a locator. -/
def leadingTo (locator : String) : Routing.Definition where
  name := "users"
  pathPrefix := "/api"
  target := locator

/-- The locator `http://h/base/`. -/
def basedUrl : Url := ⟨"http", some ⟨"", "h", none⟩, "/base/", none, none⟩

theorem joins_based : Joins basedUrl "/users" (some "a=1")
    ⟨some "http", some "h", "/base/users", some "a=1"⟩ := by
  have built : Routing.Table.build [leadingTo "http://h/base/"] 0 =
      .ok (⟨[(leadingTo "http://h/base/").route 0 basedUrl []],
        [(leadingTo "http://h/base/").backend basedUrl]⟩, []) :=
    Routing.Table.build_of_toOption (by decide +kernel)
  have joined : targetUri basedUrl "/users" (some "a=1") =
      .ok ⟨some "http", some "h", "/base/users", some "a=1"⟩ := rfl
  have unmarked : Unmarked "/users".toList := Url.unmarked_iff.mpr (by decide)
  have plain : ∀ text ∈ some "a=1", '#' ∉ text.toList := by decide
  exact (places_of_built built List.mem_cons_self (.inl rfl) ⟨_, rfl⟩ unmarked plain
    joined).joins_iff.mpr (.inl ⟨rfl, rfl⟩)

/-- The locator `http://h/base?v=1`. -/
def versionedUrl : Url := ⟨"http", some ⟨"", "h", none⟩, "/base", some "v=1", none⟩

/-- The locator is accepted, and the path that is forwarded becomes a part of its query. -/
theorem path_joined_to_query :
    ((Routing.Table.build [leadingTo "http://h/base?v=1"] 0).toOption.map
      fun (table, _) => table.routes.map Routing.Route.target) = some [versionedUrl] ∧
    targetUri versionedUrl "/api" none = .ok ⟨some "http", some "h", "/base", some "v=1/api"⟩ ∧
    ¬ Joins versionedUrl "/api" none ⟨some "http", some "h", "/base", some "v=1/api"⟩ := by
  refine ⟨by decide +kernel, rfl, ?_⟩
  intro joins
  exact absurd joins.query (by decide)

end ApiGateway.Proxy
