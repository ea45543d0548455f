import ApiGateway.Proofs.Routing.Built
import ApiGateway.Proofs.Routing.FirstLargest

/-!
# The longest prefix wins

A table is sorted once, and a path takes the first route that covers it. What a path is
to take can be said without the table, of the definitions alone: `Prevails` picks the
definition with the longest prefix among those that qualify, and the earliest of equals.
`match?_iff_prevails` says that the table and this reference agree.
-/

namespace ApiGateway.Routing

/-! ## The reference -/

/-- The canonical prefix of a definition. -/
def Definition.canonicalPrefix (definition : Definition) : String :=
  normalizePrefix definition.pathPrefix

/-- A definition with a prefix and a target qualifies for every path if its canonical prefix is
the root, and otherwise for the prefix itself and for what lies below it. -/
structure Definition.Qualifies (path : String) (definition : Definition) : Prop where
  prefixed : definition.pathPrefix ≠ ""
  targeted : definition.target ≠ ""
  covering : definition.canonicalPrefix = "/" ∨ path = definition.canonicalPrefix ∨
    ∃ below, path = definition.canonicalPrefix ++ "/" ++ below

/-- Of the definitions that qualify for a path this one has the longest canonical prefix, and it
is the first one with a prefix of that length. -/
def Prevails (definitions : List Definition) (path : String) (definition : Definition) : Prop :=
  FirstLargest (fun definition => definition.canonicalPrefix.utf8ByteSize)
    (Definition.Qualifies path) definitions definition

/-! ## Routes and their definitions -/

namespace Route

/-- A prefix covers what it is, or what it is set off from by a slash; the root covers all. -/
theorem coversChars_eq_true_iff {routePrefix path : List Char} :
    coversChars routePrefix path = true ↔
      routePrefix = ['/'] ∨ path = routePrefix ∨ ∃ below, path = routePrefix ++ '/' :: below := by
  by_cases root : routePrefix = ['/']
  · simp [coversChars, root]
  · simp only [coversChars, root, if_false, false_or]
    cases dropped : Text.dropPrefix? routePrefix path with
    | none =>
        have unrelated (rest : List Char) : path ≠ routePrefix ++ rest := by
          intro same
          rw [Text.dropPrefix?_eq_some_iff.mpr same] at dropped
          cases dropped
        have notItself : path ≠ routePrefix := by simpa using unrelated []
        simp [notItself, unrelated]
    | some rest =>
        rw [Text.dropPrefix?_eq_some_iff.mp dropped]
        cases rest with
        | nil => simp
        | cons c rest => simp

end Route

/-- The route of a definition covers the paths that the definition qualifies for. -/
theorem Definition.Yields.qualifies_iff {defaultTimeout : Duration} {definition : Definition}
    {route : Route} (yields : definition.Yields defaultTimeout route) (path : String) :
    definition.Qualifies path ↔ route.covers path = true := by
  obtain ⟨usable, url, methods, -, -, rfl⟩ := yields
  have covers : (definition.route defaultTimeout url methods).covers path = true ↔
      definition.canonicalPrefix = "/" ∨ path = definition.canonicalPrefix ∨
        ∃ below, path = definition.canonicalPrefix ++ "/" ++ below := by
    rw [Route.covers, Route.coversChars_eq_true_iff]
    simp only [Definition.route, canonicalPrefix, ← String.toList_inj, String.toList_append]
    refine or_congr_right (or_congr_right ?_)
    constructor
    · rintro ⟨below, same⟩
      exact ⟨String.ofList below, by simp [same]⟩
    · rintro ⟨below, same⟩
      exact ⟨below.toList, by simp [same]⟩
  rw [covers]
  simp only [isUsable, Bool.and_eq_true, Bool.not_eq_true', String.isEmpty_eq_false_iff] at usable
  exact ⟨fun qualified => qualified.covering, fun covering => ⟨usable.1, usable.2, covering⟩⟩

theorem Definition.Yields.prefixLength_eq {defaultTimeout : Duration} {definition : Definition}
    {route : Route} (yields : definition.Yields defaultTimeout route) :
    definition.canonicalPrefix.utf8ByteSize = route.pathPrefix.utf8ByteSize := by
  obtain ⟨-, url, methods, -, -, rfl⟩ := yields
  rfl

/-- A definition that qualifies for some path is usable. -/
theorem Definition.Qualifies.isUsable {path : String} {definition : Definition}
    (qualified : definition.Qualifies path) : definition.isUsable = true := by
  simp [Definition.isUsable, qualified.prefixed, qualified.targeted]

variable {definitions : List Definition} {defaultTimeout : Duration}

/-- A draft holds one route for every usable definition, in their order. -/
theorem Table.forall₂_routes_of_draft {draft : Draft}
    (drafted : Table.draft definitions defaultTimeout = .ok draft) :
    List.Forall₂ (Definition.Yields defaultTimeout) (definitions.filter Definition.isUsable)
      draft.routes := by
  refine draft_follows (fun before draft =>
    List.Forall₂ (Definition.Yields defaultTimeout) before draft.routes) .nil ?_ drafted
  intro before draft next definition _ usable yields added
  obtain ⟨url, methods, parsed, accepted, routes, -⟩ := Draft.add_eq_ok added
  rw [routes]
  exact List.rel_append yields (.cons ⟨usable, url, methods, parsed, accepted, rfl⟩ .nil)

/-- A definition has at most one route. -/
theorem Definition.Yields.unique {definition : Definition} {route other : Route}
    (yields : definition.Yields defaultTimeout route)
    (also : definition.Yields defaultTimeout other) : route = other := by
  obtain ⟨-, url, methods, parsed, accepted, rfl⟩ := yields
  obtain ⟨-, url', methods', parsed', accepted', rfl⟩ := also
  rw [parsed] at parsed'
  rw [accepted] at accepted'
  cases parsed'
  cases accepted'
  rfl

namespace Table

variable {table : Table} {shadowings : List Shadowing}
  (built : Table.build definitions defaultTimeout = .ok (table, shadowings))
include built

/-- A table holds one route for every usable definition, sorted by the length of the prefix. -/
theorem routes_of_build : ∃ routes, table.routes = sortRoutes routes ∧
    List.Forall₂ (Definition.Yields defaultTimeout) (definitions.filter Definition.isUsable)
      routes := by
  obtain ⟨draft, drafted, sorted, -⟩ := draft_of_build built
  exact ⟨draft.routes, sorted, forall₂_routes_of_draft drafted⟩

/-- A path takes the route of the definition that prevails. -/
theorem match?_of_prevails {path : String} {definition : Definition}
    (prevails : Prevails definitions path definition) :
    ∃ route, definition.Yields defaultTimeout route ∧ table.match? path = some route := by
  obtain ⟨routes, sorted, yields⟩ := routes_of_build built
  have usable := prevails.filter fun _ => Definition.Qualifies.isUsable
  obtain ⟨route, own, first⟩ := usable.transfer yields Definition.Yields.prefixLength_eq
    fun yields => yields.qualifies_iff path
  refine ⟨route, own, ?_⟩
  rw [match?, sorted, sortRoutes]
  exact find?_mergeSort_of_firstLargest first

/-- A path that takes a route has a definition that qualifies for it. -/
theorem exists_qualifies_of_match? {path : String} {route : Route}
    (matched : table.match? path = some route) :
    ∃ definition ∈ definitions, definition.Qualifies path := by
  obtain ⟨member, covered⟩ := mem_of_match? matched
  obtain ⟨definition, known, yields⟩ := yields_of_mem_build built member
  exact ⟨definition, known, (yields.qualifies_iff path).mpr covered⟩

/-- A path that a definition qualifies for takes a route. -/
theorem exists_match?_of_qualifies {path : String} {definition : Definition}
    (known : definition ∈ definitions) (qualified : definition.Qualifies path) :
    ∃ route, table.match? path = some route := by
  obtain ⟨chosen, prevails⟩ := exists_firstLargest ⟨definition, known, qualified⟩
  obtain ⟨route, -, matched⟩ := match?_of_prevails built prevails
  exact ⟨route, matched⟩

/-- A table holds exactly one route for every usable definition, and a path takes the route of
the definition that prevails for it; it takes none exactly when no definition qualifies. -/
theorem match?_iff_prevails :
    (∃ routes, List.Forall₂ (Definition.Yields defaultTimeout)
      (definitions.filter Definition.isUsable) routes ∧ table.routes.Perm routes) ∧
    ∀ path,
      (∀ route, table.match? path = some route ↔
        ∃ definition, Prevails definitions path definition ∧
          definition.Yields defaultTimeout route) ∧
      (table.match? path = none ↔ ∀ definition ∈ definitions, ¬ definition.Qualifies path) := by
  refine ⟨?_, fun path => ⟨fun route => ⟨fun matched => ?_, ?_⟩, fun unmatched => ?_, ?_⟩⟩
  · obtain ⟨routes, sorted, yields⟩ := routes_of_build built
    exact ⟨routes, yields, sorted ▸ List.mergeSort_perm routes _⟩
  · obtain ⟨definition, prevails⟩ := exists_firstLargest (exists_qualifies_of_match? built matched)
    obtain ⟨other, yields, same⟩ := match?_of_prevails built prevails
    rw [matched] at same
    cases same
    exact ⟨definition, prevails, yields⟩
  · rintro ⟨definition, prevails, yields⟩
    obtain ⟨other, also, matched⟩ := match?_of_prevails built prevails
    rw [yields.unique also, matched]
  · intro definition known qualified
    obtain ⟨chosen, prevails⟩ := exists_firstLargest ⟨definition, known, qualified⟩
    obtain ⟨route, -, matched⟩ := match?_of_prevails built prevails
    rw [matched] at unmatched
    cases unmatched
  · intro unqualified
    cases matched : table.match? path with
    | none => rfl
    | some route =>
        obtain ⟨definition, known, qualified⟩ := exists_qualifies_of_match? built matched
        exact absurd qualified (unqualified definition known)

end Table

/-- The earlier one of two definitions with the prefix `/api/v1`. -/
def versionedDefinition : Definition where
  name := "old"
  pathPrefix := "api/v1/"
  target := "http://h"

/-- Definitions of nested prefixes; the longest one has no target. -/
def nestedDefinitions : List Definition :=
  [{ versionedDefinition with name := "all", pathPrefix := "/" }, versionedDefinition,
    { versionedDefinition with name := "new", pathPrefix := "/api/v1" },
    { versionedDefinition with name := "api", pathPrefix := "/api" },
    { versionedDefinition with name := "lost", pathPrefix := "/api/v1/x", target := "" }]

theorem prevails_versionedDefinition :
    Prevails nestedDefinitions "/api/v1/x" versionedDefinition := by
  refine ⟨⟨by decide, by decide, .inr (.inr ⟨"x", by decide⟩)⟩, [_], [_, _, _], rfl, ?_, ?_⟩
  · rintro other member -
    rw [List.mem_singleton.mp member]
    decide
  · intro other member qualified
    simp only [List.mem_cons, List.not_mem_nil, or_false] at member
    rcases member with rfl | rfl | rfl
    · decide
    · decide
    · exact absurd rfl qualified.targeted

theorem earliest_of_longest_prefixes :
    ∃ table shadowings route, Table.build nestedDefinitions (.ofSeconds 10) =
        .ok (table, shadowings) ∧
      table.match? "/api/v1/x" = some route ∧ route.name = "old" := by
  have succeeds : (Table.build nestedDefinitions (.ofSeconds 10)).toOption.isSome = true := by
    decide
  obtain ⟨⟨table, shadowings⟩, yielded⟩ := Option.isSome_iff_exists.mp succeeds
  have built := Table.build_of_toOption yielded
  have parsed : (Url.parse "http://h").toOption.isSome = true := by decide
  have noMethods : methodsOf versionedDefinition.methods = .ok [] := by
    simp [versionedDefinition, methodsOf]
    rfl
  cases outcome : Url.parse "http://h" with
  | error error => rw [outcome] at parsed; cases parsed
  | ok url =>
      refine ⟨table, shadowings, versionedDefinition.route (.ofSeconds 10) url [], built, ?_, rfl⟩
      refine (((Table.match?_iff_prevails built).2 "/api/v1/x").1 _).mpr
        ⟨versionedDefinition, prevails_versionedDefinition, ?_⟩
      exact ⟨by decide, url, [], outcome, noMethods, rfl⟩

end ApiGateway.Routing
