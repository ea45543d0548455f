import ApiGateway.Routing.Table

/-!
# Tables that were built

What holds of a table because `Table.build` made it: every route is the route of a
usable definition whose locator and methods were accepted, and the backend of every
route is among the backends of the table.
-/

namespace ApiGateway.Routing

variable {definitions : List Definition} {defaultTimeout : Duration}

/-- A definition is usable and a route is its route, all parts of it being accepted. -/
def Definition.Yields (defaultTimeout : Duration) (definition : Definition) (route : Route) :
    Prop :=
  definition.isUsable = true ∧ ∃ url methods, Url.parse definition.target = .ok url ∧
    methodsOf definition.methods = .ok methods ∧
      route = definition.route defaultTimeout url methods

/-- A definition that is added puts its route behind the routes and its backend among the
backends. -/
theorem Draft.add_eq_ok {draft next : Draft} {definition : Definition}
    (added : draft.add defaultTimeout definition = .ok next) :
    ∃ url methods, Url.parse definition.target = .ok url ∧
      methodsOf definition.methods = .ok methods ∧
      next.routes = draft.routes ++ [definition.route defaultTimeout url methods] ∧
      next.backends = insertBackend (definition.backend url) draft.backends := by
  simp only [Draft.add] at added
  split at added
  · cases added
  · next url parsed =>
      split at added
      · cases added
      · next methods accepted =>
          cases added
          exact ⟨url, methods, parsed, accepted, rfl, rfl⟩

/-- What holds of no definitions and the empty draft, and is kept by every definition that is added,
holds of the usable definitions and their draft. -/
theorem Table.draft_follows (inv : List Definition → Draft → Prop) (empty : inv [] ⟨[], [], []⟩)
    (kept : ∀ {before : List Definition} {draft next : Draft} {definition : Definition},
      definition ∈ definitions → definition.isUsable = true → inv before draft →
      draft.add defaultTimeout definition = .ok next → inv (before ++ [definition]) next)
    {draft : Draft} (drafted : Table.draft definitions defaultTimeout = .ok draft) :
    inv (definitions.filter Definition.isUsable) draft := by
  suffices grows : ∀ (rest before : List Definition) (start : Draft),
      (∀ definition ∈ rest, definition ∈ definitions ∧ definition.isUsable = true) →
      inv before start → rest.foldlM (Draft.add defaultTimeout) start = .ok draft →
      inv (before ++ rest) draft by
    refine grows _ [] _ ?_ empty drafted
    intro definition member
    exact List.mem_filter.mp member
  intro rest
  induction rest with
  | nil =>
      intro before start _ holds ended
      cases ended
      rw [List.append_nil]
      exact holds
  | cons definition rest inductionHypothesis =>
      intro before start usable holds folded
      obtain ⟨known, isUsable⟩ := usable definition List.mem_cons_self
      rw [List.foldlM_cons] at folded
      cases added : start.add defaultTimeout definition with
      | error failure => rw [added] at folded; cases folded
      | ok next =>
          rw [added] at folded
          rw [List.append_cons]
          refine inductionHypothesis _ next ?_ (kept known isUsable holds added) folded
          exact fun other member => usable other (List.mem_cons_of_mem _ member)

/-- What the empty draft has and every usable definition keeps holds of the whole draft. -/
theorem Table.draft_preserves (inv : Draft → Prop) (empty : inv ⟨[], [], []⟩)
    (kept : ∀ {draft next : Draft} {definition : Definition}, definition ∈ definitions →
      definition.isUsable = true → inv draft → draft.add defaultTimeout definition = .ok next →
      inv next)
    {draft : Draft} (drafted : Table.draft definitions defaultTimeout = .ok draft) :
    inv draft :=
  Table.draft_follows (fun _ => inv) empty kept drafted

@[simp] theorem mem_keys_insertBackend {key : String} {backend : Backend}
    {backends : List Backend} :
    key ∈ (insertBackend backend backends).map Backend.key ↔
      key = backend.key ∨ key ∈ backends.map Backend.key := by
  induction backends with
  | nil => simp [insertBackend]
  | cons first rest inductionHypothesis =>
      simp only [insertBackend]
      split
      · simp
      · split
        · next same => simp [same]
        · rw [List.map_cons, List.mem_cons, inductionHypothesis, List.map_cons, List.mem_cons]
          exact or_left_comm

namespace Table

/-- A table that was built is given by what the build yields. -/
theorem build_of_toOption {result : Table × List Shadowing}
    (yielded : (Table.build definitions defaultTimeout).toOption = some result) :
    Table.build definitions defaultTimeout = .ok result := by
  cases outcome : Table.build definitions defaultTimeout with
  | error failure => rw [outcome] at yielded; cases yielded
  | ok other => rw [outcome] at yielded; rw [Option.some.inj yielded]

/-- Routes that are drafted in matching order stay in it. -/
theorem build_of_draft {routes : List Route} {backends : List Backend}
    {shadowings : List Shadowing}
    (drafted : (Table.draft definitions defaultTimeout).toOption.map
      (fun draft => (draft.routes, draft.backends, draft.shadowings)) =
        some (routes, backends, shadowings))
    (descending : routes.Pairwise fun a b =>
      b.pathPrefix.utf8ByteSize ≤ a.pathPrefix.utf8ByteSize) :
    Table.build definitions defaultTimeout = .ok (⟨routes, backends⟩, shadowings) := by
  have sorted : sortRoutes routes = routes := by
    refine List.mergeSort_of_pairwise (descending.imp fun larger => ?_)
    simpa using larger
  cases outcome : Table.draft definitions defaultTimeout with
  | error failure => rw [outcome] at drafted; cases drafted
  | ok draft =>
      rw [outcome] at drafted
      cases Option.some.inj drafted
      simp [build, outcome, Except.map, sorted]

variable {table : Table} {shadowings : List Shadowing}
  (built : Table.build definitions defaultTimeout = .ok (table, shadowings))
include built

theorem draft_of_build : ∃ draft, Table.draft definitions defaultTimeout = .ok draft ∧
    table.routes = sortRoutes draft.routes ∧ table.backends = draft.backends := by
  simp only [build] at built
  cases drafted : Table.draft definitions defaultTimeout with
  | error failure => rw [drafted] at built; cases built
  | ok draft =>
      rw [drafted] at built
      cases built
      exact ⟨draft, rfl, rfl, rfl⟩

theorem yields_of_mem_build {route : Route} (member : route ∈ table.routes) :
    ∃ definition ∈ definitions, definition.Yields defaultTimeout route := by
  obtain ⟨draft, drafted, sorted, -⟩ := draft_of_build built
  have origin : ∀ route ∈ draft.routes,
      ∃ definition ∈ definitions, definition.Yields defaultTimeout route := by
    refine draft_preserves (fun draft => ∀ route ∈ draft.routes,
      ∃ definition ∈ definitions, definition.Yields defaultTimeout route) nofun ?_ drafted
    intro draft next definition known usable holds added route member
    obtain ⟨url, methods, parsed, accepted, routes, -⟩ := Draft.add_eq_ok added
    rw [routes] at member
    rcases List.mem_append.mp member with earlier | last
    · exact holds route earlier
    · exact ⟨definition, known, usable, url, methods, parsed, accepted,
        List.mem_singleton.mp last⟩
  rw [sorted] at member
  exact origin route (List.mem_mergeSort.mp member)

/-- The backend of a route is in the table. -/
theorem backendKey_mem_build {route : Route} (member : route ∈ table.routes) :
    route.backendKey ∈ table.backends.map Backend.key := by
  obtain ⟨draft, drafted, sorted, backends⟩ := draft_of_build built
  have present : ∀ route ∈ draft.routes, route.backendKey ∈ draft.backends.map Backend.key := by
    refine draft_preserves (fun draft => ∀ route ∈ draft.routes,
      route.backendKey ∈ draft.backends.map Backend.key) nofun ?_ drafted
    intro draft next definition _ _ holds added route member
    obtain ⟨url, methods, -, -, routes, backends⟩ := Draft.add_eq_ok added
    rw [routes] at member
    rw [backends, mem_keys_insertBackend]
    rcases List.mem_append.mp member with earlier | last
    · exact .inr (holds route earlier)
    · left
      rw [List.mem_singleton.mp last]
      rfl
  rw [sorted] at member
  rw [backends]
  exact present route (List.mem_mergeSort.mp member)

omit built in
/-- A route that is found for a path is one of the table's and covers the path. -/
theorem mem_of_match? {path : String} {route : Route} (matched : table.match? path = some route) :
    route ∈ table.routes ∧ route.covers path = true :=
  ⟨List.mem_of_find?_eq_some matched, by simpa using List.find?_some matched⟩

end Table

end ApiGateway.Routing
