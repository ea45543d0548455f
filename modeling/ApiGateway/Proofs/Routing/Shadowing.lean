import ApiGateway.Proofs.Routing.Forwarding
import ApiGateway.Proofs.Routing.LongestPrefix

/-!
# Shadowed definitions

A build warns of a definition whose canonical prefix an earlier one has, long before the
routes are sorted. `warns_iff_untaken` says that these are exactly the definitions whose
routes no path takes: a path that would take the later route takes the earlier one, and a
route without an earlier one of its prefix is taken by that prefix itself. Two definitions
may have equal routes, so routes are told apart by their places (`Table.numbered`).
-/

namespace ApiGateway.Routing

namespace Table

/-! ## Places -/

/-- The routes in matching order, each with its place among the routes as they were given. -/
def numbered (routes : List Route) : List (Route × Nat) :=
  routes.zipIdx.mergeSort fun a b => b.1.pathPrefix.utf8ByteSize ≤ a.1.pathPrefix.utf8ByteSize

/-- The route that a path takes, with its place among the routes as they were given. -/
def taken? (routes : List Route) (path : String) : Option (Route × Nat) :=
  (numbered routes).find? fun entry => entry.1.covers path

/-- Without the places the routes are sorted as those of a table. -/
theorem map_fst_numbered (routes : List Route) :
    (numbered routes).map Prod.fst = sortRoutes routes := by
  have sorted := List.map_mergeSort (f := Prod.fst) (l := routes.zipIdx)
    (r := fun a b => b.1.pathPrefix.utf8ByteSize ≤ a.1.pathPrefix.utf8ByteSize)
    (s := fun a b => b.pathPrefix.utf8ByteSize ≤ a.pathPrefix.utf8ByteSize)
    fun _ _ _ _ => rfl
  rwa [List.zipIdx_map_fst] at sorted

/-- Without its place the route that is taken is the one that a table finds. -/
theorem map_fst_taken? (routes : List Route) (path : String) :
    (taken? routes path).map Prod.fst =
      (sortRoutes routes).find? fun route => route.covers path := by
  rw [← map_fst_numbered, List.find?_map, taken?]
  rfl

theorem zipIdx_append_cons (front back : List Route) (route : Route) :
    (front ++ route :: back).zipIdx =
      front.zipIdx ++ (route, front.length) :: back.zipIdx (front.length + 1) := by
  rw [List.zipIdx_append, List.zipIdx_cons, Nat.zero_add]

/-- What stands before an entry is what was given before its route. -/
theorem eq_zipIdx_of_split {front back : List Route} {route : Route}
    {before after : List (Route × Nat)}
    (split : (front ++ route :: back).zipIdx = before ++ (route, front.length) :: after) :
    before = front.zipIdx := by
  -- An entry carries its own position, so the two splits are at the same one.
  have position : (front ++ route :: back).zipIdx[before.length]? =
      some (route, front.length) := by
    rw [split]
    simp
  rw [List.getElem?_zipIdx, Option.map_eq_some_iff] at position
  obtain ⟨other, -, same⟩ := position
  have length : before.length = front.length := by
    have snd := congrArg Prod.snd same
    simpa using snd
  rw [zipIdx_append_cons] at split
  exact List.append_inj_left split.symm (by simpa using length)

end Table

/-! ## Which route is taken -/

/-- A route that covers a path has it as its prefix, or a shorter prefix. -/
theorem Route.prefix_eq_or_lt_of_covers {route : Route} {path : String}
    (opened : ∃ rest, path.toList = '/' :: rest) (covered : route.covers path = true) :
    route.pathPrefix = path ∨ route.pathPrefix.utf8ByteSize < path.utf8ByteSize := by
  obtain ⟨rest, opened⟩ := opened
  rcases coversChars_eq_true_iff.mp covered with root | itself | ⟨below, split⟩
  · have isRoot : route.pathPrefix = "/" := String.toList_inj.mp root
    have whole : path = "/" ++ String.ofList rest := by
      rw [← String.toList_inj, opened]
      simp
    cases rest with
    | nil => exact .inl (isRoot.trans whole.symm)
    | cons c rest =>
        right
        have positive : 0 < c.utf8Size := c.utf8Size_pos
        rw [isRoot, whole, String.utf8ByteSize_append, String.ofList_cons,
          String.utf8ByteSize_append, String.utf8ByteSize_singleton]
        omega
  · exact .inl (String.toList_inj.mp itself.symm)
  · right
    have whole : path = route.pathPrefix ++ "/" ++ String.ofList below := by
      rw [← String.toList_inj, split]
      simp
    rw [whole, String.utf8ByteSize_append, String.utf8ByteSize_append]
    have slash : "/".utf8ByteSize = 1 := rfl
    omega

namespace Table

variable {front back : List Route} {route : Route}

/-- No path takes a route behind another one with its prefix. -/
theorem taken?_ne_of_earlier {first : Route} (earlier : first ∈ front)
    (same : first.pathPrefix = route.pathPrefix) (path : String) :
    taken? (front ++ route :: back) path ≠ some (route, front.length) := by
  intro taken
  have present : (route, front.length) ∈ (front ++ route :: back).zipIdx :=
    List.mem_mergeSort.mp (List.mem_of_find?_eq_some taken)
  have covered : route.covers path = true :=
    List.find?_some (p := fun entry : Route × Nat => entry.1.covers path) taken
  have exists_largest : ∃ chosen, FirstLargest
      (fun entry : Route × Nat => entry.1.pathPrefix.utf8ByteSize)
      (fun entry => entry.1.covers path = true) (front ++ route :: back).zipIdx chosen :=
    exists_firstLargest ⟨_, present, covered⟩
  obtain ⟨chosen, largest⟩ := exists_largest
  have isChosen : some chosen = some (route, front.length) :=
    (find?_mergeSort_of_firstLargest largest).symm.trans taken
  cases isChosen
  obtain ⟨-, before, after, split, smaller, -⟩ := largest
  obtain ⟨place, found⟩ : ∃ place, (first, place) ∈ front.zipIdx := by
    obtain ⟨place, found⟩ := List.mem_iff_getElem?.mp earlier
    exact ⟨place, List.mem_zipIdx_iff_getElem?.mpr found⟩
  have alsoCovered : first.covers path = true := by
    rw [Route.covers, same]
    exact covered
  have less := smaller _ (eq_zipIdx_of_split split ▸ found) alsoCovered
  simp only [same] at less
  exact Nat.lt_irrefl _ less

/-- A canonical prefix takes the first route that has it. -/
theorem taken?_prefix_of_first (opened : ∃ rest, route.pathPrefix.toList = '/' :: rest)
    (first : ∀ other ∈ front, other.pathPrefix ≠ route.pathPrefix) :
    taken? (front ++ route :: back) route.pathPrefix = some (route, front.length) := by
  have own : route.covers route.pathPrefix = true :=
    Route.coversChars_eq_true_iff.mpr (.inr (.inl rfl))
  have largest : FirstLargest (fun entry : Route × Nat => entry.1.pathPrefix.utf8ByteSize)
      (fun entry => entry.1.covers route.pathPrefix = true) (front ++ route :: back).zipIdx
      (route, front.length) := by
    refine ⟨own, front.zipIdx, back.zipIdx (front.length + 1), zipIdx_append_cons .., ?_, ?_⟩
    · intro entry member covered
      refine (Route.prefix_eq_or_lt_of_covers opened covered).resolve_left ?_
      exact first _ (List.fst_mem_of_mem_zipIdx member)
    · intro entry _ covered
      rcases Route.prefix_eq_or_lt_of_covers opened covered with same | shorter
      · exact Nat.le_of_eq (congrArg String.utf8ByteSize same)
      · exact Nat.le_of_lt shorter
  exact find?_mergeSort_of_firstLargest largest

end Table

/-! ## Warnings -/

variable {defaultTimeout : Duration}

theorem Draft.shadowings_of_add {draft next : Draft} {definition : Definition}
    (added : draft.add defaultTimeout definition = .ok next) :
    next.shadowings = draft.shadowings ++ (shadowingOf draft.routes definition).toList := by
  simp only [Draft.add] at added
  split at added
  · cases added
  · split at added
    · cases added
    · cases added
      rfl

/-- A definition is shadowed by the first route with its canonical prefix. -/
theorem shadowingOf_eq_some_iff {routes : List Route} {definition : Definition}
    {shadowing : Shadowing} :
    shadowingOf routes definition = some shadowing ↔ ∃ first,
      routes.find? (fun route => route.pathPrefix == definition.canonicalPrefix) = some first ∧
      shadowing = ⟨definition.name, definition.canonicalPrefix, first.name⟩ := by
  rw [shadowingOf, Option.map_eq_some_iff]
  refine exists_congr fun first => and_congr_right fun _ => ?_
  exact eq_comm

theorem shadowingOf_eq_none_iff {routes : List Route} {definition : Definition} :
    shadowingOf routes definition = none ↔
      ∀ route ∈ routes, route.pathPrefix ≠ definition.canonicalPrefix := by
  simp [shadowingOf, Definition.canonicalPrefix]

namespace Table

/-- The shadowings that a build has noticed after some definitions. -/
def noticed? (definitions : List Definition) (defaultTimeout : Duration) :
    Option (List Shadowing) :=
  (draft definitions defaultTimeout).toOption.map (·.shadowings)

/-- A build that comes to a definition after others notices a shadowing. -/
def Warns (defaultTimeout : Duration) (before : List Definition) (definition : Definition)
    (shadowing : Shadowing) : Prop :=
  ∃ noticed, noticed? before defaultTimeout = some noticed ∧
    noticed? (before ++ [definition]) defaultTimeout = some (noticed ++ [shadowing])

/-- A draft of many definitions goes through the drafts of the first ones. -/
theorem exists_draft_of_split {before after : List Definition} {definition : Definition}
    {whole : Draft} (usable : definition.isUsable = true)
    (drafted : draft (before ++ definition :: after) defaultTimeout = .ok whole) :
    ∃ early next, draft before defaultTimeout = .ok early ∧
      early.add defaultTimeout definition = .ok next ∧
      draft (before ++ [definition]) defaultTimeout = .ok next := by
  simp only [draft, List.filter_append, List.foldlM_append,
    List.filter_cons_of_pos usable, List.filter_nil, List.foldlM_cons, List.foldlM_nil]
    at drafted ⊢
  cases drafting : (before.filter Definition.isUsable).foldlM (Draft.add defaultTimeout)
      ⟨[], [], []⟩ with
  | error failure => rw [drafting] at drafted; cases drafted
  | ok early =>
      rw [drafting] at drafted
      cases added : early.add defaultTimeout definition with
      | error failure =>
          simp only [bind, Except.bind, added] at drafted
          cases drafted
      | ok next =>
          refine ⟨early, next, rfl, added, ?_⟩
          simp only [bind, Except.bind, added]
          rfl

/-- How a table takes the route of a definition that its build comes to after others. -/
structure TakesUnlessWarned (defaultTimeout : Duration) (routes : List Route)
    (before : List Definition) (definition : Definition) (route : Route) : Prop where
  yields : definition.Yields defaultTimeout route
  /-- The route has the place of its definition among the usable ones. -/
  placed : routes[(before.filter Definition.isUsable).length]? = some route
  /-- A warning is given exactly if no path at all takes the route. -/
  warned_iff : (∃ shadowing, Warns defaultTimeout before definition shadowing) ↔
    ∀ path, taken? routes path ≠ some (route, (before.filter Definition.isUsable).length)
  /-- Without a warning nothing is noticed, and the route is taken by its own prefix. -/
  unwarned : (¬ ∃ shadowing, Warns defaultTimeout before definition shadowing) →
    noticed? (before ++ [definition]) defaultTimeout = noticed? before defaultTimeout ∧
      taken? routes route.pathPrefix =
        some (route, (before.filter Definition.isUsable).length)
  /-- A warning names the definition, its prefix and the first route that has this prefix. -/
  names : ∀ shadowing, Warns defaultTimeout before definition shadowing →
    ∃ first, routes.find? (fun other => other.pathPrefix == route.pathPrefix) = some first ∧
      shadowing = ⟨definition.name, route.pathPrefix, first.name⟩

theorem takesUnlessWarned_of_split {before after : List Definition} {definition : Definition}
    {whole : Draft} (usable : definition.isUsable = true)
    (drafted : draft (before ++ definition :: after) defaultTimeout = .ok whole) :
    ∃ route, TakesUnlessWarned defaultTimeout whole.routes before definition route := by
  obtain ⟨early, next, draftedEarly, added, draftedNext⟩ := exists_draft_of_split usable drafted
  have yields := forall₂_routes_of_draft drafted
  rw [List.filter_append, List.filter_cons_of_pos usable] at yields
  obtain ⟨front, rest, split, yieldsFront, yieldsRest⟩ := forall₂_append_left yields
  obtain ⟨route, back, own, -, rfl⟩ := List.forall₂_cons_left_iff.mp yieldsRest
  have place : (before.filter Definition.isUsable).length = front.length :=
    yieldsFront.length_eq
  have isEarly : early.routes = front :=
    List.right_unique_forall₂' (fun _ _ _ yields also => yields.unique also)
      (forall₂_routes_of_draft draftedEarly) yieldsFront
  have canonical : route.pathPrefix = definition.canonicalPrefix := by
    obtain ⟨-, url, methods, -, -, rfl⟩ := own
    rfl
  have noticed : noticed? before defaultTimeout = some early.shadowings := by
    rw [noticed?, draftedEarly]
    rfl
  have noticedNext : noticed? (before ++ [definition]) defaultTimeout =
      some (early.shadowings ++ (shadowingOf front definition).toList) := by
    rw [noticed?, draftedNext, ← isEarly, ← Draft.shadowings_of_add added]
    rfl
  have warns_iff (shadowing : Shadowing) : Warns defaultTimeout before definition shadowing ↔
      shadowingOf front definition = some shadowing := by
    simp only [Warns, noticed, noticedNext, Option.some.injEq, exists_eq_left',
      List.append_cancel_left_eq, Option.toList_eq_singleton_iff]
  have warned_iff : (∃ shadowing, Warns defaultTimeout before definition shadowing) ↔
      ∃ first ∈ front, first.pathPrefix = route.pathPrefix := by
    simp only [warns_iff, ← Option.ne_none_iff_exists', canonical]
    rw [Ne, shadowingOf_eq_none_iff]
    simp
  have takes (alone : ¬ ∃ first ∈ front, first.pathPrefix = route.pathPrefix) :
      taken? whole.routes route.pathPrefix = some (route, front.length) := by
    rw [split]
    exact taken?_prefix_of_first own.prefix_eq_cons fun other member same =>
      alone ⟨other, member, same⟩
  refine ⟨route, own, ?_, ?_, fun unwarned => ⟨?_, ?_⟩, fun shadowing warns => ?_⟩
  · rw [place, split]
    simp
  · rw [warned_iff, place]
    constructor
    · rintro ⟨first, earlier, same⟩ path
      rw [split]
      exact taken?_ne_of_earlier earlier same path
    · intro untaken
      by_contra alone
      exact untaken _ (takes alone)
  · have none : shadowingOf front definition = none := by
      rw [shadowingOf_eq_none_iff, ← canonical]
      exact fun other member same => unwarned (warned_iff.mpr ⟨other, member, same⟩)
    rw [noticed, noticedNext, none]
    simp
  · rw [place]
    exact takes (mt warned_iff.mpr unwarned)
  · obtain ⟨first, found, rfl⟩ := shadowingOf_eq_some_iff.mp ((warns_iff shadowing).mp warns)
    refine ⟨first, ?_, by rw [canonical]⟩
    rw [split, canonical, List.find?_append, found]
    rfl

/-- A table that was built finds routes by their prefixes, whatever their places, and its build
warned of exactly the definitions whose routes no path takes; every other route is taken by its
own prefix. -/
theorem warns_iff_untaken {definitions : List Definition} {table : Table}
    {shadowings : List Shadowing}
    (built : Table.build definitions defaultTimeout = .ok (table, shadowings)) :
    ∃ routes, table.routes = (numbered routes).map Prod.fst ∧
      (∀ path, table.match? path = (taken? routes path).map Prod.fst) ∧
      noticed? definitions defaultTimeout = some shadowings ∧
      ∀ before definition after, definitions = before ++ definition :: after →
        definition.pathPrefix ≠ "" → definition.target ≠ "" →
          ∃ route, TakesUnlessWarned defaultTimeout routes before definition route := by
  simp only [build] at built
  cases drafted : draft definitions defaultTimeout with
  | error failure => rw [drafted] at built; cases built
  | ok whole =>
      rw [drafted] at built
      cases built
      refine ⟨whole.routes, (map_fst_numbered _).symm, fun path => (map_fst_taken? _ _).symm, ?_,
        ?_⟩
      · rw [noticed?, drafted]
        rfl
      · rintro before definition after rfl prefixed targeted
        have usable : definition.isUsable = true := by
          simp [Definition.isUsable, prefixed, targeted]
        exact takesUnlessWarned_of_split usable drafted

/-- The later one of two definitions with one prefix is warned of and has no path; the root, which
comes last in matching order, is taken by itself. -/
theorem later_untaken_in_nestedDefinitions : ∃ table shadowings routes later root,
    Table.build nestedDefinitions (.ofSeconds 10) = .ok (table, shadowings) ∧
      Warns (.ofSeconds 10) (nestedDefinitions.take 2)
        { versionedDefinition with name := "new", pathPrefix := "/api/v1" }
        ⟨"new", "/api/v1", "old"⟩ ∧
      routes[2]? = some later ∧ (∀ path, taken? routes path ≠ some (later, 2)) ∧
      table.match? "/" = some root ∧ root.name = "all" := by
  have succeeds : (Table.build nestedDefinitions (.ofSeconds 10)).toOption.isSome = true := by
    decide
  obtain ⟨⟨table, shadowings⟩, yielded⟩ := Option.isSome_iff_exists.mp succeeds
  have built := build_of_toOption yielded
  obtain ⟨routes, -, matches_taken, -, treats⟩ := warns_iff_untaken built
  have warned : Warns (.ofSeconds 10) (nestedDefinitions.take 2)
      { versionedDefinition with name := "new", pathPrefix := "/api/v1" }
      ⟨"new", "/api/v1", "old"⟩ := ⟨[], by decide, by decide⟩
  have quiet : ¬ ∃ shadowing, Warns (.ofSeconds 10) []
      { versionedDefinition with name := "all", pathPrefix := "/" } shadowing := by
    rintro ⟨shadowing, noticed, before, next⟩
    have nothing : noticed? [{ versionedDefinition with name := "all", pathPrefix := "/" }]
        (.ofSeconds 10) = some [] := by
      decide
    rw [List.nil_append, nothing] at next
    simp at next
  obtain ⟨later, laterTreated⟩ := treats (nestedDefinitions.take 2) _ _ rfl (by decide) (by decide)
  obtain ⟨root, rootTreated⟩ := treats [] _ _ rfl (by decide) (by decide)
  have isRoot : root.pathPrefix = "/" ∧ root.name = "all" := by
    obtain ⟨-, url, methods, -, -, rfl⟩ := rootTreated.yields
    have canonical : normalizePrefix "/" = "/" := by decide
    exact ⟨canonical, rfl⟩
  refine ⟨table, shadowings, routes, later, root, built, warned, laterTreated.placed,
    laterTreated.warned_iff.mp ⟨_, warned⟩, ?_, isRoot.2⟩
  have taken := (rootTreated.unwarned quiet).2
  rw [isRoot.1] at taken
  rw [matches_taken, taken]
  rfl

end Table

end ApiGateway.Routing
