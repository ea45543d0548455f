import ApiGateway.Proofs.Routing.Documents
import ApiGateway.Proofs.Routing.LongestPrefix
import Mathlib.Logic.Basic

/-!
# Explicit routes come before the fallback block

A document's definitions are its explicit routes and then one expansion for each key of an
active fallback block. An expansion never leaves the base path of its block
(`Fallback.within_of_qualifies`), and it has a path only where every explicit definition
that qualifies is shorter (`FirstLargest.of_append`). `Document.selection_of_build` puts
the table, the choice of a route and what an expanded route has of its key together.
-/

namespace ApiGateway.Routing

/-- A path is a base or lies below it. -/
def Within (base path : String) : Prop :=
  path = base ∨ ∃ below, path = base ++ "/" ++ below

theorem Within.trans {base middle path : String} (outer : Within base middle)
    (inner : Within middle path) : Within base path := by
  rcases outer with rfl | ⟨front, rfl⟩
  · exact inner
  · rcases inner with rfl | ⟨back, rfl⟩
    · exact .inr ⟨front, rfl⟩
    · exact .inr ⟨front ++ "/" ++ back, by simp only [String.append_assoc]⟩

/-! ## The prefixes of a fallback block -/

theorem subset_rooted (text : List Char) : text ⊆ rooted text := by
  simp only [rooted]
  split
  · exact List.Subset.refl _
  · exact List.subset_cons_self _ _

/-- A text that ends without a slash is put in front of more as it is, and the slashes at the end
of what comes after it go away. -/
theorem normalizePrefixChars_append {front : List Char} {last : Char} (noSlash : last ≠ '/')
    (more : List Char) :
    normalizePrefixChars (front ++ [last] ++ more) =
      rooted (front ++ [last]) ++ Text.trimEndWith (· = '/') more := by
  -- Whether a slash is missing in front does not depend on how the text goes on.
  have opened : ∃ lead, ∀ more, rooted (front ++ [last] ++ more) = lead ++ [last] ++ more := by
    cases front with
    | nil => exact ⟨['/'], fun more => by simp [rooted, noSlash]⟩
    | cons c rest =>
        by_cases slash : c = '/'
        · exact ⟨c :: rest, fun more => by simp [rooted, slash]⟩
        · exact ⟨'/' :: c :: rest, fun more => by simp [rooted, slash]⟩
  obtain ⟨lead, opened⟩ := opened
  have whole : rooted (front ++ [last]) = lead ++ [last] := by simpa using opened []
  have trimmed : Text.trimEndWith (· = '/') (lead ++ [last] ++ more) =
      lead ++ [last] ++ Text.trimEndWith (· = '/') more := by
    by_cases gone : Text.trimEndWith (· = '/') more = []
    · rw [Text.trimEndWith_append_of_eq_nil gone, gone, List.append_nil]
      exact Text.trimEndWith_concat (by simpa using noSlash) lead
    · exact Text.trimEndWith_append_of_ne_nil gone _
  rw [normalizePrefixChars, opened, trimmed, whole]
  split
  · next empty => simp at empty
  · rfl

namespace Fallback

/-- The effective base path: with a slash in front and none at the end. -/
def root (fallback : Fallback) : String := String.ofList (rooted fallback.base.toList)

theorem base_eq_concat (fallback : Fallback) :
    ∃ front last, fallback.base.toList = front ++ [last] ∧ last ≠ '/' := by
  simp only [base]
  split
  · exact ⟨"/ap".toList, 'i', by decide, by decide⟩
  · next filled =>
      cases trimmed : fallback.basePath.toList.reverse.dropWhile (· = '/') with
      | nil => simp [trimmed] at filled
      | cons last front =>
          have some : fallback.basePath.toList.reverse.dropWhile (· = '/') ≠ [] := by
            simp [trimmed]
          have kept := List.head_dropWhile_not (· = '/') some
          exact ⟨front.reverse, last, by simp, by simpa [trimmed] using kept⟩

variable (fallback : Fallback) (key : String) (mapping : FallbackMapping)

/-- The canonical prefix of an expansion is the base, if the key has slashes only, or lies below
it. It is never the root of all paths. -/
theorem canonicalPrefix_definitionOf :
    Within fallback.root (fallback.definitionOf key mapping).canonicalPrefix ∧
      (fallback.definitionOf key mapping).canonicalPrefix ≠ "/" := by
  obtain ⟨front, last, ends, noSlash⟩ := fallback.base_eq_concat
  have canonical : (fallback.definitionOf key mapping).canonicalPrefix.toList =
      fallback.root.toList ++ Text.trimEndWith (· = '/') ('/' :: key.toList) := by
    simp only [Definition.canonicalPrefix, definitionOf, normalizePrefix, root,
      String.toList_ofList, String.toList_append, ends]
    rw [List.append_assoc (front ++ [last])]
    exact normalizePrefixChars_append noSlash _
  constructor
  · cases trimmed : Text.trimEndWith (· = '/') ('/' :: key.toList) with
    | nil =>
        left
        rw [← String.toList_inj, canonical, trimmed, List.append_nil]
    | cons c rest =>
        right
        obtain ⟨back, whole⟩ := Text.trimEndWith_prefix (· = '/') ('/' :: key.toList)
        rw [trimmed] at whole
        obtain ⟨slash, -⟩ := List.cons.inj whole
        refine ⟨String.ofList rest, ?_⟩
        rw [← String.toList_inj, canonical, trimmed, slash]
        simp
  · intro isRoot
    have member : last ∈ (fallback.definitionOf key mapping).canonicalPrefix.toList := by
      rw [canonical, root, String.toList_ofList, ends]
      exact List.mem_append_left _ (subset_rooted _ (by simp))
    rw [isRoot] at member
    exact noSlash (by simpa using member)

variable {fallback key mapping}

/-- A path that an expansion qualifies for is the base or lies below it. -/
theorem within_of_qualifies {path : String}
    (qualified : (fallback.definitionOf key mapping).Qualifies path) :
    Within fallback.root path := by
  obtain ⟨inside, notRoot⟩ := fallback.canonicalPrefix_definitionOf key mapping
  rcases qualified.covering with isRoot | covered
  · exact absurd isRoot notRoot
  · exact inside.trans covered

/-- An expansion always has a prefix, so it is usable if its mapping has a target. -/
theorem isUsable_definitionOf :
    (fallback.definitionOf key mapping).isUsable = !mapping.target.isEmpty := by
  simp [Definition.isUsable, definitionOf]

/-- What an expanded route has of its block and of its key. -/
structure Carries (fallback : Fallback) (entry : String × FallbackMapping) (route : Route) :
    Prop where
  named : route.name = "fallback-" ++ entry.1
  placed : Within fallback.root route.pathPrefix
  target : Url.parse entry.2.target = .ok route.target
  requireAuth : route.requireAuth = entry.2.requireAuth
  strategy : route.strategy = .parse entry.2.authStrategy
  stripPrefix : route.stripPrefix = (fallback.stripBase || entry.2.stripPrefix)

theorem carries_of_yields {defaultTimeout : Duration} {route : Route}
    (yields : (fallback.definitionOf key mapping).Yields defaultTimeout route) :
    fallback.Carries (key, mapping) route := by
  obtain ⟨-, url, methods, parsed, -, rfl⟩ := yields
  exact {
    named := by simp [Definition.route, definitionOf]
    placed := (fallback.canonicalPrefix_definitionOf key mapping).1
    target := parsed
    requireAuth := rfl
    strategy := rfl
    stripPrefix := rfl }

/-- The routes of the expansions go with the keys that have a target. -/
theorem forall₂_carries {defaultTimeout : Duration} {routes : List Route}
    (yields : List.Forall₂ (Definition.Yields defaultTimeout)
      (fallback.expand.filter Definition.isUsable) routes) :
    List.Forall₂ fallback.Carries
      (fallback.mappings.filter fun entry => !entry.2.target.isEmpty) routes := by
  have usable : (Definition.isUsable ∘ fun entry : String × FallbackMapping =>
      fallback.definitionOf entry.1 entry.2) = fun entry => !entry.2.target.isEmpty :=
    funext fun _ => isUsable_definitionOf
  rw [expand, List.filter_map, List.forall₂_map_left_iff, usable] at yields
  exact yields.imp fun _ _ => carries_of_yields

end Fallback

/-! ## Documents -/

namespace Document

/-- The fallback block, if it defines something. -/
def active? (document : Document) : Option Fallback := document.fallback.filter Fallback.isActive

/-- What an active fallback block maps, key by key. -/
def entries (document : Document) : List (String × FallbackMapping) :=
  (document.active?.map Fallback.mappings).getD []

/-- What an active fallback block expands to. -/
def expansions (document : Document) : List Definition :=
  (document.active?.map Fallback.expand).getD []

theorem definitions_eq (document : Document) :
    document.definitions = document.routes ++ document.expansions := by
  simp only [definitions, expansions, active?]
  cases document.fallback with
  | none => rfl
  | some fallback => by_cases active : fallback.isActive = true <;> simp [Option.filter, active]

theorem active?_eq_some_iff {document : Document} {fallback : Fallback} :
    document.active? = some fallback ↔
      document.fallback = some fallback ∧ fallback.basePath ≠ "" ∧ fallback.mappings ≠ [] := by
  simp [active?, Option.filter_eq_some_iff, Fallback.isActive]

theorem mem_expansions_iff {document : Document} {definition : Definition} :
    definition ∈ document.expansions ↔ ∃ fallback, document.active? = some fallback ∧
      ∃ entry ∈ fallback.mappings, fallback.definitionOf entry.1 entry.2 = definition := by
  cases active : document.active? with
  | none => simp [expansions, active]
  | some fallback => simp [expansions, active, Fallback.expand]

/-- A table has one route for each usable explicit definition and one for each key of an active
fallback block that has a target, all of them in this order before they are sorted. -/
structure Arranges (document : Document) (defaultTimeout : Duration) (table : Table)
    (explicit expanded : List Route) : Prop where
  listed : ∀ fallback, document.active? = some fallback → document.definitions =
    document.routes ++ fallback.mappings.map fun entry => fallback.definitionOf entry.1 entry.2
  sorted : table.routes = Table.sortRoutes (explicit ++ expanded)
  own : List.Forall₂ (Definition.Yields defaultTimeout)
    (document.routes.filter Definition.isUsable) explicit
  keyed : List.Forall₂
    (fun entry route => ∃ fallback, document.active? = some fallback ∧
      fallback.Carries entry route)
    (document.entries.filter fun entry => !entry.2.target.isEmpty) expanded

/-- A path takes the route of the explicit definition that prevails among the explicit ones, and
no expansion that qualifies has a longer prefix. -/
structure Owns (document : Document) (defaultTimeout : Duration) (path : String)
    (definition : Definition) (route : Route) : Prop where
  prevails : Prevails document.routes path definition
  yields : definition.Yields defaultTimeout route
  notShorter : ∀ expansion ∈ document.expansions, expansion.Qualifies path →
    expansion.canonicalPrefix.utf8ByteSize ≤ definition.canonicalPrefix.utf8ByteSize

/-- A path takes the route that a key of the fallback block expands to: the block has a base path
and mappings, the path is within the base, and every explicit definition that qualifies has a
shorter prefix. -/
structure FallsBack (document : Document) (defaultTimeout : Duration) (path : String)
    (fallback : Fallback) (entry : String × FallbackMapping) (route : Route) : Prop where
  block : document.fallback = some fallback
  based : fallback.basePath ≠ ""
  mapped : entry ∈ fallback.mappings
  prevails : Prevails fallback.expand path (fallback.definitionOf entry.1 entry.2)
  yields : (fallback.definitionOf entry.1 entry.2).Yields defaultTimeout route
  within : Within fallback.root path
  unowned : ∀ definition ∈ document.routes, definition.Qualifies path →
    definition.canonicalPrefix.utf8ByteSize <
      (fallback.definitionOf entry.1 entry.2).canonicalPrefix.utf8ByteSize
  carries : fallback.Carries entry route

variable {document : Document} {defaultTimeout : Duration} {path : String}

/-- What an explicit definition owns does not fall back. -/
theorem Owns.not_fallsBack {definition : Definition} {route : Route}
    (owns : document.Owns defaultTimeout path definition route) {fallback : Fallback}
    {entry : String × FallbackMapping} {other : Route} :
    ¬ document.FallsBack defaultTimeout path fallback entry other := by
  intro fallsBack
  have active : document.active? = some fallback :=
    active?_eq_some_iff.mpr
      ⟨fallsBack.block, fallsBack.based, List.ne_nil_of_mem fallsBack.mapped⟩
  have notLonger := owns.notShorter _
    (mem_expansions_iff.mpr ⟨fallback, active, entry, fallsBack.mapped, rfl⟩)
    fallsBack.prevails.good
  exact Nat.not_lt.mpr notLonger
    (fallsBack.unowned definition owns.prevails.mem owns.prevails.good)

variable {table : Table} {shadowings : List Shadowing}
  (built : Table.build document.definitions defaultTimeout = .ok (table, shadowings))
include built

/-- The usable definitions of a document have their routes in their order. -/
theorem exists_arranges : ∃ explicit expanded,
    document.Arranges defaultTimeout table explicit expanded := by
  obtain ⟨routes, sorted, yields⟩ := Table.routes_of_build built
  rw [definitions_eq, List.filter_append] at yields
  obtain ⟨explicit, expanded, rfl, own, later⟩ := forall₂_append_left yields
  refine ⟨explicit, expanded, ?_, sorted, own, ?_⟩
  · intro fallback active
    rw [definitions_eq, expansions, active]
    rfl
  · simp only [expansions] at later
    simp only [entries]
    cases active : document.active? with
    | none =>
        rw [active] at later
        cases later
        exact .nil
    | some fallback =>
        rw [active] at later
        exact (Fallback.forall₂_carries later).imp fun _ _ carries => ⟨fallback, rfl, carries⟩

/-- The route that a path takes is that of an explicit definition or falls back. -/
theorem owns_or_fallsBack {route : Route} (matched : table.match? path = some route) :
    (∃ definition, document.Owns defaultTimeout path definition route) ∨
      ∃ fallback entry, document.FallsBack defaultTimeout path fallback entry route := by
  obtain ⟨definition, prevails⟩ :=
    exists_firstLargest (Table.exists_qualifies_of_match? built matched)
  obtain ⟨other, yields, same⟩ := Table.match?_of_prevails built prevails
  rw [matched] at same
  cases same
  rw [definitions_eq] at prevails
  rcases prevails.of_append with ⟨explicit, notShorter⟩ | ⟨expanded, unowned⟩
  · exact .inl ⟨definition, explicit, yields, notShorter⟩
  · obtain ⟨fallback, active, entry, mapped, rfl⟩ := mem_expansions_iff.mp expanded.mem
    obtain ⟨block, based, -⟩ := active?_eq_some_iff.mp active
    rw [expansions, active] at expanded
    refine .inr ⟨fallback, entry, block, based, mapped, expanded, yields, ?_, unowned, ?_⟩
    · exact Fallback.within_of_qualifies expanded.good
    · exact Fallback.carries_of_yields yields

/-- Fallback routes never have what explicit routes own: the route that a path takes is either that
of an explicit definition or that of a key of an active fallback block, whose base the path is
within while every explicit definition that qualifies is shorter. An expanded route has the
target and the settings of its key; the expansions come after the explicit definitions, one for
each key in the ascending order in which documents are read. -/
theorem selection_of_build :
    (∃ explicit expanded, document.Arranges defaultTimeout table explicit expanded) ∧
    (∀ path route, table.match? path = some route →
      Xor (∃ definition, document.Owns defaultTimeout path definition route)
        (∃ fallback entry, document.FallsBack defaultTimeout path fallback entry route)) ∧
    ∀ source, Yaml.Decode.run? Document.decode source = some document →
      ∀ fallback, document.fallback = some fallback →
        (fallback.mappings.map (·.1)).Pairwise (· < ·) := by
  refine ⟨exists_arranges built, fun path route matched => ?_, fun source read fallback block =>
    ascending_keys_of_decode read block⟩
  rcases owns_or_fallsBack built matched with ⟨definition, owns⟩ | falls
  · exact .inl ⟨⟨definition, owns⟩, fun ⟨_, _, falls⟩ => owns.not_fallsBack falls⟩
  · refine .inr ⟨falls, fun ⟨definition, owns⟩ => ?_⟩
    obtain ⟨fallback, entry, fallsBack⟩ := falls
    exact owns.not_fallsBack fallsBack

end Document

/-- An explicit route within the base of a fallback block. -/
def hotels : Definition where
  name := "hotels"
  pathPrefix := "api/hotels/"
  target := "http://h"

/-- A block that maps the key of the explicit route as well. -/
def rooms : Fallback where
  basePath := "api/"
  stripBase := true
  mappings := [("hotels", { target := "http://f" }), ("rooms", { target := "http://f" })]

/-- A document with both. -/
def sharedDocument : Document := ⟨[hotels], some rooms⟩

theorem sharedDocument_builds : ∃ table shadowings,
    Table.build sharedDocument.definitions (.ofSeconds 10) = .ok (table, shadowings) := by
  have succeeds : (Table.build sharedDocument.definitions (.ofSeconds 10)).toOption.isSome =
      true := by
    decide
  obtain ⟨⟨table, shadowings⟩, yielded⟩ := Option.isSome_iff_exists.mp succeeds
  exact ⟨table, shadowings, Table.build_of_toOption yielded⟩

theorem explicit_before_fallback : ∃ table shadowings,
    Table.build sharedDocument.definitions (.ofSeconds 10) = .ok (table, shadowings) ∧
    (∃ route definition, table.match? "/api/hotels/1" = some route ∧
      sharedDocument.Owns (.ofSeconds 10) "/api/hotels/1" definition route) ∧
    ∃ route fallback entry, table.match? "/api/rooms/1" = some route ∧
      sharedDocument.FallsBack (.ofSeconds 10) "/api/rooms/1" fallback entry route := by
  obtain ⟨table, shadowings, built⟩ := sharedDocument_builds
  obtain ⟨-, selection, -⟩ := Document.selection_of_build built
  refine ⟨table, shadowings, built, ?_, ?_⟩
  · have qualified : hotels.Qualifies "/api/hotels/1" :=
      ⟨by decide, by decide, .inr (.inr ⟨"1", by decide⟩)⟩
    obtain ⟨route, matched⟩ :=
      Table.exists_match?_of_qualifies built List.mem_cons_self qualified
    rcases selection _ _ matched with ⟨⟨definition, owns⟩, -⟩ | ⟨⟨fallback, entry, falls⟩, -⟩
    · exact ⟨route, definition, matched, owns⟩
    · -- No prefix of the block is longer than the explicit one.
      have shorter : ∀ entry ∈ rooms.mappings,
          (rooms.definitionOf entry.1 entry.2).canonicalPrefix.utf8ByteSize ≤
            hotels.canonicalPrefix.utf8ByteSize := by
        decide
      cases Option.some.inj falls.block
      exact absurd (falls.unowned _ List.mem_cons_self qualified)
        (Nat.not_lt.mpr (shorter entry falls.mapped))
  · have qualified : (rooms.definitionOf "rooms" { target := "http://f" }).Qualifies
        "/api/rooms/1" :=
      ⟨by decide, by decide, .inr (.inr ⟨"1", by decide⟩)⟩
    obtain ⟨route, matched⟩ := Table.exists_match?_of_qualifies built (by decide) qualified
    rcases selection _ _ matched with ⟨⟨definition, owns⟩, -⟩ | ⟨⟨fallback, entry, falls⟩, -⟩
    · have covered := (owns.yields.qualifies_iff _).mp owns.prevails.good
      obtain ⟨-, url, methods, -, -, rfl⟩ := owns.yields
      cases List.mem_singleton.mp owns.prevails.mem
      have uncovered : Route.coversChars (normalizePrefix hotels.pathPrefix).toList
          "/api/rooms/1".toList = false := by
        decide
      exact absurd (covered.symm.trans uncovered) nofun
    · exact ⟨route, fallback, entry, matched, falls⟩

end ApiGateway.Routing
