import ApiGateway.Proofs.Routing.Forwarding
import ApiGateway.Proofs.Routing.LongestPrefix
import ApiGateway.Proofs.Routing.Segments

/-!
# What a route makes of a path

A covered path is the prefix of the route and what lies below it, which is nothing or
starts with a slash (`below_of_covers`). So replacing or taking away the prefix as text
is the same as doing so segment by segment. `Rewrites` says for each kind of route what
becomes of a path, and `rewrites_forwardedPath` that every route does so.
-/

namespace ApiGateway.Routing

/-! ## What lies below a prefix -/

/-- Nothing, or something that starts with a slash. -/
def SetOff (below : List Char) : Prop := below = [] ∨ ∃ rest, below = '/' :: rest

theorem segments_append_below (front : List Char) {below : List Char} (apart : SetOff below) :
    segments (front ++ below) = segments front ++ segments below := by
  rcases apart with rfl | ⟨rest, rfl⟩
  · have empty : segments [] = [] := rfl
    rw [List.append_nil, empty, List.append_nil]
  · rw [segments_append_slash, segments_cons_slash]

namespace Route

variable {route : Route}

theorem toList_ne_root (notRoot : route.pathPrefix ≠ "/") : route.pathPrefix.toList ≠ ['/'] :=
  fun root => notRoot (String.toList_inj.mp root)

/-- A path that a prefix other than the root covers goes on below it. -/
theorem below_of_covers (notRoot : route.pathPrefix ≠ "/") {path : String}
    (covered : route.covers path = true) :
    ∃ below, SetOff below ∧ path.toList = route.pathPrefix.toList ++ below := by
  rcases coversChars_eq_true_iff.mp covered with root | same | ⟨rest, same⟩
  · exact absurd root (toList_ne_root notRoot)
  · exact ⟨[], .inl rfl, by rw [same, List.append_nil]⟩
  · exact ⟨'/' :: rest, .inr ⟨rest, rfl⟩, same⟩

/-! ## The kinds of routes -/

theorem forwardedPath_of_root (root : route.pathPrefix = "/") (path : String) :
    route.forwardedPath path = path := by
  simp [forwardedPath, forwardedChars, root]

section Below

variable (notRoot : route.pathPrefix ≠ "/") {path : String} {below : List Char}
  (parted : path.toList = route.pathPrefix.toList ++ below)
include notRoot

/-- A route without a replacement that strips nothing keeps the path. -/
theorem forwardedPath_of_plain (plain : route.replacement = "") (whole : route.stripPrefix = false)
    (path : String) : route.forwardedPath path = path := by
  simp [forwardedPath, forwardedChars, toList_ne_root notRoot, plain, whole]

include parted

/-- A replacement stands where the prefix stood, whether or not prefixes are stripped. -/
theorem forwardedPath_of_replacement (replaces : route.replacement ≠ "") :
    (route.forwardedPath path).toList = cleanPathChars (route.replacement.toList ++ below) := by
  have dropped := Text.dropPrefix?_eq_some_iff.mpr parted
  simp [forwardedPath, forwardedChars, toList_ne_root notRoot, replaces, dropped]

/-- A stripped path is what lies below the prefix, with a slash in front. -/
theorem forwardedPath_of_strip (plain : route.replacement = "")
    (strips : route.stripPrefix = true) : (route.forwardedPath path).toList = rooted below := by
  have dropped := Text.dropPrefix?_eq_some_iff.mpr parted
  simp [forwardedPath, forwardedChars, toList_ne_root notRoot, plain, strips, dropped]

end Below

/-! ## The law of all routes -/

/-- What a route makes of a path that it covers. The root prefix comes first, then the
replacement, then stripping. -/
structure Rewrites (route : Route) (path result : String) : Prop where
  opened : ∃ rest, result.toList = '/' :: rest
  root : route.pathPrefix = "/" → result = path
  /-- No two slashes are left in a row, the segments of the replacement take the place of those of
  the prefix, and it makes no difference whether the route strips its prefix. -/
  replaced : route.pathPrefix ≠ "/" → route.replacement ≠ "" →
    ¬ ['/', '/'] <:+: result.toList ∧
      (∃ below, segments path.toList = segments route.pathPrefix.toList ++ below ∧
        segments result.toList = segments route.replacement.toList ++ below) ∧
      ∀ strips, { route with stripPrefix := strips }.forwardedPath path = result
  stripped : route.pathPrefix ≠ "/" → route.replacement = "" → route.stripPrefix = true →
    route.pathPrefix ++ result = path ∨ path = route.pathPrefix ∧ result = "/"
  kept : route.pathPrefix ≠ "/" → route.replacement = "" → route.stripPrefix = false →
    result = path

/-- A replacement acts on segments. -/
theorem segments_of_replacement (notRoot : route.pathPrefix ≠ "/") {path : String}
    (covered : route.covers path = true) (replaces : route.replacement ≠ "") :
    ∃ below, segments path.toList = segments route.pathPrefix.toList ++ below ∧
      segments (route.forwardedPath path).toList =
        segments route.replacement.toList ++ below := by
  obtain ⟨below, apart, parted⟩ := below_of_covers notRoot covered
  refine ⟨segments below, ?_, ?_⟩
  · rw [parted, segments_append_below _ apart]
  · rw [forwardedPath_of_replacement notRoot parted replaces, segments_cleanPathChars,
      segments_append_below _ apart]

/-- What is stripped is the prefix, and the path that is left has a slash of its own or is given
one. -/
theorem append_of_strip (notRoot : route.pathPrefix ≠ "/") {path : String}
    (covered : route.covers path = true) (plain : route.replacement = "")
    (strips : route.stripPrefix = true) :
    route.pathPrefix ++ route.forwardedPath path = path ∨
      path = route.pathPrefix ∧ route.forwardedPath path = "/" := by
  obtain ⟨below, apart, parted⟩ := below_of_covers notRoot covered
  have forwarded := forwardedPath_of_strip notRoot parted plain strips
  rcases apart with rfl | ⟨rest, rfl⟩
  · right
    rw [List.append_nil] at parted
    exact ⟨String.toList_inj.mp parted, String.toList_inj.mp forwarded⟩
  · left
    rw [← String.toList_inj, String.toList_append, forwarded, parted]
    rfl

theorem opened_of_covers {path : String} (opened : ∃ rest, path.toList = '/' :: rest)
    (covered : route.covers path = true) :
    ∃ rest, (route.forwardedPath path).toList = '/' :: rest := by
  by_cases root : route.pathPrefix = "/"
  · rw [forwardedPath_of_root root]
    exact opened
  · by_cases plain : route.replacement = ""
    · cases strips : route.stripPrefix with
      | true =>
          obtain ⟨below, -, parted⟩ := below_of_covers root covered
          rw [forwardedPath_of_strip root parted plain strips]
          exact rooted_eq_cons below
      | false =>
          rw [forwardedPath_of_plain root plain strips]
          exact opened
    · obtain ⟨below, -, parted⟩ := below_of_covers root covered
      rw [forwardedPath_of_replacement root parted plain]
      exact ⟨_, rfl⟩

/-- What a route sends on for a path that it covers starts with a slash. The root prefix keeps the
path; any other one is replaced segment by segment if the route has a replacement, is stripped as
text if it has none and strips prefixes, and is kept otherwise. -/
theorem rewrites_forwardedPath {path : String} (opened : ∃ rest, path.toList = '/' :: rest)
    (covered : route.covers path = true) : route.Rewrites path (route.forwardedPath path) where
  opened := opened_of_covers opened covered
  root root := forwardedPath_of_root root path
  replaced notRoot replaces := by
    obtain ⟨below, -, parted⟩ := below_of_covers notRoot covered
    have forwarded := forwardedPath_of_replacement notRoot parted replaces
    refine ⟨?_, segments_of_replacement notRoot covered replaces, fun strips => ?_⟩
    · rw [forwarded]
      exact slashes_apart_cleanPathChars _
    · have same := @forwardedPath_of_replacement { route with stripPrefix := strips } notRoot
        path below parted replaces
      exact String.toList_inj.mp (same.trans forwarded.symm)
  stripped notRoot plain strips := append_of_strip notRoot covered plain strips
  kept notRoot plain whole := forwardedPath_of_plain notRoot plain whole path

end Route

/-- The hotels have moved; the slashes around the replacement are of no use. -/
def movedDefinition : Definition where
  name := "hotels"
  pathPrefix := "/api/hotels/"
  target := "http://h"
  stripPrefix := true
  replacement := "//v2//rooms/"

theorem rewrites_movedDefinition :
    ∃ table shadowings route, Table.build [movedDefinition] 0 = .ok (table, shadowings) ∧
      route ∈ table.routes ∧ route.covers "/api/hotels//7/" = true ∧
      route.Rewrites "/api/hotels//7/" "/v2/rooms/7/" := by
  let url : Url := ⟨"http", some ⟨"", "h", none⟩, "/", none, none⟩
  have built : Table.build [movedDefinition] 0 =
      .ok (⟨[movedDefinition.route 0 url []], [movedDefinition.backend url]⟩, []) :=
    Table.build_of_toOption (by decide +kernel)
  have covered : (movedDefinition.route 0 url []).covers "/api/hotels//7/" = true := by
    decide +kernel
  have forwarded : (movedDefinition.route 0 url []).forwardedPath "/api/hotels//7/" =
      "/v2/rooms/7/" := by
    decide +kernel
  refine ⟨_, _, _, built, List.mem_cons_self, covered, ?_⟩
  rw [← forwarded]
  exact Route.rewrites_forwardedPath ⟨_, rfl⟩ covered

end ApiGateway.Routing
