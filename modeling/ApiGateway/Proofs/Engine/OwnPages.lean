import ApiGateway.Engine.Schedule
import ApiGateway.Proofs.Engine.GivenAnswers
import ApiGateway.Proofs.Engine.StatusKeys
import ApiGateway.Proofs.Http.Documents
import ApiGateway.Proofs.Routing.Backends

/-!
# The gateway's own pages are local

A page is answered at once from what the gateway has noted, whatever its mode and its
routes are, and nothing but that answer tells later that somebody asked for it. The
health page shows each backend once, in the order of the canonical locators, and it
fails if one of them is unhealthy. Every other request goes to the proxy.
-/

namespace ApiGateway.Engine

open Http (Response)

namespace Page

/-- The path that a page is found at. -/
def path : Page → String
  | metrics => "/metrics"
  | routes => "/debug/routes"
  | health => "/healthz"

/-- A page is asked for with `GET` at exactly its path. -/
theorem ofRequest?_eq_some_iff {method requested : String} {page : Page} :
    ofRequest? method requested = some page ↔ method = "GET" ∧ requested = page.path := by
  simp only [ofRequest?, path]
  constructor
  · intro asked
    split at asked
    · cases asked
    · next isGet =>
        refine ⟨not_not.mp isGet, ?_⟩
        split at asked
        · cases asked
          assumption
        · split at asked
          · cases asked
            assumption
          · split at asked
            · cases asked
              assumption
            · cases asked
  · rintro ⟨rfl, rfl⟩
    cases page <;> decide

end Page

namespace World

variable {engine : Engine} {world : World}

/-! ## Asking for a page -/

/-- The answer to somebody who asks for a page now. -/
def pageAnswer (engine : Engine) (world : World) (ticket : Nat) (page : Page) : Answer :=
  ⟨ticket, none, some (engine.pageResponse world.statuses world.metrics page)⟩

/-- A page is answered at once, and nothing else changes. -/
theorem handle_of_page {ticket : Nat} {head : Head} {page : Page}
    (asked : Page.ofRequest? head.method head.uri.path = some page) (pieces : List BodyPiece) :
    world.handle engine ticket head pieces =
      { world with answers := world.answers ++ [world.pageAnswer engine ticket page] } := by
  simp only [handle, asked]
  rfl

theorem handle_of_no_page {head : Head}
    (other : Page.ofRequest? head.method head.uri.path = none) (ticket : Nat)
    (pieces : List BodyPiece) :
    world.handle engine ticket head pieces = world.serve engine ticket head pieces := by
  simp only [handle, other]

/-- What happens after an answer happens as it would without it. -/
theorem through_of_answer (world : World) (answer : Answer) (later : List Happening) :
    ∃ given, (world.through engine later).answers = world.answers ++ given ∧
      ({ world with answers := world.answers ++ [answer] } : World).through engine later =
        { world.through engine later with answers := world.answers ++ answer :: given } := by
  -- The execution of the world without any answers, which both come from.
  let silent : World := { world with answers := [] }
  have given (answers : List Answer) :
      ({ world with answers } : World) = silent.behind answers := by
    simp [behind, silent]
  have unanswered : world.through engine later =
      (silent.through engine later).behind world.answers := by
    rw [← through_behind, ← given]
  refine ⟨(silent.through engine later).answers, by rw [unanswered]; rfl, ?_⟩
  rw [given, through_behind, unanswered]
  simp [behind]

/-- Nobody else is answered because of an answer that is put in. -/
theorem answered?_insert {before after : List Answer} {answer : Answer} {ticket : Nat}
    (other : answer.ticket ≠ ticket) (world : World) :
    ({ world with answers := before ++ answer :: after } : World).answered? ticket =
      ({ world with answers := before ++ after } : World).answered? ticket := by
  simp [answered?, List.find?_append, other]

/-! ## The health page -/

/-- One item of the health page. -/
def healthItem (listed : String × Backend.Status) : Json :=
  .object [("upstream", .string listed.1), ("status", listed.2.toJson)]

/-- Flags, counts and texts are all that a status shows. -/
theorem readable_status (status : Backend.Status) : status.toJson.Readable := by
  have count (number : UInt32) : (Json.ofNat number.toNat).Readable :=
    .ofNat (Nat.lt_trans number.toNat_lt (by decide))
  refine .object ?_
  simp only [List.forall_mem_append, List.forall_mem_cons]
  refine ⟨⟨⟨⟨⟨⟨.bool _, .ofOption (fun _ => .string _) _, nofun⟩, ?lastError⟩, ?openUntil⟩,
    count _, count _, .string _, nofun⟩, ?unhealthySince⟩, count _, nofun⟩
  case lastError =>
    split
    · exact nofun
    · exact List.forall_mem_singleton.mpr (.string status.lastError)
  case openUntil =>
    split
    · exact List.forall_mem_singleton.mpr (.string _)
    · exact nofun
  case unhealthySince =>
    split
    · exact List.forall_mem_singleton.mpr (.string _)
    · exact nofun

theorem readable_listedHealth (listed : List (String × Backend.Status)) :
    (Json.array (listed.map healthItem)).Readable := by
  refine .array fun item member => ?_
  obtain ⟨entry, -, rfl⟩ := List.mem_map.mp member
  refine .object ?_
  simp only [List.forall_mem_cons]
  exact ⟨.string _, readable_status _, nofun⟩

/-- The backends with their present statuses, as the health page lists them. -/
def listedHealth (engine : Engine) (world : World) : List (String × Backend.Status) :=
  engine.table.backends.filterMap fun backend =>
    (world.statuses.get? backend.key).map (backend.key, ·)

theorem mem_listedHealth_iff {key : String} {status : Backend.Status} :
    (key, status) ∈ world.listedHealth engine ↔
      key ∈ engine.table.backends.map Backend.key ∧ world.statuses.get? key = some status := by
  simp only [listedHealth, List.mem_filterMap, List.mem_map, Option.map_eq_some_iff,
    Prod.mk.injEq]
  constructor
  · rintro ⟨backend, member, noted, found, rfl, rfl⟩
    exact ⟨⟨backend, member, rfl⟩, found⟩
  · rintro ⟨⟨backend, member, rfl⟩, found⟩
    exact ⟨backend, member, status, found, rfl, rfl⟩

section Noted

variable (noted : world.statuses.keys = engine.table.backends.map Backend.key)
include noted

/-- Every backend has a status. -/
theorem exists_status_of_mem_backends {backend : Backend}
    (member : backend ∈ engine.table.backends) :
    ∃ status, world.statuses.get? backend.key = some status :=
  Backend.StatusBook.exists_get?_of_mem_keys (noted ▸ List.mem_map_of_mem member)

/-- Every backend is listed. -/
theorem keys_listedHealth :
    (world.listedHealth engine).map (·.1) = engine.table.backends.map Backend.key := by
  rw [listedHealth, List.map_filterMap, ← List.filterMap_eq_map]
  refine List.filterMap_congr fun backend member => ?_
  obtain ⟨status, found⟩ := exists_status_of_mem_backends noted member
  simp [found]

theorem healthJson_eq : engine.healthJson world.statuses =
    .array ((world.listedHealth engine).map healthItem) := by
  rw [healthJson, listedHealth, List.map_filterMap, ← List.filterMap_eq_map]
  congr 1
  refine List.filterMap_congr fun backend member => ?_
  obtain ⟨status, found⟩ := exists_status_of_mem_backends noted member
  simp only [Function.comp_apply, statusJson, found, Option.map_some, healthItem]
  rfl

/-- All backends are healthy unless a status says otherwise. -/
theorem allHealthy_eq_false_iff : engine.allHealthy world.statuses = false ↔
    ∃ key status, world.statuses.get? key = some status ∧ status.healthy = false := by
  rw [allHealthy, List.all_eq_false]
  constructor
  · rintro ⟨backend, member, unhealthy⟩
    obtain ⟨status, found⟩ := exists_status_of_mem_backends noted member
    exact ⟨backend.key, status, found, by simpa [found] using unhealthy⟩
  · rintro ⟨key, status, found, unhealthy⟩
    have known : key ∈ world.statuses.keys := by
      obtain ⟨entry, member, same⟩ := List.lookup_isSome_iff.mp (Option.isSome_of_eq_some found)
      exact List.mem_map.mpr ⟨entry, member, (beq_iff_eq.mp same).symm⟩
    rw [noted] at known
    obtain ⟨backend, member, rfl⟩ := List.mem_map.mp known
    exact ⟨backend, member, by simp [found, unhealthy]⟩

end Noted

end World

/-! ## Locality -/

/-- A request asks for a page. -/
def Head.AsksFor (head : Head) (page : Page) : Prop :=
  head.method = "GET" ∧ head.uri.path = page.path

/-- What becomes of the requests for pages, and of all others. -/
structure AnswersPages (engine : Engine) (world : World) : Prop where
  /-- A page is answered at once from the present statuses and metrics. Nothing but the answer is
  new: nothing is sent, nothing waits, and every status and metric is as before. -/
  atOnce : ∀ {ticket : Nat} {head : Head} {page : Page}, head.AsksFor page → ∀ pieces,
    world.handle engine ticket head pieces =
      { world with answers := world.answers ++ [world.pageAnswer engine ticket page] }
  /-- Whatever happens later happens as if nobody had asked: the worlds differ by that one answer,
  and all others are answered alike. -/
  unnoticed : ∀ {ticket : Nat} {head : Head} {page : Page}, head.AsksFor page →
    ∀ pieces later, ∃ given,
      (world.through engine later).answers = world.answers ++ given ∧
      (world.handle engine ticket head pieces).through engine later =
        { world.through engine later with
          answers := world.answers ++ world.pageAnswer engine ticket page :: given } ∧
      ∀ other, other ≠ ticket →
        ((world.handle engine ticket head pieces).through engine later).answered? other =
          (world.through engine later).answered? other
  /-- The health page fails exactly if a backend is unhealthy, and it succeeds otherwise. -/
  failing : (engine.pageResponse world.statuses world.metrics .health).status = 503 ↔
    ∃ key status, world.statuses.get? key = some status ∧ status.healthy = false
  succeeding : (engine.pageResponse world.statuses world.metrics .health).status = 200 ↔
    ∀ key status, world.statuses.get? key = some status → status.healthy = true
  /-- The health page lists each canonical locator of a route once, in their order, with its
  present status; a client reads this list from the bytes. -/
  listing : ∃ listed : List (String × Backend.Status),
    (engine.pageResponse world.statuses world.metrics .health).body =
      Http.bodyOfString (Json.array (listed.map World.healthItem)).compact ∧
    (engine.pageResponse world.statuses world.metrics .health).document? =
      some (.array (listed.map World.healthItem)) ∧
    (listed.map (·.1)).Pairwise (· < ·) ∧
    (∀ text, text ∈ listed.map (·.1) ↔ ∃ route ∈ engine.table.routes, route.target.text = text) ∧
    ∀ entry ∈ listed, world.statuses.get? entry.1 = some entry.2
  /-- Whoever asks for no page is answered by the proxy. -/
  others : ∀ {head : Head}, (∀ page, ¬ head.AsksFor page) → ∀ ticket pieces,
    world.handle engine ticket head pieces = world.serve engine ticket head pieces

/-- In every state that an engine can come to its own pages are local: no mode and no route, not
even one for the very same path, has a part in them. -/
theorem answersPages_of_reached {definitions : List Routing.Definition} {defaultTimeout : Duration}
    {engine : Engine} {shadowings : List Routing.Shadowing} {network : Network} {start : Instant}
    {world : World}
    (built : Routing.Table.build definitions defaultTimeout = .ok (engine.table, shadowings))
    (reached : Steps engine (.initial engine network start) world) :
    AnswersPages engine world := by
  have noted : world.statuses.keys = engine.table.backends.map Backend.key :=
    reached.keys.trans (keys_initial ..)
  have status : (engine.pageResponse world.statuses world.metrics .health).status =
      if engine.allHealthy world.statuses then 200 else 503 := rfl
  have unhealthy := World.allHealthy_eq_false_iff noted
  refine ⟨?_, ?_, ?_, ?_, ?_, ?_⟩
  · intro ticket head page asks pieces
    exact World.handle_of_page (Page.ofRequest?_eq_some_iff.mpr asks) pieces
  · intro ticket head page asks pieces later
    rw [World.handle_of_page (Page.ofRequest?_eq_some_iff.mpr asks) pieces]
    obtain ⟨given, without, answered⟩ :=
      world.through_of_answer (world.pageAnswer engine ticket page) later
    refine ⟨given, without, answered, fun other isOther => ?_⟩
    rw [answered, World.answered?_insert (Ne.symm isOther), ← without]
  · rw [status, ← unhealthy]
    cases engine.allHealthy world.statuses <;> decide
  · have healthy : engine.allHealthy world.statuses = true ↔
        ∀ key status, world.statuses.get? key = some status → status.healthy = true := by
      rw [← Bool.not_eq_false, unhealthy]
      simp
    rw [status, ← healthy]
    cases engine.allHealthy world.statuses <;> decide
  · refine ⟨world.listedHealth engine, ?_, ?_, ?_, fun text => ?_, ?_⟩
    · rw [pageResponse, World.healthJson_eq noted]
      rfl
    · rw [pageResponse, World.healthJson_eq noted]
      exact Response.document?_json (World.readable_listedHealth _) _
    · rw [World.keys_listedHealth noted]
      exact Routing.Table.ascending_keys_build built
    · rw [World.keys_listedHealth noted]
      exact Routing.Table.mem_keys_build_iff built
    · rintro ⟨key, status⟩ member
      exact (World.mem_listedHealth_iff.mp member).2
  · intro head asksNone ticket pieces
    refine World.handle_of_no_page ?_ ticket pieces
    cases asked : Page.ofRequest? head.method head.uri.path with
    | none => rfl
    | some page => exact absurd (Page.ofRequest?_eq_some_iff.mp asked) (asksNone page)

/-- The gateway in front of one route, after its backend was reported to be down. -/
def World.reportedDown : World :=
  (World.initial (ofRoute rootRoute) .empty 0).after (ofRoute rootRoute)
    (.report "http://h/" (.failed (.backend "down")))

/-- The route covers every path, and still the health page is the gateway's own; it fails for the
one backend. -/
theorem answersPages_reportedDown :
    Routing.Table.build [{ name := "all", pathPrefix := "/", target := "http://h" }]
        (.ofSeconds 10) = .ok ((ofRoute rootRoute).table, []) ∧
      (World.reportedDown.handle (ofRoute rootRoute) 1 (.get "/healthz") []).sent = [] ∧
      ((ofRoute rootRoute).pageResponse World.reportedDown.statuses World.reportedDown.metrics
        .health).status = 503 := by
  have built : Routing.Table.build [{ name := "all", pathPrefix := "/", target := "http://h" }]
      (.ofSeconds 10) = .ok ((ofRoute rootRoute).table, []) :=
    Routing.Table.build_of_draft (by decide +kernel) (by decide +kernel)
  have reached : Steps (ofRoute rootRoute) (.initial (ofRoute rootRoute) .empty 0)
      World.reportedDown := Steps.refl.step (.report ..)
  have pages := answersPages_of_reached built reached
  have asks : (Head.get "/healthz").AsksFor .health := ⟨rfl, rfl⟩
  refine ⟨built, ?_, pages.failing.mpr ⟨"http://h/", _, rfl, rfl⟩⟩
  rw [pages.atOnce asks []]
  rfl

end ApiGateway.Engine
