import ApiGateway.Proofs.Engine.BodyReading
import ApiGateway.Proofs.Engine.Dispatch
import ApiGateway.Proofs.Engine.Execution
import ApiGateway.Proofs.Engine.Extension
import ApiGateway.Proofs.Http.Documents

/-!
# The first check that fails answers a request

A request may be wrong in several ways at once. `Check.Fails` looks at each check by
itself, and `answered_by_first_failing_check` says that the first one in the order of
`Check.rank` decides the answer, what the answer leaves behind, and that a request
without a failing check is forwarded.
-/

namespace ApiGateway.Engine

open BodyPiece (content duration)

/-- The checks of a request, in their order. -/
inductive Check where
  | mode
  | route
  | method
  | backend
  | credential
  | bodySize
  | bodyRead
  | bodyDeadline

namespace Check

def rank : Check → Nat
  | mode => 0
  | route => 1
  | method => 2
  | backend => 3
  | credential => 4
  | bodySize => 5
  | bodyRead => 6
  | bodyDeadline => 7

/-- The status of the answer to a request that fails a check. -/
def status : Check → Nat
  | mode => 404
  | route => 404
  | method => 405
  | backend => 503
  | credential => 401
  | bodySize => 413
  | bodyRead => 400
  | bodyDeadline => 408

/-- Answers count for a route from the availability of its backend on. -/
def isCounted (check : Check) : Bool := backend.rank ≤ check.rank

/-- The last three checks are made while the body arrives. -/
def isOfBody (check : Check) : Bool := bodySize.rank ≤ check.rank

/-- A request fails a check: the route that the answer counts for, and the error that it
carries. -/
inductive Fails (engine : Engine) (world : World) (head : Head) (pieces : List BodyPiece) :
    Check → Option Routing.Route → Http.ApiError → Prop where
  | mode (off : engine.mode ≠ .proxyAll) :
      Fails engine world head pieces .mode none (.notFound "proxy mode disabled (whitelist)")
  | route (unmatched : engine.table.match? head.uri.path = none) :
      Fails engine world head pieces .route none (.notFound "no upstream mapping")
  | method {route : Routing.Route} (matched : engine.table.match? head.uri.path = some route)
      (refused : route.allows head.method = false) :
      Fails engine world head pieces .method none ⟨.methodNotAllowed, "method not allowed"⟩
  | backend {route : Routing.Route} {reason : String}
      (matched : engine.table.match? head.uri.path = some route)
      (down : world.statuses.availability route.backendKey world.now = .error reason) :
      Fails engine world head pieces .backend (some route) (.serviceUnavailable reason)
  | credential {route : Routing.Route} {error : Http.ApiError}
      (matched : engine.table.match? head.uri.path = some route)
      (refused : engine.credential world.now head route = .error error) :
      Fails engine world head pieces .credential (some route) error
  | bodySize {route : Routing.Route} (matched : engine.table.match? head.uri.path = some route)
      (oversized : Oversized engine.maxBodyBytes route.timeout pieces) :
      Fails engine world head pieces .bodySize (some route)
        ⟨.payloadTooLarge,
          "request body exceeds " ++ toString engine.maxBodyBytes ++ " bytes"⟩
  | bodyRead {route : Routing.Route} {reason : String}
      (matched : engine.table.match? head.uri.path = some route)
      (broken : Broken route.timeout reason pieces) :
      Fails engine world head pieces .bodyRead (some route)
        ⟨.badRequest, "failed to read request body: " ++ reason⟩
  | bodyDeadline {route : Routing.Route}
      (matched : engine.table.match? head.uri.path = some route)
      (overdue : Overdue route.timeout pieces) :
      Fails engine world head pieces .bodyDeadline (some route)
        ⟨.requestTimeout, "request body not received within " ++ route.timeout.text⟩

/-- A request does not fail a check. -/
def Passes (engine : Engine) (world : World) (head : Head) (pieces : List BodyPiece)
    (check : Check) : Prop :=
  ∀ counted error, ¬ check.Fails engine world head pieces counted error

end Check

/-- A check is the first one that a request fails. -/
structure FirstFailing (engine : Engine) (world : World) (head : Head)
    (pieces : List BodyPiece) (check : Check) (counted : Option Routing.Route)
    (error : Http.ApiError) : Prop where
  fails : check.Fails engine world head pieces counted error
  earlier : ∀ other : Check, other.rank < check.rank → other.Passes engine world head pieces

/-- A request has been turned away: it has its answer, the answer is observed once if it counts
for a route, and nothing else has happened. -/
structure TurnedAway (ticket : Nat) (counted : Option Routing.Route) (error : Http.ApiError)
    (before after : World) : Prop where
  answers : after.answers =
    before.answers ++ [⟨ticket, counted.map (·.name), some (.ofError error)⟩]
  /-- The answer has the status of the error, and its body is a document that says the rest. -/
  tells : (Http.Response.ofError error).Tells error
  metrics : after.metrics = match counted with
    | none => before.metrics
    | some route => before.metrics.observe route.name error.status 0
  statuses : after.statuses = before.statuses
  sent : after.sent = before.sent
  network : after.network = before.network
  tasks : after.tasks = before.tasks
  now : after.now = before.now

/-- A request waits for the end of its body as a task. The task stays until it goes on, and it
goes on as described whatever else has happened before. -/
structure GoesOnAfterBody (engine : Engine) (world served : World) (task : Task)
    (goesOn : World → World → Prop) : Prop where
  waits : served = world.push task
  stays : ∀ {later : World} {move : Move}, task ∈ later.tasks →
    later.resumed? move ≠ some task → task ∈ (later.move engine move).tasks
  ends : ∀ {later : World} {index : Nat}, later.tasks[index]? = some task →
    later.isReady task = true → goesOn (later.without index) (later.move engine (.run index))

section Passing

variable {engine : Engine} {world : World} {head : Head} {pieces : List BodyPiece}
  {route : Routing.Route}

theorem Check.Passes.forwarding (passes : Check.mode.Passes engine world head pieces) :
    engine.mode = .proxyAll := by
  cases forwarding : engine.mode with
  | proxyAll => rfl
  | whitelist => exact absurd (.mode (by simp [forwarding])) (passes _ _)

theorem Check.Passes.matched (passes : Check.route.Passes engine world head pieces) :
    ∃ route, engine.table.match? head.uri.path = some route := by
  cases found : engine.table.match? head.uri.path with
  | some route => exact ⟨route, rfl⟩
  | none => exact absurd (.route found) (passes _ _)

variable (matched : engine.table.match? head.uri.path = some route)
include matched

theorem Check.Passes.binds (passesMode : Check.mode.Passes engine world head pieces)
    (passes : Check.method.Passes engine world head pieces) : engine.Binds head route where
  forwarding := passesMode.forwarding
  matched := matched
  allowed := by
    cases allowed : route.allows head.method with
    | true => rfl
    | false => exact absurd (.method matched allowed) (passes _ _)

theorem Check.Passes.available (passes : Check.backend.Passes engine world head pieces) :
    world.statuses.availability route.backendKey world.now = .ok () := by
  cases available : world.statuses.availability route.backendKey world.now with
  | ok => rfl
  | error reason => exact absurd (.backend matched available) (passes _ _)

theorem Check.Passes.accepted (passes : Check.credential.Passes engine world head pieces) :
    engine.credential world.now head route = .ok () := by
  cases accepted : engine.credential world.now head route with
  | ok => rfl
  | error error => exact absurd (.credential matched accepted) (passes _ _)

/-- A request that passes every check before the body is admitted. -/
theorem admitted_of_passes
    (passes : ∀ check : Check, check.rank < 5 → check.Passes engine world head pieces) :
    engine.dispatch world.statuses world.now head = .ok route := by
  have bound := Check.Passes.binds matched (passes .mode (by decide)) (passes .method (by decide))
  exact dispatch_eq_ok_iff.mpr
    ⟨bound, (passes .backend (by decide)).available matched,
      (passes .credential (by decide)).accepted matched⟩

omit matched in
/-- An admitted request passes every check before the body. -/
theorem passes_of_admitted (admitted : engine.dispatch world.statuses world.now head = .ok route)
    {check : Check} (early : check.rank < 5) : check.Passes engine world head pieces := by
  obtain ⟨bound, available, accepted⟩ := dispatch_eq_ok_iff.mp admitted
  have same {other : Routing.Route} (found : engine.table.match? head.uri.path = some other) :
      other = route := by
    rw [bound.matched] at found
    exact (Option.some.inj found).symm
  intro counted error fails
  cases fails with
  | mode off => exact off bound.forwarding
  | route unmatched => rw [bound.matched] at unmatched; cases unmatched
  | method matched refused =>
      rw [same matched, bound.allowed] at refused
      cases refused
  | backend matched down =>
      rw [same matched, available] at down
      cases down
  | credential matched refused =>
      rw [same matched, accepted] at refused
      cases refused
  | bodySize => exact absurd early (by decide)
  | bodyRead => exact absurd early (by decide)
  | bodyDeadline => exact absurd early (by decide)

/-- A request that fails a check of its body first is admitted. -/
theorem FirstFailing.admitted {check : Check} {counted : Option Routing.Route}
    {error : Http.ApiError} (first : FirstFailing engine world head pieces check counted error)
    (ofBody : check.isOfBody = true) :
    engine.dispatch world.statuses world.now head = .ok route := by
  have late : 5 ≤ check.rank := of_decide_eq_true ofBody
  have passes (other : Check) (early : other.rank < 5) : other.Passes engine world head pieces :=
    first.earlier other (Nat.lt_of_lt_of_le early late)
  exact admitted_of_passes matched passes

theorem Check.Passes.notOversized (passes : Check.bodySize.Passes engine world head pieces) :
    ¬ Oversized engine.maxBodyBytes route.timeout pieces :=
  fun oversized => passes _ _ (.bodySize matched oversized)

end Passing

namespace World

variable (engine : Engine)

theorem turnedAway_refuse (world : World) (ticket : Nat) (counted : Option Routing.Route)
    (error : Http.ApiError) :
    TurnedAway ticket counted error world (world.refuse ticket counted error) := by
  have told := Http.Response.tells_ofError error
  cases counted <;> exact ⟨rfl, told, rfl, rfl, rfl, rfl, rfl, rfl⟩

theorem turnedAway_rejectBody (world : World) (job : Job) (fault : BodyFault) :
    TurnedAway job.ticket (some job.route)
      (fault.error engine.maxBodyBytes job.route.timeout) world
      (world.rejectBody engine job fault) :=
  ⟨rfl, Http.Response.tells_ofError _, rfl, rfl, rfl, rfl, rfl, rfl⟩

variable {engine} {world : World} {ticket : Nat} {head : Head} {pieces : List BodyPiece}
  {job : Job} {result : Except BodyFault ByteArray} {wake : Instant}

theorem turnedAway_serve {refusal : Refusal}
    (refused : engine.dispatch world.statuses world.now head = .error refusal) :
    TurnedAway ticket refusal.countedRoute? refusal.error world
      (world.serve engine ticket head pieces) := by
  rw [serve_of_refused refused]
  exact turnedAway_refuse ..

/-- An admitted request goes on when its body has been read. -/
theorem goesOnAfterBody
    (served : world.serve engine ticket head pieces =
      world.push (.request job (.reading result) wake)) :
    GoesOnAfterBody engine world (world.serve engine ticket head pieces)
      (.request job (.reading result) wake)
      (fun before after => after = before.resumeRequest engine job (.reading result)) where
  waits := served
  stays waits other := mem_tasks_move engine _ waits other
  ends {later index} found ready := by
    simp only [World.move, runTask, found, ready, if_true]
    rfl

/-- A request whose body is not taken is turned away when that is known. -/
theorem turnedAway_afterBody {route : Routing.Route} {fault : BodyFault}
    (admitted : engine.dispatch world.statuses world.now head = .ok route)
    (read : (readBody engine.maxBodyBytes world.now (world.now + route.timeout) pieces).result =
      .error fault) :
    ∃ task, GoesOnAfterBody engine world (world.serve engine ticket head pieces) task
      (TurnedAway ticket (some route) (fault.error engine.maxBodyBytes route.timeout)) := by
  have served := serve_of_admitted admitted ticket pieces
  rw [read] at served
  refine ⟨_, served, (goesOnAfterBody served).stays, ?_⟩
  intro later index found ready
  rw [(goesOnAfterBody served).ends found ready, resumeRequest_eq_perform]
  exact turnedAway_rejectBody engine _ ⟨ticket, head, route, world.now + route.timeout⟩ fault

/-- A request whose body has been read is forwarded. -/
theorem forwarded_afterBody {body : ByteArray}
    (served : world.serve engine ticket head pieces =
      world.push (.request job (.reading (.ok body)) wake)) :
    GoesOnAfterBody engine world (world.serve engine ticket head pieces)
      (.request job (.reading (.ok body)) wake)
      (fun before after => after = before.forward engine job body) where
  waits := served
  stays := (goesOnAfterBody served).stays
  ends found ready := by rw [(goesOnAfterBody served).ends found ready, resumeRequest]

end World

/-- The first check that fails answers a request. In the order mode, route, method, backend,
credential, size of the body, reading it and its deadline, the first check that fails decides the
error; the status is that of the check. The answer is given at once, or when the body is given
up, and in both cases nothing is sent, no status changes and the answer is observed once if a
backend had been chosen. A request that fails no check is forwarded with its body. -/
theorem answered_by_first_failing_check (engine : Engine) (world : World) (ticket : Nat)
    (head : Head) (pieces : List BodyPiece) :
    (∀ {check : Check} {counted : Option Routing.Route} {error : Http.ApiError},
      FirstFailing engine world head pieces check counted error →
      error.status = check.status ∧ counted.isSome = check.isCounted ∧
        (check.isOfBody = false →
          TurnedAway ticket counted error world (world.serve engine ticket head pieces)) ∧
        (check.isOfBody = true →
          ∃ task, GoesOnAfterBody engine world (world.serve engine ticket head pieces) task
            (TurnedAway ticket counted error))) ∧
      ((∀ check : Check, check.Passes engine world head pieces) →
        ∃ job wake, job.ticket = ticket ∧ job.head = head ∧ engine.Binds head job.route ∧
          GoesOnAfterBody engine world (world.serve engine ticket head pieces)
            (.request job (.reading (.ok (content pieces))) wake)
            fun before after => after = before.forward engine job (content pieces)) := by
  constructor
  · intro check counted error first
    have earlier := first.earlier
    cases first.fails with
    | mode off => exact ⟨rfl, rfl, fun _ => World.turnedAway_serve (dispatch_of_mode off), nofun⟩
    | route unmatched =>
        have forwarding := (earlier .mode (by decide)).forwarding
        exact ⟨rfl, rfl,
          fun _ => World.turnedAway_serve (dispatch_of_no_route forwarding unmatched), nofun⟩
    | method matched refused =>
        have forwarding := (earlier .mode (by decide)).forwarding
        exact ⟨rfl, rfl,
          fun _ => World.turnedAway_serve (dispatch_of_method forwarding matched refused), nofun⟩
    | backend matched down =>
        have bound := Check.Passes.binds matched (earlier .mode (by decide))
          (earlier .method (by decide))
        have refused := dispatch_of_unavailable bound down
        exact ⟨rfl, rfl, fun _ => World.turnedAway_serve refused, nofun⟩
    | credential matched refused =>
        have bound := Check.Passes.binds matched (earlier .mode (by decide))
          (earlier .method (by decide))
        have available := (earlier .backend (by decide)).available matched
        have refusal := dispatch_of_credential bound available refused
        exact ⟨status_of_credential refused, rfl, fun _ => World.turnedAway_serve refusal, nofun⟩
    | bodySize matched oversized =>
        have admitted := first.admitted matched rfl
        have read := readBody_of_oversized world.now oversized
        exact ⟨rfl, rfl, nofun, fun _ => World.turnedAway_afterBody admitted read⟩
    | bodyRead matched broken =>
        have admitted := first.admitted matched rfl
        have notOversized := (earlier .bodySize (by decide)).notOversized matched
        have read := readBody_of_broken world.now broken notOversized
        exact ⟨rfl, rfl, nofun, fun _ => World.turnedAway_afterBody admitted read⟩
    | bodyDeadline matched overdue =>
        have admitted := first.admitted matched rfl
        have notOversized := (earlier .bodySize (by decide)).notOversized matched
        have read := congrArg BodyRead.result (readBody_of_overdue world.now overdue notOversized)
        exact ⟨rfl, rfl, nofun, fun _ => World.turnedAway_afterBody admitted read⟩
  · intro passes
    obtain ⟨route, matched⟩ := (passes .route).matched
    have bound := Check.Passes.binds matched (passes .mode) (passes .method)
    have admitted := admitted_of_passes matched fun check _ => passes check
    have notOversized := (passes .bodySize).notOversized matched
    have arrives : Arrives route.timeout pieces := .of_neither
      (fun reason broken => passes .bodyRead _ _ (.bodyRead matched broken))
      (fun overdue => passes .bodyDeadline _ _ (.bodyDeadline matched overdue))
    have served := World.serve_of_admitted admitted ticket pieces
    rw [readBody_of_arrives world.now arrives notOversized] at served
    exact ⟨_, _, rfl, rfl, bound, World.forwarded_afterBody served⟩

/-- A body of too many bytes that breaks off after them. -/
def brokenLargeBody : List BodyPiece :=
  [.data ⟨Array.replicate 1025 0⟩, .failure "connection reset"]

/-- The size of a body decides although reading it fails as well. -/
theorem payload_too_large_before_read_failure :
    Check.bodyRead.Fails (ofRoute rootRoute) (.initial (ofRoute rootRoute) ⟨[]⟩ 0) (.get "/a")
        brokenLargeBody (some rootRoute)
        ⟨.badRequest, "failed to read request body: connection reset"⟩ ∧
      ∃ task, GoesOnAfterBody (ofRoute rootRoute) (.initial (ofRoute rootRoute) ⟨[]⟩ 0)
        (World.serve (ofRoute rootRoute) 7 (.get "/a") brokenLargeBody
          (.initial (ofRoute rootRoute) ⟨[]⟩ 0)) task
        (TurnedAway 7 (some rootRoute)
          ⟨.payloadTooLarge, "request body exceeds 1024 bytes"⟩) := by
  have matched : (ofRoute rootRoute).table.match? (Head.get "/a").uri.path = some rootRoute := by
    decide
  have unknown : (World.initial (ofRoute rootRoute) ⟨[]⟩ 0).statuses.get? rootRoute.backendKey =
      some (.new 0) := by
    decide
  have admitted : (ofRoute rootRoute).dispatch
      (World.initial (ofRoute rootRoute) ⟨[]⟩ 0).statuses 0 (.get "/a") = .ok rootRoute := by
    refine dispatch_eq_ok_iff.mpr ⟨⟨rfl, matched, by decide⟩, ?_, rfl⟩
    simp only [Backend.StatusBook.availability, unknown]
    rfl
  have arrives : Arrives rootRoute.timeout [.data ⟨Array.replicate 1025 0⟩] :=
    ⟨by simp [BodyPiece.flows], Nat.zero_le _⟩
  have oversized : Oversized 1024 rootRoute.timeout brokenLargeBody :=
    ⟨_, [.failure "connection reset"], rfl, arrives, by decide +kernel⟩
  have first : FirstFailing (ofRoute rootRoute) (.initial (ofRoute rootRoute) ⟨[]⟩ 0)
      (.get "/a") brokenLargeBody .bodySize (some rootRoute)
      ⟨.payloadTooLarge, "request body exceeds 1024 bytes"⟩ :=
    ⟨.bodySize matched oversized, fun other before => passes_of_admitted admitted before⟩
  exact ⟨.bodyRead matched ⟨_, [], rfl, arrives⟩,
    ((answered_by_first_failing_check _ _ 7 _ _).1 first).2.2.2 rfl⟩

end ApiGateway.Engine
