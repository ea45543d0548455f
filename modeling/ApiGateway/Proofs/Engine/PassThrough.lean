import ApiGateway.Proofs.Engine.Deadline
import ApiGateway.Proofs.Proxy.Headers

/-!
# The gateway is transparent

What a backend gets of a request is its method and its whole body, at every attempt; what
the client gets of a response is all of it but the headers of one connection. Every
request under way comes from its arrival (`comesFrom_of_reached`), which settles the way
out. On the way back a response in time ends the attempts, whatever its status: the
request only waits to hand it on (`received_or_waits`). A `connection` value is a list of
names as long as all of it is visible; from any other one nothing is taken.
-/

namespace ApiGateway

/-! ## Responses -/

/-- A client receives a response of a backend: its status, its body, and its headers but those of
one connection and those that a visible `connection` value of it names. -/
structure Proxy.Relays (received response : Http.Response) : Prop where
  status : received.status = response.status
  body : received.body = response.body
  dropped : ∀ {name}, name ≠ "" →
    (name ∈ hopByHopNames ∨ ∃ value ∈ response.headers.values "connection",
      value.all Http.HeaderValue.isVisible = true ∧ Names value name) →
    received.headers.values name = []
  kept : ∀ {name}, name ≠ "" → name ∉ hopByHopNames →
    (∀ value ∈ response.headers.values "connection",
      value.all Http.HeaderValue.isVisible = true → ¬ Names value name) →
    received.headers.values name = response.headers.values name

namespace Proxy

theorem relays_inboundResponse (response : Http.Response) :
    Relays (inboundResponse response) response where
  status := rfl
  body := rfl
  dropped named drops := values_stripHopByHop_of_dropped <| drops.imp_right fun lists =>
    (mem_connectionListed_iff named).mpr (lists_iff.mpr lists)
  kept named endToEnd unnamed := by
    rw [inboundResponse, values_stripHopByHop endToEnd]
    refine if_neg fun listed => ?_
    obtain ⟨value, member, visible, names⟩ :=
      lists_iff.mp ((mem_connectionListed_iff named).mp (List.contains_iff_mem.mp listed))
    exact unnamed value member visible names

end Proxy

namespace Network

variable {network : Network} {purpose : Purpose} {request : Http.Request} {sent : Sent}

/-- What is handed over without a connection is the request. -/
theorem sent_of_deliverDirect (sends : (network.deliverDirect purpose request).sent = some sent) :
    sent.request = request := by
  simp only [deliverDirect] at sends
  split at sends <;> cases sends <;> rfl

/-- A connection adds a header at most. -/
theorem sent_of_deliverConnection
    (sends : (network.deliverConnection purpose request).sent = some sent) :
    sent.request.method = request.method ∧ sent.request.body = request.body := by
  simp only [deliverConnection] at sends
  split at sends
  · cases sends
  · split at sends
    · cases sends
    · cases sends
    · split at sends <;> cases sends <;> exact ⟨rfl, rfl⟩

/-- On its way to the backend a request keeps its method and its body. -/
theorem sent_of_deliverWithin {medium : Medium} {limit : Duration}
    (sends : (network.deliverWithin medium purpose request limit).sent = some sent) :
    sent.request.method = request.method ∧ sent.request.body = request.body := by
  have delivered : (network.deliver medium purpose request).sent = some sent := by
    simp only [deliverWithin] at sends
    split at sends
    · exact sends
    · exact sends
    · split at sends
      · cases sends
      · exact sends
  cases medium with
  | direct =>
      rw [sent_of_deliverDirect delivered]
      exact ⟨rfl, rfl⟩
  | connection => exact sent_of_deliverConnection delivered

end Network

namespace Engine

open Http (Response)
open BodyPiece (content)

/-! ## Requests under way come from their arrivals -/

/-- The exchange of a request is made of its head and its whole body. -/
def Exchange.BuiltFrom (engine : Engine) (arrival : Arrival) (route : Routing.Route)
    (exchange : Exchange) : Prop :=
  ∃ body, (arrival.read engine route).result = .ok body ∧
    (arrival.job route).outbound engine body = .ok exchange.outbound

/-- What a phase holds comes from the arrival of the request. -/
structure Phase.ComesFrom (engine : Engine) (arrival : Arrival) (route : Routing.Route)
    (phase : Phase) : Prop where
  reading : ∀ result, phase = .reading result → (arrival.read engine route).result = result
  exchange : ∀ exchange, phase.exchange? = some exchange → exchange.BuiltFrom engine arrival route

/-- A task is no request, or one that comes from one of some arrivals. -/
def Task.ComesFrom (engine : Engine) (arrivals : List Arrival) (task : Task) : Prop :=
  ∀ job phase wake, task = .request job phase wake → ∃ arrival ∈ arrivals, ∃ route,
    engine.dispatch arrival.met.statuses arrival.met.now arrival.head = .ok route ∧
      job = arrival.job route ∧ phase.ComesFrom engine arrival route

section Tracing

variable {engine : Engine} {arrival : Arrival} {route : Routing.Route}

theorem builtFrom_of_action {now : Instant} {phase : Phase} {exchange : Exchange}
    (comes : phase.ComesFrom engine arrival route)
    (acts : ((arrival.job route).action engine now phase).exchange? = some exchange) :
    exchange.BuiltFrom engine arrival route := by
  cases phase with
  | reading result =>
      cases result with
      | error fault => cases acts
      | ok body =>
          simp only [Job.action] at acts
          split at acts
          · cases acts
          · next outbound built =>
              cases acts
              exact ⟨body, comes.reading _ rfl, built⟩
  | pausing sent =>
      cases acts
      exact comes.exchange _ rfl
  | awaiting sent outcome =>
      simp only [Job.action] at acts
      split at acts
      · cases acts
      · cases acts
        exact comes.exchange sent rfl
  | overdue sent => cases acts

/-- The body of a request that was read is all that arrived. -/
theorem content_of_read {body : ByteArray}
    (admitted : engine.dispatch arrival.met.statuses arrival.met.now arrival.head = .ok route)
    (read : (arrival.read engine route).result = .ok body) : body = content arrival.pieces := by
  have whole : arrival.completes engine = true := by
    rw [Arrival.read] at read
    simp only [Arrival.completes, admitted, read]
    rfl
  obtain ⟨same, admitted', arrives, fits⟩ := completes_iff.mp whole
  rw [admitted] at admitted'
  cases admitted'
  rw [Arrival.read, readBody_of_arrives _ arrives fits] at read
  cases read
  rfl

theorem Exchange.BuiltFrom.outbound {exchange : Exchange}
    (admitted : engine.dispatch arrival.met.statuses arrival.met.now arrival.head = .ok route)
    (built : exchange.BuiltFrom engine arrival route) :
    exchange.outbound.method = arrival.head.method ∧
      exchange.outbound.body = content arrival.pieces := by
  obtain ⟨body, read, outbound⟩ := built
  obtain ⟨uri, -, same⟩ := Job.outbound_eq_ok_iff.mp outbound
  rw [same]
  exact ⟨rfl, content_of_read admitted read⟩

end Tracing

section Executions

variable {engine : Engine} {network : Network} {start : Instant}

theorem Task.ComesFrom.mono {arrivals more : List Arrival} {task : Task}
    (comes : task.ComesFrom engine arrivals) (kept : arrivals ⊆ more) :
    task.ComesFrom engine more := by
  intro job phase wake asRequest
  obtain ⟨arrival, arrived, known⟩ := comes job phase wake asRequest
  exact ⟨arrival, kept arrived, known⟩

/-- A task that a move adds comes from an arrival if the tasks before it do. -/
theorem Spawns.comesFrom {before : List Happening} {world : World} {move : Move} {task : Task}
    (reached : (World.initial engine network start).through engine before = world)
    (known : ∀ task ∈ world.tasks, task.ComesFrom engine
      ((World.initial engine network start).arrivals engine before))
    (spawned : Spawns engine world move task) :
    task.ComesFrom engine
      ((World.initial engine network start).arrivals engine (before ++ [.move move])) := by
  cases spawned with
  | background own =>
      rintro job phase wake rfl
      exact own.elim
  | @arrival ticket head pieces _ served admits =>
      obtain ⟨route, admitted, rfl⟩ := admits
      intro job phase wake same
      cases same
      have arrived := World.mem_arrivals_of_served reached served
      refine ⟨_, arrived, route, admitted, rfl, ?_, nofun⟩
      rintro result same
      cases same
      rfl
  | @resumption resumed _ going spawns =>
      obtain ⟨index, rfl, found, -⟩ := World.move_eq_resume engine going
      cases resumed with
      | request job phase wake =>
          obtain ⟨arrival, arrived, route, admitted, rfl, comes⟩ :=
            known _ (List.mem_of_getElem? found) job phase wake rfl
          rcases spawns with own | ⟨exchange, acts, next, later, rfl, holds⟩
          · rintro job phase wake rfl
            exact own.elim
          · intro job phase wake same
            cases same
            refine ⟨arrival, World.arrivals_subset_append _ _ _ _ arrived, route, admitted, rfl,
              ?_, ?_⟩
            · rintro result rfl
              cases holds
            · intro other same
              rw [holds] at same
              cases same
              exact builtFrom_of_action comes acts
      | _ =>
          rintro job phase wake rfl
          exact spawns.elim

/-- In every execution the requests under way come from the arrivals. -/
theorem comesFrom_of_reached {happenings : List Happening} {world : World}
    (reached : (World.initial engine network start).through engine happenings = world) :
    ∀ task ∈ world.tasks, task.ComesFrom engine
      ((World.initial engine network start).arrivals engine happenings) := by
  induction happenings using List.reverseRecOn generalizing world with
  | nil =>
      intro task member
      rw [← reached] at member
      cases member
  | append_singleton before happening inductionHypothesis =>
      have known := inductionHypothesis rfl
      rw [World.through_concat] at reached
      intro task member
      have stays (waits : task ∈ ((World.initial engine network start).through engine
          before).tasks) : task.ComesFrom engine
            ((World.initial engine network start).arrivals engine (before ++ [happening])) :=
        (known task waits).mono (World.arrivals_subset_append ..)
      rw [← reached] at member
      cases happening with
      | move move =>
          rcases World.mem_tasks_of_move engine _ member with waits | spawned
          · exact stays waits
          · exact spawned.comesFrom rfl known
      | delay instant =>
          simp only [World.after] at member
          split at member <;> exact stays member
      | report key finding => exact stays member

/-! ## Responses end the attempts -/

/-- A request waits until it goes on. If nobody is passed over, the clock does not pass the instant
that it waits for. -/
theorem waits_or_resumed {world : World} {job : Job} {phase : Phase} {wake : Instant}
    (waits : .request job phase wake ∈ world.tasks) (notOver : world.now ≤ wake)
    (happenings : List Happening) :
    .request job phase wake ∈ (world.through engine happenings).tasks ∧
        (Punctual happenings → (world.through engine happenings).now ≤ wake) ∨
      ∃ moment ∈ world.moments engine happenings, ∃ move, moment.happening = .move move ∧
        moment.world.resumed? move = some (.request job phase wake) := by
  induction happenings using List.reverseRecOn with
  | nil => exact .inl ⟨waits, fun _ => notOver⟩
  | append_singleton before happening inductionHypothesis =>
      rw [World.through_concat, World.moments_concat]
      rcases inductionHypothesis with ⟨still, onTime⟩ | ⟨moment, member, resumed⟩
      · cases happening with
        | move move =>
            by_cases going : (world.through engine before).resumed? move =
                some (.request job phase wake)
            · exact .inr ⟨_, List.mem_append_right _ List.mem_cons_self, move, rfl, going⟩
            · refine .inl ⟨World.mem_tasks_move engine _ still going, fun punctual => ?_⟩
              exact World.now_move_le_wake engine still (onTime fun instant earlier =>
                punctual instant (List.mem_append_left _ earlier)) move
        | delay instant =>
            refine .inl ⟨?_, fun punctual =>
              absurd (List.mem_append_right _ List.mem_cons_self) (punctual instant)⟩
            simp only [World.after]
            split <;> exact still
        | report key finding =>
            exact .inl ⟨still, fun punctual => onTime fun instant earlier =>
              punctual instant (List.mem_append_left _ earlier)⟩
      · exact .inr ⟨moment, List.mem_append_left _ member, resumed⟩

/-- An attempt whose outcome comes in time waits for it. -/
theorem awaits_of_attempted {world : World} {move : Move} {job : Job} {exchange : Exchange}
    (attempts : world.attempted? engine move = some (job, exchange)) {delay : Duration}
    {outcome : Except GatewayError Response}
    (inTime : (world.delivery engine job exchange).outcome = some (delay, outcome)) :
    .request job (.awaiting exchange outcome) (world.now + delay) ∈
      (world.move engine move).tasks := by
  obtain ⟨index, -, attempted⟩ := World.move_eq_attempt engine attempts
  have sameDelivery : (world.without index).delivery engine job exchange =
      world.delivery engine job exchange := rfl
  rw [← sameDelivery, World.delivery] at inTime
  rw [attempted]
  simp only [World.attempt, inTime]
  exact List.mem_append_right _ List.mem_cons_self

theorem action_awaiting_ok (now : Instant) (job : Job) (exchange : Exchange) (response : Response) :
    job.action engine now (.awaiting exchange (.ok response)) =
      .finish exchange.startedAt (.ok response) := rfl

/-- A request that goes on with a response hands it on. -/
theorem discharged_of_resumed {moment : Moment} {move : Move} (made : moment.happening = .move move)
    {job : Job} {exchange : Exchange} {response : Response} {wake : Instant}
    (going : moment.world.resumed? move =
      some (.request job (.awaiting exchange (.ok response)) wake)) :
    ∃ discharge ∈ moment.discharged engine, discharge.answer =
      ⟨job.ticket, some job.route.name, some (Proxy.inboundResponse response)⟩ := by
  obtain ⟨index, rfl, -⟩ := World.move_eq_resume engine going
  simp only [Moment.discharged, made, Happening.move?, Option.toList_some, List.flatMap_cons,
    List.flatMap_nil, List.append_nil, World.discharged, going, Task.discharged,
    action_awaiting_ok, Action.discharged]
  exact ⟨_, List.mem_cons_self, rfl⟩

section Reached

variable {happenings : List Happening} {world : World}
  (reached : (World.initial engine network start).through engine happenings = world)
  (distinct : (tickets happenings).Nodup)
include reached distinct

/-- Two requests under way with one ticket are one. -/
theorem request_unique {job other : Job} {phase otherPhase : Phase} {wake otherWake : Instant}
    (known : .request job phase wake ∈ world.tasks)
    (alsoKnown : .request other otherPhase otherWake ∈ world.tasks)
    (same : other.ticket = job.ticket) :
    Task.request other otherPhase otherWake = .request job phase wake := by
  obtain ⟨index, found⟩ := List.getElem?_of_mem known
  obtain ⟨position, alsoFound⟩ := List.getElem?_of_mem alsoKnown
  by_cases here : position = index
  · rw [here, found] at alsoFound
    exact (Option.some.inj alsoFound).symm
  · have kept : .request other otherPhase otherWake ∈ (world.without index).tasks :=
      List.mem_eraseIdx_iff_getElem?.mpr ⟨position, here, alsoFound⟩
    exact absurd same (ticket_ne_of_without reached distinct found kept)

/-- Who is under way has no answer. -/
theorem answered?_of_underWay {job : Job} {phase : Phase} {wake : Instant}
    (known : .request job phase wake ∈ world.tasks) : world.answered? job.ticket = none := by
  have waits : job.duty phase.isWhole ∈ world.duties := List.mem_filterMap.mpr ⟨_, known, rfl⟩
  exact answered?_of_open reached distinct waits

end Reached

section Responding

variable {before rest : List Happening} {world : World}
  (reached : (World.initial engine network start).through engine (before ++ rest) = world)
  (distinct : (tickets (before ++ rest)).Nodup)
  {job : Job} {exchange : Exchange} {response : Response} {wake : Instant}
  (waits : .request job (.awaiting exchange (.ok response)) wake ∈
    ((World.initial engine network start).through engine before).tasks)
  (notOver : ((World.initial engine network start).through engine before).now ≤ wake)
include reached distinct waits notOver

/-- A request with a response has handed it on or waits to do so, and does nothing else. -/
theorem received_or_waits :
    world.answered? job.ticket =
        some ⟨job.ticket, some job.route.name, some (Proxy.inboundResponse response)⟩ ∨
      .request job (.awaiting exchange (.ok response)) wake ∈ world.tasks ∧
        (Punctual rest → world.now ≤ wake) := by
  rcases waits_or_resumed waits notOver rest with still | ⟨moment, member, move, made, going⟩
  · rw [← World.through_append, reached] at still
    exact .inr still
  · obtain ⟨discharge, discharged, answer⟩ := discharged_of_resumed made going
    have given : discharge ∈
        (World.initial engine network start).dischargesOf engine (before ++ rest) := by
      refine List.mem_flatMap.mpr ⟨moment, ?_, discharged⟩
      rw [World.moments_append]
      exact List.mem_append_right _ member
    have answered := answered?_of_discharged reached distinct given
    have ticket : discharge.duty.ticket = job.ticket := congrArg Answer.ticket answer
    rw [ticket, answer] at answered
    exact .inl answered

/-- A request with a response makes no attempt. -/
theorem unattempted_of_response {move : Move} {other : Job} {otherExchange : Exchange}
    (attempts : world.attempted? engine move = some (other, otherExchange)) :
    other.ticket ≠ job.ticket := by
  intro same
  obtain ⟨phase, later, known, sends⟩ := World.mem_tasks_of_attempted attempts
  rcases received_or_waits reached distinct waits notOver with answered | ⟨still, -⟩
  · have unanswered := answered?_of_underWay reached distinct known
    rw [same, answered] at unanswered
    cases unanswered
  · cases request_unique reached distinct still known same
    rw [action_awaiting_ok] at sends
    cases sends

/-- The answer to a request with a response is that response. -/
theorem answer_of_response {answer : Answer} (given : answer ∈ world.answers)
    (same : answer.ticket = job.ticket) :
    answer = ⟨job.ticket, some job.route.name, some (Proxy.inboundResponse response)⟩ := by
  have found := answered?_of_mem reached distinct given
  rw [same] at found
  rcases received_or_waits reached distinct waits notOver with answered | ⟨still, -⟩
  · rw [answered] at found
    exact (Option.some.inj found).symm
  · rw [answered?_of_underWay reached distinct still] at found
    cases found

end Responding

end Executions

/-! ## Pass-through -/

/-- What becomes of a request that got a response in time: the last of some happenings was the
attempt, and the response is known at an instant. -/
structure Relayed (engine : Engine) (first : World) (before rest : List Happening)
    (arrival : Arrival) (route : Routing.Route) (known : Instant) (response : Response) :
    Prop where
  /-- No further attempt is made. -/
  last : ∀ {more move others job exchange}, rest = more ++ .move move :: others →
    (first.through engine (before ++ more)).attempted? engine move = some (job, exchange) →
      job.ticket ≠ arrival.ticket
  /-- The client gets nothing but the response. -/
  only : ∀ answer ∈ (first.through engine (before ++ rest)).answers,
    answer.ticket = arrival.ticket → ∃ received,
      answer = ⟨arrival.ticket, some route.name, some received⟩ ∧ Proxy.Relays received response
  /-- The client has got the response, or the request waits to hand it on. -/
  received : (∃ received, (first.through engine (before ++ rest)).answered? arrival.ticket =
        some ⟨arrival.ticket, some route.name, some received⟩ ∧ Proxy.Relays received response) ∨
    ∃ exchange, .request (arrival.job route) (.awaiting exchange (.ok response)) known ∈
        (first.through engine (before ++ rest)).tasks ∧
      (Punctual rest → (first.through engine (before ++ rest)).now ≤ known)

/-- The gateway is transparent for a request. -/
structure PassesThrough (engine : Engine) (first : World) (happenings : List Happening)
    (arrival : Arrival) (route : Routing.Route) : Prop where
  /-- Every attempt has the method and the whole body of the request, and so has what is sent. -/
  attempts : ∀ {before move rest job exchange}, happenings = before ++ .move move :: rest →
    (first.through engine before).attempted? engine move = some (job, exchange) →
    job.ticket = arrival.ticket →
      exchange.outbound.method = arrival.head.method ∧
      exchange.outbound.body = content arrival.pieces ∧
      ∀ sent, ((first.through engine before).delivery engine job exchange).sent = some sent →
        sent.request.method = arrival.head.method ∧ sent.request.body = content arrival.pieces
  /-- A response of any status that an attempt gets by the deadline is handed on. -/
  responses : ∀ {before move rest job exchange delay response},
    happenings = before ++ .move move :: rest →
    (first.through engine before).attempted? engine move = some (job, exchange) →
    job.ticket = arrival.ticket →
    ((first.through engine before).delivery engine job exchange).outcome =
        some (delay, .ok response) →
      Relayed engine first (before ++ [.move move]) rest arrival route
        ((first.through engine before).now + delay) response

/-- An attempt for a request is made by its job, for the exchange that its arrival leads to. -/
theorem builtFrom_of_attempted {engine : Engine} {network : Network} {start : Instant}
    {before rest : List Happening} (distinct : (tickets (before ++ rest)).Nodup) {arrival : Arrival}
    (arrived : arrival ∈ (World.initial engine network start).arrivals engine (before ++ rest))
    {route : Routing.Route}
    (admitted : engine.dispatch arrival.met.statuses arrival.met.now arrival.head = .ok route)
    {move : Move} {job : Job} {exchange : Exchange}
    (attempts : ((World.initial engine network start).through engine before).attempted? engine
      move = some (job, exchange)) (same : job.ticket = arrival.ticket) :
    job = arrival.job route ∧ exchange.BuiltFrom engine arrival route := by
  obtain ⟨phase, wake, known, sends⟩ := World.mem_tasks_of_attempted attempts
  obtain ⟨other, arrivedBefore, otherRoute, alsoAdmitted, rfl, comes⟩ :=
    comesFrom_of_reached rfl _ known job phase wake rfl
  obtain rfl := arrival_unique distinct arrived
    (World.arrivals_subset_append _ _ _ _ arrivedBefore) same
  rw [admitted] at alsoAdmitted
  cases alsoAdmitted
  exact ⟨rfl, builtFrom_of_action comes (congrArg Action.exchange? sends)⟩

/-- In every execution the gateway is transparent for every request that is admitted. -/
theorem passes_through {engine : Engine} {network : Network} {start : Instant}
    {happenings : List Happening} (distinct : (tickets happenings).Nodup) {arrival : Arrival}
    (arrived : arrival ∈ (World.initial engine network start).arrivals engine happenings)
    {route : Routing.Route}
    (admitted : engine.dispatch arrival.met.statuses arrival.met.now arrival.head = .ok route) :
    PassesThrough engine (.initial engine network start) happenings arrival route where
  attempts := by
    rintro before move rest job exchange rfl attempts same
    obtain ⟨-, built⟩ := builtFrom_of_attempted distinct arrived admitted attempts same
    obtain ⟨method, body⟩ := built.outbound admitted
    refine ⟨method, body, fun sent sends => ?_⟩
    obtain ⟨sentMethod, sentBody⟩ := Network.sent_of_deliverWithin sends
    exact ⟨sentMethod.trans method, sentBody.trans body⟩
  responses := by
    rintro before move rest job exchange delay response rfl attempts same inTime
    obtain ⟨rfl, -⟩ := builtFrom_of_attempted distinct arrived admitted attempts same
    have parted : before ++ .move move :: rest = (before ++ [.move move]) ++ rest := by simp
    rw [parted] at distinct
    have waits := awaits_of_attempted attempts inTime
    have notOver : ((World.initial engine network start).through engine
        (before ++ [.move move])).now ≤
          ((World.initial engine network start).through engine before).now + delay := by
      obtain ⟨index, rfl, -⟩ := World.move_eq_attempt engine attempts
      rw [World.through_concat, World.after, World.now_move]
      exact Int.le_add_of_nonneg_right (Int.natCast_nonneg _)
    rw [← World.after, ← World.through_concat] at waits
    refine ⟨?_, ?_, ?_⟩
    · rintro more next others other otherExchange rfl later
      have distinctBefore : (tickets ((before ++ [.move move]) ++ more)).Nodup := by
        rw [← List.append_assoc, tickets_append] at distinct
        exact distinct.of_append_left
      exact unattempted_of_response rfl distinctBefore waits notOver later
    · intro answer given sameTicket
      exact ⟨_, answer_of_response rfl distinct waits notOver given sameTicket,
        Proxy.relays_inboundResponse response⟩
    · refine (received_or_waits rfl distinct waits notOver).imp (fun answered => ?_) fun still => ?_
      · exact ⟨_, answered, Proxy.relays_inboundResponse response⟩
      · exact ⟨exchange, still⟩

/-! ### One execution -/

/-- A response whose `connection` header lists one of its headers. -/
def missingPage : Response where
  status := 404
  headers := ⟨[("connection", .ofString "X-Hop"), ("x-hop", .ofString "1"),
    ("set-cookie", .ofString "a"), ("set-cookie", .ofString "b")]⟩
  body := "none".toUTF8

/-- A host that resets the first exchange and answers the next one after a second. -/
def flakyNetwork : Network :=
  ⟨[("h", ⟨.accepted, some [⟨0, .failure (.backend "reset")⟩,
    ⟨.ofSeconds 1, .response missingPage⟩], none⟩)]⟩

/-- A request whose body comes in two pieces, up to its second attempt. -/
def resentRequest : List Happening :=
  [.move (.serve 1 (.get "/a") [.data "bo".toUTF8, .data "dy".toUTF8]), .move (.run 0),
    .move (.run 0), .move (.advance 100000000)]

/-- The response arrives and is handed on. -/
def handedOn : List Happening := [.move (.advance 1100000000), .move (.run 0)]

/-- The page that is missing is the answer, after an attempt that failed. -/
theorem passes_through_resentRequest :
    (tickets (resentRequest ++ .move (.run 0) :: handedOn)).Nodup ∧
      ∃ received, ((World.initial retryingGateway flakyNetwork 0).through retryingGateway
          (resentRequest ++ .move (.run 0) :: handedOn)).answered? 1 =
            some ⟨1, some "all", some received⟩ ∧ Proxy.Relays received missingPage := by
  have distinct : (tickets (resentRequest ++ .move (.run 0) :: handedOn)).Nodup := by decide
  let arrival : Arrival := ⟨1, .get "/a", [.data "bo".toUTF8, .data "dy".toUTF8],
    .initial retryingGateway flakyNetwork 0⟩
  have arrived : arrival ∈ (World.initial retryingGateway flakyNetwork 0).arrivals
      retryingGateway (resentRequest ++ .move (.run 0) :: handedOn) := List.mem_cons_self
  have admitted : retryingGateway.dispatch arrival.met.statuses arrival.met.now arrival.head =
      .ok rootRoute := by rfl
  have passes := passes_through distinct arrived admitted
  obtain ⟨exchange, attempts, inTime⟩ : ∃ exchange,
      ((World.initial retryingGateway flakyNetwork 0).through retryingGateway
        resentRequest).attempted? retryingGateway (.run 0) =
          some (arrival.job rootRoute, exchange) ∧
      (((World.initial retryingGateway flakyNetwork 0).through retryingGateway
        resentRequest).delivery retryingGateway (arrival.job rootRoute) exchange).outcome =
          some (.ofSeconds 1, .ok missingPage) := ⟨_, rfl, rfl⟩
  have idle : ((World.initial retryingGateway flakyNetwork 0).through retryingGateway
      ((resentRequest ++ [.move (.run 0)]) ++ handedOn)).tasks = [] := rfl
  rcases (passes.responses rfl attempts rfl inTime).received with received | ⟨_, still, -⟩
  · exact ⟨distinct, received⟩
  · rw [idle] at still
    cases still

/-! ### Values that are not visible -/

/-- A response whose `connection` value ends with a byte that is not visible. -/
def opaquePage : Response where
  status := 200
  headers := ⟨[("connection", Http.HeaderValue.ofString "x-hop, " ++ [255]),
    ("x-hop", .ofString "1")]⟩
  body := .empty

/-- A host that answers with it at once. -/
def opaqueNetwork : Network :=
  ⟨[("h", ⟨.accepted, some [⟨0, .response opaquePage⟩], none⟩)]⟩

/-- A request that goes to this host has arrived. -/
def opaqueAsked : World :=
  (World.initial (ofRoute rootRoute) opaqueNetwork 0).through (ofRoute rootRoute)
    [.move (.serve 1 (.get "/a") [])]

/-- The value names a header, which is handed on all the same. -/
theorem handed_on_though_named :
    (∃ job exchange, opaqueAsked.attempted? (ofRoute rootRoute) (.run 0) = some (job, exchange) ∧
      job.ticket = 1 ∧
      (opaqueAsked.delivery (ofRoute rootRoute) job exchange).outcome =
        some (0, .ok opaquePage)) ∧
    (∃ value ∈ opaquePage.headers.values "connection", Proxy.Names value "x-hop") ∧
    ∃ received, (opaqueAsked.through (ofRoute rootRoute)
        [.move (.run 0), .move (.run 0)]).answered? 1 = some ⟨1, some "all", some received⟩ ∧
      received.headers.values "x-hop" = [.ofString "1"] := by
  refine ⟨⟨_, _, rfl, rfl, rfl⟩, ⟨_, List.mem_cons_self, ?_⟩, Proxy.inboundResponse opaquePage,
    rfl, ?_⟩
  · exact ⟨"x-hop".toList, by decide +kernel, by decide⟩
  · decide +kernel

end Engine

end ApiGateway
