import ApiGateway.Proofs.Engine.Following

/-!
# One deadline for a request

The deadline of a request counts from its arrival. It bounds the body, the attempts,
the pauses between them and the last outcome together. `Arrival.Ends` tells how a
request comes to its answer, as its phase then says, and `keeps_deadline` reads the
instant and the response off it.
-/

namespace ApiGateway.Engine

open Http (Response)

/-! ## The answer -/

/-- A task that goes on gives somebody a response. -/
def World.Gives (engine : Engine) (world : World) (index ticket : Nat) (response : Response) :
    Prop :=
  ∃ counted, (world.move engine (.run index)).answers =
    world.answers ++ [⟨ticket, counted, some response⟩]

/-- A request is answered by its deadline, and by what it comes to until then. -/
structure KeepsDeadline (engine : Engine) (arrival : Arrival) (route : Routing.Route)
    (replies : List AttemptEnd) (world : World) : Prop where
  /-- When the deadline is over there is an answer. -/
  answered : arrival.met.now + route.timeout < world.now → ∃ response,
    world.answered? arrival.ticket = some ⟨arrival.ticket, some route.name, some response⟩
  /-- The answer is given at most the timeout after the arrival. -/
  inTime : ∀ {index response}, world.Gives engine index arrival.ticket response →
    arrival.met.now ≤ world.now ∧ world.now ≤ arrival.met.now + route.timeout
  /-- No attempt is made after the deadline. -/
  attempts : ∀ {move job exchange}, world.attempted? engine move = some (job, exchange) →
    job.ticket = arrival.ticket → world.now ≤ arrival.met.now + route.timeout
  /-- A body that is incomplete at the deadline is given up then, without any attempt. -/
  incomplete : Overdue route.timeout arrival.pieces →
    ¬ Oversized engine.maxBodyBytes route.timeout arrival.pieces →
      replies = [] ∧ ∀ {index response}, world.Gives engine index arrival.ticket response →
        world.now = arrival.met.now + route.timeout ∧ response = .ofError
          ⟨.requestTimeout, "request body not received within " ++ route.timeout.text⟩
  /-- An exchange that is unfinished at the deadline is given up then. -/
  unfinished : (arrival.standing engine route replies).UnfinishedAt
      (arrival.met.now + route.timeout) →
    ∀ {index response}, world.Gives engine index arrival.ticket response →
      world.now = arrival.met.now + route.timeout ∧ response = .ofError
        (.badGateway (GatewayError.timeout route.timeout).message)
  /-- The outcome of an exchange that is done before is given when it is known. Without a
  connection it may be known at the deadline. -/
  finished : ∀ {known outcome}, arrival.standing engine route replies = .ended known outcome →
    known < arrival.met.now + route.timeout ∨
      engine.transport.medium = .direct ∧ known = arrival.met.now + route.timeout →
    ∀ {index response}, world.Gives engine index arrival.ticket response →
      world.now = known ∧ response = World.responseOf outcome

/-- Only a request that goes on gives a response. -/
theorem World.Gives.resumed {engine : Engine} {world : World} {index ticket : Nat}
    {response : Response} (gives : world.Gives engine index ticket response) :
    ∃ job phase wake, world.resumed? (.run index) = some (.request job phase wake) ∧
      job.ticket = ticket ∧ (job.action engine world.now phase).response? engine job =
        some response := by
  obtain ⟨counted, answers⟩ := gives
  rw [(world.settles_move engine (.run index)).answers] at answers
  have given := List.mem_map.mp ((List.append_cancel_left answers).symm ▸ List.mem_singleton_self _)
  obtain ⟨discharge, given, same⟩ := given
  cases World.discharges_of_mem given with
  | @concluded job phase wake _ going responds =>
      cases same
      exact ⟨job, phase, wake, going, rfl, responds⟩
  | refused served => cases served
  | page arrives => cases arrives
  | round => cases same

/-- How a request comes to its answer at an instant. -/
inductive Arrival.Ends (engine : Engine) (arrival : Arrival) (route : Routing.Route)
    (replies : List AttemptEnd) (now : Instant) : Response → Prop where
  /-- The body is not taken. -/
  | rejected {fault : BodyFault} (unsent : replies = [])
      (read : arrival.read engine route = ⟨now, .error fault⟩) :
      Ends engine arrival route replies now
        (.ofError (fault.error engine.maxBodyBytes route.timeout))
  /-- No outbound request can be made. -/
  | unbuildable {body : ByteArray} {error : GatewayError} (unsent : replies = [])
      (read : arrival.read engine route = ⟨now, .ok body⟩) :
      Ends engine arrival route replies now (World.responseOf (.error error))
  /-- The outcome of the exchange is known. -/
  | finished {outcome : Except GatewayError Response}
      (stands : arrival.standing engine route replies = .ended now outcome) :
      Ends engine arrival route replies now (World.responseOf outcome)
  /-- The deadline is over. -/
  | cut (atDeadline : now = arrival.met.now + route.timeout)
      (misses : (arrival.standing engine route replies).Misses engine.transport.medium now) :
      Ends engine arrival route replies now
        (World.responseOf (.error (.timeout route.timeout)))

section Ends

variable {engine : Engine} {arrival : Arrival} {route : Routing.Route}
  {replies : List AttemptEnd}

theorem ends_of_follows {phase : Phase} {now : Instant} {response : Response}
    (follows : phase.Follows engine arrival route replies now)
    (responds : ((arrival.job route).action engine now phase).response? engine
      (arrival.job route) = some response) :
    arrival.Ends engine route replies now response := by
  cases follows with
  | reading unsent =>
      cases result : (arrival.read engine route).result with
      | error fault =>
          rw [result] at responds
          cases responds
          exact .rejected unsent (by rw [← result])
      | ok body =>
          rw [result] at responds
          cases built : (arrival.job route).outbound engine body with
          | ok outbound => simp only [Job.action, built] at responds; cases responds
          | error error =>
              simp only [Job.action, built] at responds
              cases responds
              exact .unbuildable unsent (by rw [← result])
  | pausing arises stands => cases responds
  | @awaiting exchange outcome _ arises stands =>
      cases decision : Proxy.Retry.decide (engine.transport.attemptsFor arrival.head.method)
          exchange.attempt outcome with
      | again pause attempt =>
          simp only [Job.action, Arrival.job, decision] at responds
          cases responds
      | finish final =>
          simp only [Job.action, Arrival.job, decision] at responds
          cases responds
          refine .finished ?_
          rw [stands, Standing.decided, decision]
  | overdue arises misses =>
      cases responds
      exact .cut rfl misses

/-- An attempt is made for a whole body only. -/
theorem whole_of_send {phase : Phase} {now : Instant} {exchange : Exchange}
    (follows : phase.Follows engine arrival route replies now)
    (sends : (arrival.job route).action engine now phase = .send exchange) :
    ∃ body, (arrival.read engine route).result = .ok body := by
  cases follows with
  | reading unsent =>
      cases result : (arrival.read engine route).result with
      | error fault => rw [result] at sends; cases sends
      | ok body => exact ⟨body, rfl⟩
  | pausing arises stands => exact arises.built.imp fun _ built => built.1
  | awaiting arises stands => exact arises.built.imp fun _ built => built.1
  | overdue arises misses => cases sends

theorem standing_nil : arrival.standing engine route [] =
    .due 0 (arrival.read engine route).finished := rfl

/-- A body that is not taken is the answer. -/
theorem Arrival.Ends.of_fault {now finished : Instant} {fault : BodyFault} {response : Response}
    (ends : arrival.Ends engine route [] now response)
    (read : arrival.read engine route = ⟨finished, .error fault⟩) :
    now = finished ∧ response = .ofError (fault.error engine.maxBodyBytes route.timeout) := by
  cases ends with
  | rejected unsent readNow =>
      rw [readNow] at read
      cases read
      exact ⟨rfl, rfl⟩
  | unbuildable unsent readNow =>
      rw [readNow] at read
      cases read
  | finished stands =>
      rw [standing_nil] at stands
      cases stands
  | cut atDeadline misses =>
      have byDeadline : (arrival.read engine route).finished ≤ now := by
        rw [atDeadline]
        exact (finished_readBody ..).2
      rw [standing_nil] at misses
      rcases misses with late | ⟨-, outcome, same⟩
      · exact absurd late (Int.not_lt.mpr byDeadline)
      · cases same

/-- An exchange that is unfinished at the deadline is cut short there. -/
theorem Arrival.Ends.of_unfinished {now : Instant} {response : Response}
    (ends : arrival.Ends engine route replies now response)
    (notOver : now ≤ arrival.met.now + route.timeout)
    (unfinished : (arrival.standing engine route replies).UnfinishedAt
      (arrival.met.now + route.timeout)) :
    now = arrival.met.now + route.timeout ∧ response = .ofError
      (.badGateway (GatewayError.timeout route.timeout).message) := by
  cases ends with
  | rejected unsent read =>
      rw [unsent, standing_nil, read] at unfinished
      exact absurd unfinished (Int.not_lt.mpr notOver)
  | unbuildable unsent read =>
      rw [unsent, standing_nil, read] at unfinished
      exact absurd unfinished (Int.not_lt.mpr notOver)
  | finished stands =>
      rw [stands] at unfinished
      exact absurd unfinished (Int.not_lt.mpr notOver)
  | cut atDeadline misses => exact ⟨atDeadline, rfl⟩

/-- The outcome of an exchange that is done by the deadline is the answer. -/
theorem Arrival.Ends.of_ended {now known : Instant} {response : Response}
    {outcome : Except GatewayError Response}
    (ends : arrival.Ends engine route replies now response)
    (stands : arrival.standing engine route replies = .ended known outcome)
    (inTime : known < arrival.met.now + route.timeout ∨
      engine.transport.medium = .direct ∧ known = arrival.met.now + route.timeout) :
    now = known ∧ response = World.responseOf outcome := by
  cases ends with
  | rejected unsent read => rw [unsent, standing_nil] at stands; cases stands
  | unbuildable unsent read => rw [unsent, standing_nil] at stands; cases stands
  | finished standsNow =>
      rw [standsNow] at stands
      cases stands
      exact ⟨rfl, rfl⟩
  | cut atDeadline misses =>
      rw [stands, atDeadline] at misses
      rcases misses with late | ⟨connected, other, same⟩
      · rcases inTime with early | ⟨-, same⟩
        · exact absurd late (Int.not_lt.mpr (Int.le_of_lt early))
        · exact absurd late (Int.not_lt.mpr (Int.le_of_eq same))
      · cases same
        rcases inTime with early | ⟨direct, -⟩
        · exact absurd early (Int.lt_irrefl _)
        · rw [connected] at direct
          cases direct

end Ends

section Keeping

variable {engine : Engine} {network : Network} {start : Instant} {happenings : List Happening}
  {world : World} (reached : (World.initial engine network start).through engine happenings = world)
  (distinct : (tickets happenings).Nodup) (punctual : Punctual happenings) {arrival : Arrival}
  (arrived : arrival ∈ (World.initial engine network start).arrivals engine happenings)
  {route : Routing.Route}
  (admitted : engine.dispatch arrival.met.statuses arrival.met.now arrival.head = .ok route)

include distinct arrived in
/-- A ticket tells the request. -/
theorem arrival_unique {other : Arrival}
    (alsoArrived : other ∈ (World.initial engine network start).arrivals engine happenings)
    (same : other.ticket = arrival.ticket) : other = arrival :=
  List.inj_on_of_nodup_map (distinct.sublist (World.tickets_arrivals ..)) alsoArrived arrived same

section Before

variable {before rest : List Happening} (split : happenings = before ++ rest) {met : World}
  (since : (World.initial engine network start).through engine before = met)
include split since distinct punctual arrived admitted

/-- What is known of a request that goes on at some time of an execution. -/
theorem follows_of_ticket {move : Move} {job : Job} {phase : Phase} {wake : Instant}
    (going : met.resumed? move = some (.request job phase wake))
    (same : job.ticket = arrival.ticket) :
    job = arrival.job route ∧
      phase.Follows engine arrival route
        ((World.initial engine network start).repliesTo engine before arrival.ticket) met.now ∧
      met.now ≤ arrival.met.now + route.timeout := by
  have apart := distinct
  rw [split, tickets_append] at apart
  have punctualBefore : Punctual before := fun instant earlier =>
    punctual instant (split ▸ List.mem_append_left _ earlier)
  obtain ⟨other, arrivedBefore, otherRoute, alsoAdmitted, rfl, follows, notOver⟩ :=
    follows_of_resumed since apart.of_append_left punctualBefore going
  have alsoArrived := World.arrivals_subset_append engine (.initial engine network start) before
    rest arrivedBefore
  rw [← split] at alsoArrived
  obtain rfl := arrival_unique distinct arrived alsoArrived same
  rw [admitted] at alsoAdmitted
  cases alsoAdmitted
  exact ⟨rfl, follows, notOver⟩

theorem whole_of_attempted {move : Move} {job : Job} {exchange : Exchange}
    (attempts : met.attempted? engine move = some (job, exchange))
    (same : job.ticket = arrival.ticket) :
    (∃ body, (arrival.read engine route).result = .ok body) ∧
      met.now ≤ arrival.met.now + route.timeout := by
  obtain ⟨phase, wake, going, sends⟩ := World.attempted?_eq_some_iff.mp attempts
  obtain ⟨rfl, follows, notOver⟩ :=
    follows_of_ticket distinct punctual arrived admitted split since going same
  exact ⟨whole_of_send follows sends, notOver⟩

end Before

include distinct punctual arrived admitted in
/-- Without a whole body no attempt is made. -/
theorem unsent_of_fault {fault : BodyFault}
    (faulty : (arrival.read engine route).result = .error fault) :
    (World.initial engine network start).repliesTo engine happenings arrival.ticket = [] := by
  refine List.filterMap_eq_nil_iff.mpr fun moment member => ?_
  obtain ⟨before, rest, split, since⟩ := World.exists_append_of_mem_moments _ _ member
  simp only [Moment.replyTo?]
  split
  · next job exchange made =>
      obtain ⟨move, -, attempts⟩ := Option.bind_eq_some_iff.mp made
      refine if_neg fun same => ?_
      obtain ⟨⟨body, whole⟩, -⟩ :=
        whole_of_attempted distinct punctual arrived admitted split since attempts same
      rw [faulty] at whole
      cases whole
  · rfl

include reached distinct punctual arrived admitted

/-- A response is given as the arrival and the replies say. -/
theorem ends_of_gives {index : Nat} {response : Response}
    (gives : world.Gives engine index arrival.ticket response) :
    arrival.Ends engine route
        ((World.initial engine network start).repliesTo engine happenings arrival.ticket)
        world.now response ∧
      world.now ≤ arrival.met.now + route.timeout := by
  obtain ⟨job, phase, wake, going, same, responds⟩ := gives.resumed
  obtain ⟨rfl, follows, notOver⟩ := follows_of_ticket distinct punctual arrived admitted
    (List.append_nil _).symm reached going same
  exact ⟨ends_of_follows follows responds, notOver⟩

/-- A request that is not answered is under way, and its deadline is not over. -/
theorem answered_or_underWay :
    (∃ response, world.answered? arrival.ticket =
        some ⟨arrival.ticket, some route.name, some response⟩) ∨
      world.now ≤ arrival.met.now + route.timeout := by
  have bound := (dispatch_eq_ok_iff.mp admitted).1
  have routed : (arrival.duty engine).route = some route := bound.matched
  have counted : (arrival.duty engine).counted = some route.name := by
    rw [World.counted_duty, boundRoute?_eq_some_iff.mpr bound]
    rfl
  have taken := (duties_of_reached reached).mem_iff.mpr (World.duty_mem_duesOf arrived)
  rcases List.mem_append.mp taken with discharged | waits
  · left
    obtain ⟨discharge, given, same⟩ := List.mem_map.mp discharged
    rw [← same] at routed counted
    obtain ⟨moment, -, move, -, discharges⟩ := World.discharges_of_mem_dischargesOf given
    obtain ⟨response, responds⟩ := discharges.response routed
    have isTicket : discharge.duty.ticket = arrival.ticket := congrArg Duty.ticket same
    refine ⟨response, ?_⟩
    rw [← isTicket, answered?_of_discharged reached distinct given, Discharge.answer, counted,
      responds]
  · right
    obtain ⟨task, known, owes⟩ := List.mem_filterMap.mp waits
    cases task with
    | request job phase wake =>
        obtain ⟨other, alsoArrived, otherRoute, alsoAdmitted, rfl, -, notOver, byDeadline⟩ :=
          stands_of_reached reached distinct punctual _ known job phase wake rfl
        have isTicket : other.ticket = arrival.ticket :=
          congrArg Duty.ticket (Option.some.inj owes)
        obtain rfl := arrival_unique distinct arrived alsoArrived isTicket
        rw [admitted] at alsoAdmitted
        cases alsoAdmitted
        exact Int.le_trans notOver byDeadline
    | round purpose checks =>
        cases purpose with
        | requested ticket =>
            rw [← Option.some.inj owes] at routed
            cases routed
        | _ => cases owes
    | _ => cases owes

end Keeping

/-- Body, attempts, pauses and the last outcome of a request share one deadline. In every execution
in which nobody is passed over an admitted request is answered when the timeout of its route is
over, and at the instant and with the response that its body and the replies to its attempts lead
to until then: a body that is incomplete at the deadline gets a 408 there, an exchange that is
unfinished a 502 that names the timeout. -/
theorem keeps_deadline {engine : Engine} {network : Network} {start : Instant}
    {happenings : List Happening} {world : World}
    (reached : (World.initial engine network start).through engine happenings = world)
    (distinct : (tickets happenings).Nodup) (punctual : Punctual happenings) {arrival : Arrival}
    (arrived : arrival ∈ (World.initial engine network start).arrivals engine happenings)
    {route : Routing.Route}
    (admitted : engine.dispatch arrival.met.statuses arrival.met.now arrival.head = .ok route) :
    KeepsDeadline engine arrival route
      ((World.initial engine network start).repliesTo engine happenings arrival.ticket) world where
  answered expired := by
    refine (answered_or_underWay reached distinct punctual arrived admitted).resolve_right ?_
    exact Int.not_le.mpr expired
  inTime gives := by
    refine ⟨?_, (ends_of_gives reached distinct punctual arrived admitted gives).2⟩
    rw [← reached]
    exact World.now_le_of_mem_arrivals arrived
  attempts attempts same := (whole_of_attempted distinct punctual arrived admitted
    (List.append_nil _).symm reached attempts same).2
  incomplete overdue notOversized := by
    have read : arrival.read engine route = ⟨arrival.met.now + route.timeout, .error .timedOut⟩ :=
      readBody_of_overdue _ overdue notOversized
    have unsent := unsent_of_fault distinct punctual arrived admitted
      (congrArg BodyRead.result read)
    refine ⟨unsent, fun gives => ?_⟩
    have ends := (ends_of_gives reached distinct punctual arrived admitted gives).1
    rw [unsent] at ends
    exact ends.of_fault read
  unfinished unfinished _ _ gives := by
    obtain ⟨ends, notOver⟩ := ends_of_gives reached distinct punctual arrived admitted gives
    exact ends.of_unfinished notOver unfinished
  finished stands inTime _ _ gives :=
    (ends_of_gives reached distinct punctual arrived admitted gives).1.of_ended stands inTime

/-! ### One execution -/

/-- A host that fails after two seconds and is silent from then on. -/
def silentNetwork : Network :=
  ⟨[("h", ⟨.accepted, some [⟨.ofSeconds 2, .failure (.backend "reset")⟩, ⟨0, .silence⟩], none⟩)]⟩

/-- A request takes three seconds to arrive and is sent twice; ten seconds are over. -/
def slowRequest : List Happening :=
  [.move (.serve 1 (.get "/a") [.pause (.ofSeconds 3)]), .move (.advance 3000000000),
    .move (.run 0), .move (.advance 5000000000), .move (.run 0), .move (.advance 5100000000),
    .move (.run 0), .move (.advance 10000000000)]

/-- Three seconds for the body, two for an attempt, a pause, and the rest for an attempt that never
ends: ten seconds together. -/
theorem keeps_deadline_of_slowRequest :
    (tickets slowRequest).Nodup ∧ Punctual slowRequest ∧
      let world := (World.initial retryingGateway silentNetwork 0).through retryingGateway
        slowRequest
      ∃ response, world.Gives retryingGateway 0 1 response ∧ world.now = 10000000000 ∧
        response = .ofError (.badGateway (GatewayError.timeout (.ofSeconds 10)).message) := by
  have distinct : (tickets slowRequest).Nodup := by decide
  have punctual : Punctual slowRequest := by
    intro instant member
    simp [slowRequest] at member
  have reached : (World.initial retryingGateway silentNetwork 0).through retryingGateway
      slowRequest = _ := rfl
  let arrival : Arrival :=
    ⟨1, .get "/a", [.pause (.ofSeconds 3)], .initial retryingGateway silentNetwork 0⟩
  have arrived : arrival ∈ (World.initial retryingGateway silentNetwork 0).arrivals
      retryingGateway slowRequest := List.mem_cons_self
  have admitted : retryingGateway.dispatch arrival.met.statuses arrival.met.now arrival.head =
      .ok rootRoute := by rfl
  have keeps := keeps_deadline reached distinct punctual arrived admitted
  have unfinished : (arrival.standing retryingGateway rootRoute
      ((World.initial retryingGateway silentNetwork 0).repliesTo retryingGateway slowRequest
        1)).UnfinishedAt 10000000000 := by decide
  have gives : ((World.initial retryingGateway silentNetwork 0).through retryingGateway
      slowRequest).Gives retryingGateway 0 1 (.ofError
        (.badGateway (GatewayError.timeout (.ofSeconds 10)).message)) := ⟨some "all", by rfl⟩
  exact ⟨distinct, punctual, _, gives, keeps.unfinished unfinished gives⟩

end ApiGateway.Engine
