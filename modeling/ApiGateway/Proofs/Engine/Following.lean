import ApiGateway.Proofs.Engine.Ledger
import ApiGateway.Proofs.Engine.Standing
import Mathlib.Data.List.Induction

/-!
# Where a request under way stands

`Phase.Follows` ties the phase of a request under way to its arrival and to the replies
that its attempts got so far. Every step of a request keeps it (`follows_of_action`),
and so does everything else that happens; `stands_of_reached` proves it of all requests
of all executions in which nobody is passed over.
-/

namespace ApiGateway.Engine

open Http (Response)
open BodyPiece (content duration)

/-! ## Replies -/

/-- The reply that the network has for an attempt, however late it comes. -/
def World.replyFor (engine : Engine) (world : World) (exchange : Exchange) : AttemptEnd :=
  (world.network.deliver engine.transport.medium .forwarded exchange.outbound).outcome

/-- The reply to the attempt that a request makes at a moment. -/
def Moment.replyTo? (engine : Engine) (ticket : Nat) (moment : Moment) : Option AttemptEnd :=
  match moment.happening.move?.bind (moment.world.attempted? engine) with
  | some (job, exchange) =>
    if job.ticket = ticket then some (moment.world.replyFor engine exchange) else none
  | none => none

/-- The replies to all attempts that a request makes in an execution, in their order. -/
def World.repliesTo (engine : Engine) (world : World) (happenings : List Happening)
    (ticket : Nat) : List AttemptEnd :=
  (world.moments engine happenings).filterMap (Moment.replyTo? engine ticket)

theorem World.repliesTo_concat (engine : Engine) (world : World) (before : List Happening)
    (happening : Happening) (ticket : Nat) :
    world.repliesTo engine (before ++ [happening]) ticket =
      world.repliesTo engine before ticket ++
        (Moment.replyTo? engine ticket ⟨world.through engine before, happening⟩).toList := by
  simp only [World.repliesTo, World.moments_concat, List.filterMap_append]
  congr 1

/-- The exchange whose attempt an action makes. -/
def Action.sent? : Action → Option Exchange
  | send exchange => some exchange
  | _ => none

/-! ## Phases -/

/-- The job of a request that is admitted to a route. -/
def Arrival.job (arrival : Arrival) (route : Routing.Route) : Job :=
  ⟨arrival.ticket, arrival.head, route, arrival.met.now + route.timeout⟩

/-- How the body of an admitted request is read. -/
def Arrival.read (engine : Engine) (arrival : Arrival) (route : Routing.Route) : BodyRead :=
  readBody engine.maxBodyBytes arrival.met.now (arrival.met.now + route.timeout) arrival.pieces

/-- The exchange of a request is the one that its body leads to, from the end of the body on. -/
structure Exchange.ArisesFrom (engine : Engine) (arrival : Arrival) (route : Routing.Route)
    (exchange : Exchange) : Prop where
  built : ∃ body, (arrival.read engine route).result = .ok body ∧
    (arrival.job route).outbound engine body = .ok exchange.outbound
  started : exchange.startedAt = (arrival.read engine route).finished

/-- How far the exchange of a request is after the replies to its attempts. -/
def Arrival.standing (engine : Engine) (arrival : Arrival) (route : Routing.Route)
    (replies : List AttemptEnd) : Standing :=
  .after (engine.transport.attemptsFor arrival.head.method) (arrival.read engine route).finished
    replies

/-- The phase of a request and the instant it waits for are those that its arrival and the replies
so far lead to. -/
inductive Phase.Follows (engine : Engine) (arrival : Arrival) (route : Routing.Route)
    (replies : List AttemptEnd) : Phase → Instant → Prop where
  | reading (unsent : replies = []) :
      Follows engine arrival route replies (.reading (arrival.read engine route).result)
        (arrival.read engine route).finished
  | pausing {exchange : Exchange} {wake : Instant}
      (arises : exchange.ArisesFrom engine arrival route)
      (stands : arrival.standing engine route replies = .due exchange.attempt wake) :
      Follows engine arrival route replies (.pausing exchange) wake
  | awaiting {exchange : Exchange} {outcome : Except GatewayError Response} {wake : Instant}
      (arises : exchange.ArisesFrom engine arrival route)
      (stands : arrival.standing engine route replies =
        .decided (engine.transport.attemptsFor arrival.head.method) exchange.attempt wake outcome) :
      Follows engine arrival route replies (.awaiting exchange outcome) wake
  | overdue {exchange : Exchange} (arises : exchange.ArisesFrom engine arrival route)
      (misses : (arrival.standing engine route replies).Misses engine.transport.medium
        (arrival.met.now + route.timeout)) :
      Follows engine arrival route replies (.overdue exchange) (arrival.met.now + route.timeout)

/-- A task stands where it has to if it is a request, and it waits for an instant that is not over
and not after its deadline. -/
def Task.Stands (engine : Engine) (now : Instant) (arrivals : List Arrival)
    (replies : Nat → List AttemptEnd) (task : Task) : Prop :=
  ∀ job phase wake, task = .request job phase wake →
    ∃ arrival ∈ arrivals, ∃ route,
      engine.dispatch arrival.met.statuses arrival.met.now arrival.head = .ok route ∧
      job = arrival.job route ∧ phase.Follows engine arrival route (replies job.ticket) wake ∧
      now ≤ wake ∧ wake ≤ job.deadline

/-! ## Steps -/

/-- A delay fits into the time that is left exactly if it ends by the deadline. -/
theorem le_left_iff {now deadline : Int} (notOver : now ≤ deadline) (delay : Nat) :
    delay ≤ (deadline - now).toNat ↔ now + delay ≤ deadline := by
  omega

theorem left_eq_iff {now deadline : Int} (notOver : now ≤ deadline) (delay : Nat) :
    (deadline - now).toNat = delay ↔ deadline = now + delay := by
  omega

section Steps

variable {engine : Engine} {arrival : Arrival} {route : Routing.Route}
  {replies : List AttemptEnd} {world : World}

/-- An attempt that is due now goes on as its reply says. -/
theorem follows_of_send {exchange : Exchange} {phase : Phase} {wake : Instant}
    (arises : exchange.ArisesFrom engine arrival route)
    (stands : arrival.standing engine route replies = .due exchange.attempt world.now)
    (notOver : world.now ≤ (arrival.job route).deadline)
    (goesOn : (Action.send exchange).next? world.now (arrival.job route)
      (world.reply? engine (arrival.job route) (.send exchange)) = some (phase, wake)) :
    phase.Follows engine arrival route (replies ++ [world.replyFor engine exchange]) wake ∧
      world.now ≤ wake ∧ wake ≤ (arrival.job route).deadline := by
  have moved (reply : AttemptEnd) : arrival.standing engine route (replies ++ [reply]) =
      Standing.next (engine.transport.attemptsFor arrival.head.method)
        (.due exchange.attempt world.now) reply := by
    rw [← stands, Arrival.standing, Standing.after_concat, Arrival.standing]
  simp only [Action.next?, World.reply?, World.delivery] at goesOn
  split at goesOn
  · next delay outcome inTime =>
      cases goesOn
      obtain ⟨known, early⟩ := Network.outcome_of_deliverWithin inTime
      rw [World.replyFor, known]
      exact ⟨.awaiting arises (moved _), Int.le_add_of_nonneg_right (Int.natCast_nonneg _),
        (le_left_iff notOver delay).mp early⟩
  · next cut =>
      cases goesOn
      refine ⟨.overdue arises ?_, notOver, Int.le_refl _⟩
      rw [moved]
      cases known : world.replyFor engine exchange with
      | none => exact .inl trivial
      | some reply =>
          obtain ⟨delay, outcome⟩ := reply
          refine Standing.misses_decided _ _ _ ?_
          rcases Network.late_of_deliverWithin cut known with after | ⟨connected, same⟩
          · have tooLong := fun early =>
              Nat.not_le.mpr after ((le_left_iff notOver delay).mpr early)
            exact .inl (Int.not_le.mp tooLong)
          · exact .inr ⟨connected, (left_eq_iff notOver delay).mp same⟩

/-- A pause goes on until the next attempt, or until the deadline if that comes first. -/
theorem follows_of_pause {exchange : Exchange} {pause : Duration} {phase : Phase} {wake : Instant}
    (arises : exchange.ArisesFrom engine arrival route)
    (stands : arrival.standing engine route replies =
      .due exchange.attempt (world.now + pause))
    (notOver : world.now ≤ (arrival.job route).deadline) {reply : AttemptEnd}
    (goesOn : (Action.pause exchange pause).next? world.now (arrival.job route) reply =
      some (phase, wake)) :
    phase.Follows engine arrival route replies wake ∧ world.now ≤ wake ∧
      wake ≤ (arrival.job route).deadline := by
  by_cases early : world.now + pause ≤ (arrival.job route).deadline
  · simp only [Action.next?, early, if_true] at goesOn
    cases goesOn
    exact ⟨.pausing arises stands, Int.le_add_of_nonneg_right (Int.natCast_nonneg _), early⟩
  · simp only [Action.next?, early, if_false] at goesOn
    cases goesOn
    refine ⟨.overdue arises (.inl ?_), notOver, Int.le_refl _⟩
    rw [stands]
    exact Int.not_le.mp early

/-- A request that goes on as it should waits again as it should. -/
theorem follows_of_action {phase next : Phase} {now later : Instant}
    (follows : phase.Follows engine arrival route replies now) (same : world.now = now)
    (notOver : now ≤ (arrival.job route).deadline)
    (goesOn : ((arrival.job route).action engine world.now phase).next? world.now
      (arrival.job route) (world.reply? engine (arrival.job route)
        ((arrival.job route).action engine world.now phase)) = some (next, later)) :
    next.Follows engine arrival route (replies ++
        (((arrival.job route).action engine world.now phase).sent?.map
          (world.replyFor engine)).toList) later ∧
      world.now ≤ later ∧ later ≤ (arrival.job route).deadline := by
  cases follows with
  | reading unsent =>
      cases read : (arrival.read engine route).result with
      | error fault => rw [read] at goesOn; cases goesOn
      | ok body =>
          cases built : (arrival.job route).outbound engine body with
          | error error =>
              rw [read] at goesOn
              simp only [Job.action, built] at goesOn
              cases goesOn
          | ok outbound =>
              have acts : (arrival.job route).action engine world.now (.reading (.ok body)) =
                  .send ⟨outbound, 0, world.now⟩ := by simp only [Job.action, built]
              rw [read, acts] at goesOn
              rw [acts]
              refine follows_of_send ⟨⟨body, read, built⟩, same⟩ ?_ (same ▸ notOver) goesOn
              rw [unsent, same]
              rfl
  | pausing arises stands =>
      exact follows_of_send arises (same ▸ stands) (same ▸ notOver) goesOn
  | @awaiting exchange outcome _ arises stands =>
      cases decision : Proxy.Retry.decide (engine.transport.attemptsFor arrival.head.method)
          exchange.attempt outcome with
      | finish final =>
          have acts : (arrival.job route).action engine world.now (.awaiting exchange outcome) =
              .finish exchange.startedAt final := by
            simp only [Job.action, Arrival.job, decision]
          rw [acts] at goesOn
          cases goesOn
      | again pause attempt =>
          have acts : (arrival.job route).action engine world.now (.awaiting exchange outcome) =
              .pause { exchange with attempt } pause := by
            simp only [Job.action, Arrival.job, decision]
          rw [acts] at goesOn ⊢
          have waits : arrival.standing engine route replies =
              .due attempt (world.now + pause) := by
            rw [stands, same, Standing.decided, decision]
          have arisesAgain : Exchange.ArisesFrom engine arrival route { exchange with attempt } :=
            ⟨arises.built, arises.started⟩
          have paused := follows_of_pause arisesAgain waits (same ▸ notOver) goesOn
          simpa [Action.sent?] using paused
  | overdue arises misses => cases goesOn

end Steps

/-! ## Executions -/

/-- Nobody is passed over: time passes by moves only. -/
def Punctual (happenings : List Happening) : Prop :=
  ∀ instant, .delay instant ∉ happenings

section Executions

variable {engine : Engine} {network : Network} {start : Instant}

/-- What a happening makes of the replies to a request. -/
theorem replyTo?_of_resumed {world : World} {move : Move} {job : Job} {phase : Phase}
    {wake : Instant} (going : world.resumed? move = some (.request job phase wake)) (ticket : Nat) :
    Moment.replyTo? engine ticket ⟨world, .move move⟩ =
      if job.ticket = ticket then
        ((job.action engine world.now phase).sent?.map (world.replyFor engine))
      else none := by
  simp only [Moment.replyTo?, Happening.move?, Option.bind_some, World.attempted?, going]
  cases job.action engine world.now phase <;> simp [Action.sent?]

/-- Without an attempt there is no reply. -/
theorem replyTo?_of_unattempted {world : World} {happening : Happening}
    (unattempted : ∀ move, happening = .move move → world.attempted? engine move = none)
    (ticket : Nat) : Moment.replyTo? engine ticket ⟨world, happening⟩ = none := by
  cases happening with
  | move move => simp [Moment.replyTo?, Happening.move?, unattempted move rfl]
  | delay instant => rfl
  | report key finding => rfl

/-- Nobody has replies before the arrival. -/
theorem repliesTo_of_fresh {happenings : List Happening} {ticket : Nat}
    (fresh : ticket ∉ tickets happenings) :
    (World.initial engine network start).repliesTo engine happenings ticket = [] := by
  induction happenings using List.reverseRecOn with
  | nil => rfl
  | append_singleton before happening inductionHypothesis =>
      have freshBefore : ticket ∉ tickets before := by
        intro known
        rw [tickets_append] at fresh
        exact fresh (List.mem_append_left _ known)
      rw [World.repliesTo_concat, inductionHypothesis freshBefore, List.nil_append]
      cases replied : Moment.replyTo? engine ticket
          ⟨(World.initial engine network start).through engine before, happening⟩ with
      | none => rfl
      | some reply =>
          simp only [Moment.replyTo?] at replied
          split at replied
          · next job exchange made =>
              split at replied
              · next same =>
                  obtain ⟨move, -, attempts⟩ := Option.bind_eq_some_iff.mp made
                  obtain ⟨phase, wake, known, -⟩ := World.mem_tasks_of_attempted attempts
                  have arrived := ticket_of_mem_tasks rfl known
                  rw [same] at arrived
                  exact absurd arrived freshBefore
              · cases replied
          · cases replied

theorem Task.Stands.imp {now later : Instant} {arrivals more : List Arrival}
    {replies others : Nat → List AttemptEnd} {task : Task}
    (stands : task.Stands engine now arrivals replies) (kept : arrivals ⊆ more)
    (same : ∀ job phase wake, task = .request job phase wake → now ≤ wake →
      others job.ticket = replies job.ticket ∧ later ≤ wake) :
    task.Stands engine later more others := by
  intro job phase wake asRequest
  obtain ⟨arrival, arrived, route, admitted, isJob, follows, notOver, byDeadline⟩ :=
    stands job phase wake asRequest
  obtain ⟨sameReplies, stillWaits⟩ := same job phase wake asRequest notOver
  rw [← sameReplies] at follows
  exact ⟨arrival, kept arrived, route, admitted, isJob, follows, stillWaits, byDeadline⟩

section Step

variable {before : List Happening} {world : World}
  (reached : (World.initial engine network start).through engine before = world)
include reached

/-- A request that goes on stands where it has to, and the others stay where they are. -/
theorem stands_of_resumed (distinct : (tickets before).Nodup)
    (known : ∀ task ∈ world.tasks, task.Stands engine world.now
      ((World.initial engine network start).arrivals engine before)
      ((World.initial engine network start).repliesTo engine before))
    {move : Move} {job : Job} {phase : Phase} {wake : Instant}
    (going : world.resumed? move = some (.request job phase wake)) :
    ∀ task ∈ (world.move engine move).tasks, task.Stands engine (world.move engine move).now
      ((World.initial engine network start).arrivals engine (before ++ [.move move]))
      ((World.initial engine network start).repliesTo engine (before ++ [.move move])) := by
  obtain ⟨index, rfl, found, resumes⟩ := World.move_eq_resume engine going
  obtain ⟨arrival, arrived, route, admitted, rfl, follows, notOver, byDeadline⟩ :=
    known _ (List.mem_of_getElem? found) job phase wake rfl
  have ready : wake ≤ world.now :=
    of_decide_eq_true (Option.filter_eq_some_iff.mp going).2
  have atWake : world.now = wake := Int.le_antisymm notOver ready
  have sameNow : (world.move engine (.run index)).now = world.now := World.now_move ..
  have replies (ticket : Nat) := (World.initial engine network start).repliesTo_concat engine before
    (.move (.run index)) ticket
  simp only [reached, replyTo?_of_resumed going] at replies
  obtain ⟨opened, tasks⟩ := (world.without index).tasks_perform engine (arrival.job route)
    ((arrival.job route).action engine (world.without index).now phase)
  intro task member
  rw [resumes, World.resume, World.resumeRequest_eq_perform, tasks] at member
  rw [sameNow]
  rcases List.mem_append.mp member with earlier | probe
  · rcases List.mem_append.mp earlier with kept | next
    · refine (known task (List.mem_of_mem_eraseIdx kept)).imp (World.arrivals_subset_append ..) ?_
      rintro other otherPhase otherWake rfl waits
      have apart := ticket_ne_of_without reached distinct found kept
      rw [replies, if_neg (Ne.symm apart), Option.toList_none, List.append_nil]
      exact ⟨rfl, waits⟩
    · obtain ⟨⟨nextPhase, later⟩, goesOn, rfl⟩ :=
        Option.map_eq_some_iff.mp (Option.mem_toList.mp next)
      intro job phase wake asRequest
      cases asRequest
      refine ⟨arrival, World.arrivals_subset_append _ _ _ _ arrived, route, admitted, rfl, ?_⟩
      rw [replies, if_pos rfl]
      exact follows_of_action follows atWake byDeadline goesOn
  · obtain ⟨backend, -, rfl⟩ := List.mem_map.mp probe
    intro job phase wake asRequest
    cases asRequest

/-- If no request goes on, those under way stay where they are, and one that arrives waits for the
end of its body. -/
theorem stands_of_unattempted {happening : Happening} (punctual : Punctual [happening])
    (distinct : (tickets (before ++ [happening])).Nodup)
    (known : ∀ task ∈ world.tasks, task.Stands engine world.now
      ((World.initial engine network start).arrivals engine before)
      ((World.initial engine network start).repliesTo engine before))
    (still : ∀ move job phase wake, happening = .move move →
      world.resumed? move ≠ some (.request job phase wake)) :
    ∀ task ∈ (world.after engine happening).tasks,
      task.Stands engine (world.after engine happening).now
        ((World.initial engine network start).arrivals engine (before ++ [happening]))
        ((World.initial engine network start).repliesTo engine (before ++ [happening])) := by
  have unattempted : ∀ move, happening = .move move → world.attempted? engine move = none := by
    intro move same
    rw [Option.eq_none_iff_forall_ne_some]
    rintro ⟨job, exchange⟩ attempts
    obtain ⟨phase, wake, going, -⟩ := World.attempted?_eq_some_iff.mp attempts
    exact still move job phase wake same going
  have replies (ticket : Nat) :
      (World.initial engine network start).repliesTo engine (before ++ [happening]) ticket =
        (World.initial engine network start).repliesTo engine before ticket := by
    have silent := replyTo?_of_unattempted unattempted ticket
    rw [World.repliesTo_concat, reached, silent, Option.toList_none, List.append_nil]
  have stays {task : Task} (waits : task ∈ world.tasks)
      (notPassed : ∀ job phase wake, task = .request job phase wake → world.now ≤ wake →
        (world.after engine happening).now ≤ wake) :
      task.Stands engine (world.after engine happening).now
        ((World.initial engine network start).arrivals engine (before ++ [happening]))
        ((World.initial engine network start).repliesTo engine (before ++ [happening])) :=
    (known task waits).imp (World.arrivals_subset_append ..) fun job phase wake same notOver =>
      ⟨replies _, notPassed job phase wake same notOver⟩
  cases happening with
  | delay instant => exact absurd List.mem_cons_self (punctual instant)
  | report key finding =>
      intro task waits
      exact stays waits fun _ _ _ _ notOver => notOver
  | move move =>
      intro task member
      rcases world.mem_tasks_of_move engine member with waits | spawned
      · refine stays waits ?_
        rintro job phase wake rfl notOver
        exact World.now_move_le_wake engine waits notOver move
      · cases spawned with
        | background own =>
            rintro job phase wake rfl
            exact own.elim
        | @arrival ticket head pieces _ served admits =>
            obtain ⟨route, admitted, rfl⟩ := admits
            intro job phase wake same
            cases same
            have arrived := World.mem_arrivals_of_served reached served
            have fresh : ticket ∉ tickets before := by
              have waits : tickets [.move move] = [ticket] := by
                simp [tickets, Happening.ticket?, Happening.move?, ticket?_of_served served]
              rw [tickets_append, waits] at distinct
              exact fun known => (List.nodup_append.mp distinct).2.2 _ known _
                List.mem_cons_self rfl
            have unsent := (replies ticket).trans (repliesTo_of_fresh fresh)
            have sameNow : (world.after engine (.move move)).now = world.now := by
              rw [World.after, World.move_eq_serve engine world served, World.now_serve]
            have bounds := finished_readBody world.now engine.maxBodyBytes route.timeout pieces
            rw [sameNow]
            exact ⟨_, arrived, route, admitted, rfl, .reading unsent, bounds⟩
        | @resumption resumed _ going spawns =>
            cases resumed with
            | request job phase wake => exact absurd going (still move job phase wake rfl)
            | _ =>
                rintro job phase wake rfl
                exact spawns.elim

end Step

/-- In an execution in which nobody is passed over every request under way stands where it has
to. -/
theorem stands_of_reached {happenings : List Happening} {world : World}
    (reached : (World.initial engine network start).through engine happenings = world)
    (distinct : (tickets happenings).Nodup) (punctual : Punctual happenings) :
    ∀ task ∈ world.tasks, task.Stands engine world.now
      ((World.initial engine network start).arrivals engine happenings)
      ((World.initial engine network start).repliesTo engine happenings) := by
  induction happenings using List.reverseRecOn generalizing world with
  | nil =>
      intro task member
      rw [← reached] at member
      cases member
  | append_singleton before happening inductionHypothesis =>
      have apart := distinct
      rw [tickets_append] at apart
      have distinctBefore : (tickets before).Nodup := apart.of_append_left
      have known := inductionHypothesis rfl distinctBefore fun instant member =>
        punctual instant (List.mem_append_left _ member)
      have last : Punctual [happening] := fun instant member =>
        punctual instant (List.mem_append_right _ member)
      rw [World.through_concat] at reached
      rw [← reached]
      by_cases asRequest : ∃ move job phase wake, happening = .move move ∧
          ((World.initial engine network start).through engine before).resumed? move =
            some (.request job phase wake)
      · obtain ⟨move, job, phase, wake, rfl, going⟩ := asRequest
        exact stands_of_resumed rfl distinctBefore known going
      · refine stands_of_unattempted rfl last distinct known ?_
        intro move job phase wake same going
        exact asRequest ⟨move, job, phase, wake, same, going⟩

/-- A request that goes on has arrived, its phase is the one that it has to be in, and its deadline
is not over. -/
theorem follows_of_resumed {happenings : List Happening} {world : World}
    (reached : (World.initial engine network start).through engine happenings = world)
    (distinct : (tickets happenings).Nodup) (punctual : Punctual happenings) {move : Move}
    {job : Job} {phase : Phase} {wake : Instant}
    (going : world.resumed? move = some (.request job phase wake)) :
    ∃ arrival ∈ (World.initial engine network start).arrivals engine happenings, ∃ route,
      engine.dispatch arrival.met.statuses arrival.met.now arrival.head = .ok route ∧
      job = arrival.job route ∧
      phase.Follows engine arrival route
        ((World.initial engine network start).repliesTo engine happenings arrival.ticket)
        world.now ∧
      world.now ≤ arrival.met.now + route.timeout := by
  obtain ⟨index, rfl, found, -⟩ := World.move_eq_resume engine going
  obtain ⟨arrival, arrived, route, admitted, rfl, follows, notOver, byDeadline⟩ :=
    stands_of_reached reached distinct punctual _ (List.mem_of_getElem? found) job phase wake rfl
  have ready : wake ≤ world.now := of_decide_eq_true (Option.filter_eq_some_iff.mp going).2
  have atWake : world.now = wake := Int.le_antisymm notOver ready
  rw [← atWake] at follows byDeadline
  exact ⟨arrival, arrived, route, admitted, rfl, follows, byDeadline⟩

end Executions

end ApiGateway.Engine
