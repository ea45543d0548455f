import ApiGateway.Proofs.Engine.ResponseStatus
import ApiGateway.Proofs.Engine.StatusEvent
import ApiGateway.Proofs.Metrics.Tally
import Mathlib.Algebra.BigOperators.Group.Finset.Piecewise

/-!
# Every request is accounted for once

The counters, the latencies and the circuits are fed by answers only, once each
(`World.Settles`), and whoever arrives is answered once at most. So all of them can
be counted off the requests that arrived and the answers that these were given
(`accounted_exactly_once`), whatever happened in between.
-/

namespace ApiGateway.Engine

open Http (IsStatus Response)

/-! ## What is counted -/

namespace World

/-- The status of the response that somebody was given. -/
def statusFor? (world : World) (ticket : Nat) : Option Nat :=
  (world.answered? ticket).bind fun answer => answer.response.map (·.status)

end World

/-- The status of the response that is given. -/
def Discharge.status? (discharge : Discharge) : Option Nat := discharge.response.map (·.status)

namespace Arrival

/-- A request is bound to a route with a name. -/
def isFor (engine : Engine) (name : String) (arrival : Arrival) : Bool :=
  (engine.boundRoute? arrival.head).any fun route => route.name == name

/-- A request is bound to a backend, and its body is read to the end. -/
def reaches (engine : Engine) (key : String) (arrival : Arrival) : Bool :=
  arrival.completes engine &&
    (engine.boundRoute? arrival.head).any fun route => route.backendKey == key

end Arrival

/-- A request for a backend is under way whose body was not given up. -/
def Task.isUnderWay (key : String) : Task → Bool
  | request job phase _ => phase.isWhole && job.route.backendKey == key
  | _ => false

/-- The outcome that an event records. -/
def StatusEvent.recorded? : StatusEvent → Option (String × Bool)
  | recorded key success => some (key, success)
  | noted _ _ => none

/-- The outcomes that are recorded at a moment. -/
def Moment.recordings (engine : Engine) (moment : Moment) : List (String × Bool) :=
  moment.happening.move?.toList.flatMap fun move =>
    (moment.world.events engine move).filterMap StatusEvent.recorded?

/-- The outcomes that an execution records, each with the key of its backend. -/
def World.recordings (engine : Engine) (world : World) (happenings : List Happening) :
    List (String × Bool) :=
  (world.moments engine happenings).flatMap (Moment.recordings engine)

/-! ## Outcomes are recorded by answers -/

/-- An action records an outcome exactly if it answers, and with that answer. -/
theorem Action.recorded_discharged (engine : Engine) (now : Instant) (job : Job)
    (action : Action) :
    (action.events job).filterMap StatusEvent.recorded? =
      (action.discharged engine now job).filterMap Discharge.recorded := by
  cases action <;> rfl

/-- So does a task that goes on; probes record nothing. -/
theorem Task.recorded_discharged (engine : Engine) (now : Instant) (task : Task) :
    (task.events engine now).filterMap StatusEvent.recorded? =
      (task.discharged engine now).filterMap Discharge.recorded := by
  cases task with
  | request job phase wake => exact Action.recorded_discharged ..
  | round purpose checks =>
      have unrecorded : ((checks.filter fun check => check.due ≤ now).map
          StatusEvent.ofCheck).filterMap StatusEvent.recorded? = [] := by
        simp [List.filterMap_map, StatusEvent.ofCheck, StatusEvent.recorded?, Function.comp_def]
      simp only [events, unrecorded]
      cases purpose with
      | requested ticket =>
          simp only [Task.discharged]
          split <;> rfl
      | _ => rfl
  | _ => rfl

/-- Who is refused on arrival feeds no circuit. -/
theorem Arrival.unrecorded (engine : Engine) (arrival : Arrival) :
    (arrival.discharged engine).filterMap Discharge.recorded = [] := by
  cases dispatched : engine.dispatch arrival.met.statuses arrival.met.now arrival.head with
  | error refusal =>
      simp [Arrival.discharged, dispatched, Discharge.recorded, Arrival.duty, Arrival.completes]
  | ok route => simp [Arrival.discharged, dispatched]

namespace World

variable (engine : Engine) (world : World)

/-- One move records what it answers. -/
theorem recorded_discharged (move : Move) :
    (world.events engine move).filterMap StatusEvent.recorded? =
      (world.discharged engine move).filterMap Discharge.recorded := by
  cases move with
  | run index =>
      simp only [events, discharged]
      cases world.resumed? (.run index) with
      | some task => exact task.recorded_discharged engine world.now
      | none => rfl
  | serve ticket head pieces => exact (Arrival.unrecorded engine ⟨ticket, head, pieces, world⟩).symm
  | arrive ticket head pieces =>
      simp only [discharged]
      split
      · rfl
      · exact (Arrival.unrecorded engine ⟨ticket, head, pieces, world⟩).symm
  | _ => rfl

/-- What an execution records is what its answers say. -/
theorem recordings_eq (happenings : List Happening) :
    world.recordings engine happenings =
      (world.dischargesOf engine happenings).filterMap Discharge.recorded := by
  induction happenings generalizing world with
  | nil => rfl
  | cons happening rest inductionHypothesis =>
      have later := inductionHypothesis (world.after engine happening)
      simp only [recordings, dischargesOf, moments, List.flatMap_cons,
        List.filterMap_append] at later ⊢
      rw [later]
      congr 1
      cases happening with
      | move move =>
          have now := world.recorded_discharged engine move
          simpa [Moment.recordings, Moment.discharged, Happening.move?] using now
      | delay instant => rfl
      | report key finding => rfl

/-! ## Counting duties -/

/-- Duties of one kind that only requests have are counted off the requests. -/
theorem countP_duesOf (kind : Duty → Bool) (ofRequests : ∀ ticket, kind (.plain ticket) = false)
    (happenings : List Happening) :
    (world.duesOf engine happenings).countP kind =
      (world.arrivals engine happenings).countP fun arrival => kind (arrival.duty engine) := by
  induction happenings generalizing world with
  | nil => rfl
  | cons happening rest inductionHypothesis =>
      have later := inductionHypothesis (world.after engine happening)
      have now : (Moment.takenUp engine ⟨world, happening⟩).countP kind =
          (Moment.arrival? ⟨world, happening⟩).toList.countP fun arrival =>
            kind (arrival.duty engine) := by
        cases happening with
        | move move =>
            simp only [Moment.takenUp, Moment.arrival?, Happening.move?, Option.toList_some,
              List.flatMap_singleton, Option.bind_some, takenUp]
            cases served? move with
            | some served => rfl
            | none => cases move.ticket? <;> simp [ofRequests]
        | delay instant => rfl
        | report key finding => rfl
      simp only [duesOf, arrivals] at later ⊢
      rw [moments, List.flatMap_cons, List.countP_append, later, now]
      cases arriving : Moment.arrival? ⟨world, happening⟩ with
      | none => rw [List.filterMap_cons_none arriving]; simp
      | some arrival =>
          rw [List.filterMap_cons_some arriving]
          simp [List.countP_cons, Nat.add_comm]

end World

section Distinct

variable {engine : Engine} {network : Network} {start : Instant} {happenings : List Happening}
  {world : World} (reached : (World.initial engine network start).through engine happenings = world)
  (distinct : (tickets happenings).Nodup)
include reached distinct

/-- Requests of one kind with statuses of one kind are counted off the answers. -/
theorem countP_answered (kind : Duty → Bool) (ofRequests : ∀ ticket, kind (.plain ticket) = false)
    (given : Option Nat → Bool) (unanswered : given none = false) :
    ((World.initial engine network start).arrivals engine happenings).countP
        (fun arrival => kind (arrival.duty engine) && given (world.statusFor? arrival.ticket)) =
      ((World.initial engine network start).dischargesOf engine happenings).countP
        fun discharge => kind discharge.duty && given discharge.status? := by
  let first := World.initial engine network start
  let isGiven (duty : Duty) : Bool := kind duty && given (world.statusFor? duty.ticket)
  have openDuties : world.duties.countP isGiven = 0 := by
    rw [List.countP_eq_zero]
    intro duty waits
    have noStatus : world.statusFor? duty.ticket = none := by
      rw [World.statusFor?, answered?_of_open reached distinct waits]
      rfl
    simp [isGiven, noStatus, unanswered]
  calc (first.arrivals engine happenings).countP (fun arrival => isGiven (arrival.duty engine))
      = (first.duesOf engine happenings).countP isGiven :=
        (first.countP_duesOf engine isGiven (fun ticket => by simp [isGiven, ofRequests])
          happenings).symm
    _ = ((first.dischargesOf engine happenings).map (·.duty)).countP isGiven := by
        rw [← (duties_of_reached reached).countP_eq, List.countP_append, openDuties, Nat.add_zero]
    _ = _ := by
        rw [List.countP_map]
        refine List.countP_congr fun discharge discharged => ?_
        have status : world.statusFor? discharge.duty.ticket = discharge.status? := by
          rw [World.statusFor?, answered?_of_discharged reached distinct discharged]
          rfl
        simp [isGiven, status]

end Distinct

/-! ## Counting observations -/

section Observations

variable {discharges : List Discharge}
  (valid : ∀ discharge ∈ discharges, ∀ response, discharge.response = some response →
    IsStatus response.status)
include valid

/-- A count grows by the answers for its route and with its status. Statuses are those of responses,
so that no two pairs of labels are mixed up. -/
theorem requestCount_foldl {metrics : Metrics} (hasStatuses : metrics.HasStatuses)
    (name : String) (status : Nat) :
    (discharges.foldl Discharge.observe metrics).requestCount name status =
      metrics.requestCount name status + discharges.countP fun discharge =>
        discharge.duty.counted == some name && discharge.status? == some status := by
  induction discharges generalizing metrics with
  | nil => rfl
  | cons discharge rest inductionHypothesis =>
      have validRest := fun other member => valid other (List.mem_cons_of_mem discharge member)
      rw [List.foldl_cons, List.countP_cons]
      cases counted : discharge.duty.counted with
      | none =>
          have same : discharge.observe metrics = metrics := by simp [Discharge.observe, counted]
          simp [same, inductionHypothesis validRest hasStatuses]
      | some route =>
          cases responds : discharge.response with
          | none =>
              have same : discharge.observe metrics = metrics := by
                simp [Discharge.observe, counted, responds]
              simp [same, inductionHypothesis validRest hasStatuses, Discharge.status?, responds]
          | some response =>
              have isStatus := valid discharge List.mem_cons_self response responds
              have observed : discharge.observe metrics =
                  metrics.observe route response.status discharge.latency := by
                simp [Discharge.observe, counted, responds]
              rw [observed, inductionHypothesis validRest (hasStatuses.observe isStatus _ _),
                Metrics.requestCount_observe hasStatuses isStatus]
              simp [Discharge.status?, responds, Nat.add_comm, Nat.add_left_comm, Nat.add_assoc]

omit valid in
/-- The latencies of a route grow by one with every answer for it, whatever its status. -/
theorem latencyCount_foldl (metrics : Metrics) (name : String) :
    (discharges.foldl Discharge.observe metrics).latencyCount name =
      metrics.latencyCount name + discharges.countP fun discharge =>
        discharge.duty.counted == some name && discharge.status?.isSome := by
  induction discharges generalizing metrics with
  | nil => rfl
  | cons discharge rest inductionHypothesis =>
      rw [List.foldl_cons, List.countP_cons, inductionHypothesis]
      cases counted : discharge.duty.counted with
      | none => simp [Discharge.observe, counted]
      | some route =>
          cases responds : discharge.response with
          | none => simp [Discharge.observe, counted, responds, Discharge.status?]
          | some response =>
              have observed : discharge.observe metrics =
                  metrics.observe route response.status discharge.latency := by
                simp [Discharge.observe, counted, responds]
              rw [observed, Metrics.latencyCount_observe]
              simp [Discharge.status?, responds, Nat.add_comm, Nat.add_left_comm, Nat.add_assoc]

/-- Every response has exactly one status. -/
theorem sum_countP_status {bound : Nat} (enough : 1000 ≤ bound) (kind : Discharge → Bool) :
    ∑ status ∈ Finset.range bound, discharges.countP
        (fun discharge => kind discharge && discharge.status? == some status) =
      discharges.countP fun discharge => kind discharge && discharge.status?.isSome := by
  induction discharges with
  | nil => simp
  | cons discharge rest inductionHypothesis =>
      have validRest := fun other member => valid other (List.mem_cons_of_mem discharge member)
      simp only [List.countP_cons, Finset.sum_add_distrib, inductionHypothesis validRest]
      congr 1
      cases responds : discharge.response with
      | none => simp [Discharge.status?, responds]
      | some response =>
          have below : response.status < bound :=
            Nat.lt_of_lt_of_le (valid discharge List.mem_cons_self response responds).2 enough
          cases kind discharge <;> simp [Discharge.status?, responds, below]

end Observations

/-! ## Kinds of duties -/

/-- The end of a request is recorded for a backend. -/
def Duty.feedsFor (key : String) (duty : Duty) : Bool :=
  duty.feeds && duty.route.any fun route => route.backendKey == key

/-- The route that an answer is counted for is the one that the request is bound to. -/
theorem isFor_eq (engine : Engine) (name : String) (arrival : Arrival) :
    ((arrival.duty engine).counted == some name) = arrival.isFor engine name := by
  rw [World.counted_duty, Arrival.isFor]
  cases engine.boundRoute? arrival.head <;> rfl

/-- A request feeds the circuit of its backend if its body is read to the end, which is known when
it arrives. -/
theorem feedsFor_duty (engine : Engine) (key : String) (arrival : Arrival) :
    (arrival.duty engine).feedsFor key = arrival.reaches engine key := by
  simp only [Duty.feedsFor, Arrival.duty, Arrival.reaches]
  cases completes : arrival.completes engine with
  | false => rfl
  | true =>
      simp only [Arrival.completes] at completes
      split at completes
      · cases completes
      · next route admitted =>
          have bound := (dispatch_eq_ok_iff.mp admitted).1
          rw [bound.matched, boundRoute?_eq_some_iff.mpr bound]

/-- The duties that are open for a backend are the requests under way. -/
theorem duties_underWay (key : String) (world : World) :
    world.duties.countP (Duty.feedsFor key) = world.tasks.countP (Task.isUnderWay key) := by
  rw [World.duties, List.countP_filterMap]
  refine List.countP_congr fun task _ => ?_
  cases task with
  | request job phase wake => simp [Task.duty?, Task.isUnderWay, Duty.feedsFor, Job.duty]
  | round purpose checks =>
      cases purpose <;> simp [Task.duty?, Task.isUnderWay, Duty.feedsFor, Duty.plain]
  | _ => simp [Task.duty?, Task.isUnderWay]

/-- An outcome is recorded with the status that is discharged. -/
theorem recorded_eq (discharge : Discharge) (key : String) (success : Bool) :
    (discharge.recorded.map (· == (key, success))).getD false =
      (discharge.duty.feedsFor key &&
        discharge.status?.any fun status => decide (status < 500) == success) := by
  have pair (other : String) (outcome : Bool) :
      ((other, outcome) == (key, success)) = (other == key && outcome == success) := rfl
  obtain ⟨⟨ticket, route, counts, feeds⟩, response, latency⟩ := discharge
  cases feeds <;> cases route <;> cases response <;>
    simp [Discharge.recorded, Duty.feedsFor, Discharge.status?, pair]

/-- Something is recorded for a backend if there is a response at all. -/
theorem recorded_key_eq (discharge : Discharge) (key : String) :
    (discharge.recorded.map (·.1 == key)).getD false =
      (discharge.duty.feedsFor key && discharge.status?.isSome) := by
  obtain ⟨⟨ticket, route, counts, feeds⟩, response, latency⟩ := discharge
  cases feeds <;> cases route <;> cases response <;>
    simp [Discharge.recorded, Duty.feedsFor, Discharge.status?]

/-! ## Executions -/

section Executions

variable {engine : Engine} {network : Network} {start : Instant} {happenings : List Happening}
  {world : World} (reached : (World.initial engine network start).through engine happenings = world)
include reached

section Statuses

variable (valid : network.HasStatuses)
  (proper : ∀ network, .move (.network network) ∈ happenings → network.HasStatuses)
include valid proper

omit reached in
/-- In an execution all responses have a status, if those of the network do. -/
theorem isStatus_of_reached {discharge : Discharge}
    (given : discharge ∈ (World.initial engine network start).dischargesOf engine happenings)
    (response : Response) (responds : discharge.response = some response) :
    IsStatus response.status := by
  have initially : (World.initial engine network start).HasStatuses :=
    ⟨valid, fun task member => by cases member⟩
  exact isStatus_of_dischargesOf initially proper given responds

/-- What is counted after an execution are its answers. -/
theorem requestCount_eq_discharged (name : String) (status : Nat) :
    world.metrics.requestCount name status =
      ((World.initial engine network start).dischargesOf engine happenings).countP
        fun discharge => discharge.duty.counted == some name &&
          discharge.status? == some status := by
  rw [(World.settles_initial reached).metrics]
  exact (requestCount_foldl (fun _ => isStatus_of_reached valid proper)
    Metrics.hasStatuses_empty name status).trans (Nat.zero_add _)

/-- A route has one latency for each request that is counted under any status. -/
theorem latencyCount_eq_sum (name : String) :
    world.metrics.latencyCount name =
      ∑ status ∈ Finset.range (2 ^ 16), world.metrics.requestCount name status := by
  let discharges := (World.initial engine network start).dischargesOf engine happenings
  calc world.metrics.latencyCount name
      = discharges.countP (fun discharge =>
          discharge.duty.counted == some name && discharge.status?.isSome) := by
        rw [(World.settles_initial reached).metrics]
        exact (latencyCount_foldl .empty name).trans (Nat.zero_add _)
    _ = ∑ status ∈ Finset.range (2 ^ 16), discharges.countP (fun discharge =>
          discharge.duty.counted == some name && discharge.status? == some status) :=
        (sum_countP_status (fun _ => isStatus_of_reached valid proper)
          (by decide) fun discharge => discharge.duty.counted == some name).symm
    _ = ∑ status ∈ Finset.range (2 ^ 16), world.metrics.requestCount name status :=
        Finset.sum_congr rfl fun status _ =>
          (requestCount_eq_discharged reached valid proper name status).symm

end Statuses

end Executions

/-- In every execution every request is accounted for once, whatever attempts, timeouts and
failures, probes and pauses there are. A request is counted under the route that mode, path and
method bind it to and under the status that it is answered with, and under nothing else. There
are as many latencies of a route as requests are counted for it. A backend's circuit is fed once
for each request whose body was read to the end, with a success exactly if its answer has a status
below 500, as soon as the request is over. -/
theorem accounted_exactly_once {engine : Engine} {network : Network} {start : Instant}
    {happenings : List Happening} {world : World}
    (reached : (World.initial engine network start).through engine happenings = world)
    (distinct : (tickets happenings).Nodup) (valid : network.HasStatuses)
    (proper : ∀ network, .move (.network network) ∈ happenings → network.HasStatuses) :
    let arrivals := (World.initial engine network start).arrivals engine happenings
    let recordings := (World.initial engine network start).recordings engine happenings
    (∀ name status, world.metrics.requestCount name status =
        arrivals.countP fun arrival =>
          arrival.isFor engine name && world.statusFor? arrival.ticket == some status) ∧
      (∀ name, world.metrics.latencyCount name =
        ∑ status ∈ Finset.range (2 ^ 16), world.metrics.requestCount name status) ∧
      (∀ key success, recordings.count (key, success) =
        arrivals.countP fun arrival => arrival.reaches engine key &&
          (world.statusFor? arrival.ticket).any fun status => decide (status < 500) == success) ∧
      ∀ key, recordings.countP (·.1 == key) + world.tasks.countP (Task.isUnderWay key) =
        arrivals.countP (Arrival.reaches engine key) := by
  intro arrivals recordings
  let discharges := (World.initial engine network start).dischargesOf engine happenings
  have recorded : recordings = discharges.filterMap Discharge.recorded :=
    World.recordings_eq ..
  refine ⟨?_, latencyCount_eq_sum reached valid proper, ?_, ?_⟩
  · intro name status
    have answered := countP_answered reached distinct (fun duty => duty.counted == some name)
      (fun _ => rfl) (fun given => given == some status) rfl
    rw [requestCount_eq_discharged reached valid proper, ← answered]
    simp only [isFor_eq]
    rfl
  · intro key success
    have answered := countP_answered reached distinct (Duty.feedsFor key) (fun _ => rfl)
      (fun given => given.any fun status => decide (status < 500) == success) rfl
    rw [recorded, List.count, List.countP_filterMap]
    simp only [recorded_eq, feedsFor_duty] at answered ⊢
    exact answered.symm
  · intro key
    have responded : recordings.countP (·.1 == key) =
        (discharges.map (·.duty)).countP (Duty.feedsFor key) := by
      rw [recorded, List.countP_filterMap, List.countP_map]
      refine List.countP_congr fun discharge given => ?_
      rw [recorded_key_eq]
      cases routed : discharge.duty.route with
      | none => simp [Duty.feedsFor, routed]
      | some route =>
          obtain ⟨moment, -, move, -, discharges⟩ := World.discharges_of_mem_dischargesOf given
          obtain ⟨response, responds⟩ := discharges.response routed
          simp [Discharge.status?, responds]
    rw [responded, ← duties_underWay, ← List.countP_append,
      (duties_of_reached reached).countP_eq, World.countP_duesOf engine _ _ (fun _ => rfl)]
    simp only [feedsFor_duty]
    rfl

/-! ### One execution -/

/-- A host that fails once and is overloaded from then on. -/
def overloadedNetwork : Network :=
  ⟨[("h", ⟨.accepted, some [⟨0, .failure (.backend "reset")⟩, ⟨0, .response ⟨503, .empty, .empty⟩⟩],
    none⟩)]⟩

/-- Two requests at once: the body of the second breaks off, the first is sent twice. -/
def interleavedRequests : List Happening :=
  [.move (.serve 1 (.get "/a") []), .move (.serve 2 (.get "/b") [.failure "reset"]),
    .move (.run 0), .move (.run 0), .move (.run 0), .move (.advance 100000000),
    .move (.run 0), .move (.run 0)]

/-- The host answers with a status, if at all. -/
theorem hasStatuses_overloadedNetwork : overloadedNetwork.HasStatuses := by
  intro host member
  rw [List.mem_singleton.mp member]
  refine ⟨?_, fun reply none => nomatch none⟩
  intro reply replies response ended
  rcases List.mem_cons.mp replies with rfl | last
  · cases ended
  · rw [List.mem_singleton.mp last] at ended
    cases ended
    exact ⟨by decide, by decide⟩

/-- Two attempts are one request: it is counted once, and its circuit is fed once. -/
theorem accounted_once_with_two_attempts :
    (tickets interleavedRequests).Nodup ∧
      let world := (World.initial retryingGateway overloadedNetwork 0).through retryingGateway
        interleavedRequests
      world.metrics.requestCount "all" 503 = 1 ∧ world.metrics.requestCount "all" 400 = 1 ∧
        ((World.initial retryingGateway overloadedNetwork 0).recordings retryingGateway
          interleavedRequests).count ("http://h/", false) = 1 := by
  have distinct : (tickets interleavedRequests).Nodup := by decide
  have reached : (World.initial retryingGateway overloadedNetwork 0).through retryingGateway
      interleavedRequests = _ := rfl
  obtain ⟨counted, -, recorded, -⟩ := accounted_exactly_once reached distinct
    hasStatuses_overloadedNetwork (fun network member => by simp [interleavedRequests] at member)
  refine ⟨distinct, ?_, ?_, ?_⟩
  · rw [counted]
    decide
  · rw [counted]
    decide
  · rw [recorded]
    decide

end ApiGateway.Engine
