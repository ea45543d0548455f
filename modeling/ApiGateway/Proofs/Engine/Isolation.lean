import ApiGateway.Proofs.Engine.Replay
import ApiGateway.Proofs.Engine.StatusKeys
import ApiGateway.Proofs.Routing.Backends

/-!
# Backends are isolated

Two executions in which the same happens to the requests to a backend give these the
same responses (`responseTo?_eq_of_inputs`), since all that is seen of a lane comes from
its inputs. `isolates_of_build` draws from this that a gateway isolates its backends:
the rest of the gateway does not matter to a request, the requests to other backends
may as well be left out, and only routes with one canonical locator share a status.
-/

namespace ApiGateway.Engine

open Backend (StatusBook)
open Http (Response)

/-! ## Responses -/

/-- The response that somebody was given. -/
def World.responseTo? (world : World) (ticket : Nat) : Option Response :=
  (world.answered? ticket).bind (·.response)

namespace World

variable {engine : Engine} {scope : Scope} {world : World} {happenings : List Happening}

theorem answered_mem_effects_iff {happening : Happening} {ticket : Nat} {response : Response} :
    .answered ticket response ∈ world.effects engine scope happening ↔
      ∃ discharge ∈ Moment.discharged engine ⟨world, happening⟩,
        scope.hasDuty discharge.duty = true ∧ discharge.duty.ticket = ticket ∧
          discharge.response = some response := by
  cases happening with
  | move move =>
      simp only [effects, moveEffects, Moment.discharged, Happening.move?, Option.toList_some,
        List.flatMap_singleton, List.mem_append, List.mem_filterMap, List.mem_filter]
      constructor
      · rintro (attempted | ⟨discharge, ⟨given, ours⟩, same⟩)
        · obtain ⟨made, -, same⟩ := List.mem_map.mp attempted
          cases same
        · obtain ⟨other, responds, same⟩ := Option.map_eq_some_iff.mp same
          cases same
          exact ⟨discharge, given, ours, rfl, responds⟩
      · rintro ⟨discharge, given, ours, rfl, responds⟩
        exact .inr ⟨discharge, ⟨given, ours⟩, by rw [responds]; rfl⟩
  | delay instant => simp [effects, Moment.discharged, Happening.move?]
  | report key finding => simp [effects, Moment.discharged, Happening.move?]

/-- The answers that are seen are those that were owed in the scope. -/
theorem answered_mem_effectsOf_iff {ticket : Nat} {response : Response} :
    (∃ instant, (instant, .answered ticket response) ∈ world.effectsOf engine scope happenings) ↔
      ∃ discharge ∈ world.dischargesOf engine happenings, scope.hasDuty discharge.duty = true ∧
        discharge.duty.ticket = ticket ∧ discharge.response = some response := by
  constructor
  · rintro ⟨instant, seen⟩
    obtain ⟨moment, member, happens⟩ := List.mem_flatMap.mp seen
    obtain ⟨effect, answers, same⟩ := List.mem_map.mp happens
    cases same
    obtain ⟨discharge, given, described⟩ := answered_mem_effects_iff.mp answers
    exact ⟨discharge, List.mem_flatMap.mpr ⟨moment, member, given⟩, described⟩
  · rintro ⟨discharge, given, described⟩
    obtain ⟨moment, member, given⟩ := List.mem_flatMap.mp given
    have answers := answered_mem_effects_iff.mpr ⟨discharge, given, described⟩
    exact ⟨moment.world.now, List.mem_flatMap.mpr ⟨moment, member,
      List.mem_map_of_mem (f := (moment.world.now, ·)) answers⟩⟩

/-- Among the inputs of a move there is an arrival exactly if a request in the scope arrives. -/
theorem arrival_mem_inputs_iff {happening : Happening} {ticket : Nat} {head : Head}
    {pieces : List BodyPiece} :
    .arrival ticket head pieces ∈ world.inputs engine scope happening ↔
      happening.move?.bind served? = some (ticket, head, pieces) ∧
        scope.hasRequest engine ticket head = true := by
  cases happening with
  | move move =>
      simp only [inputs, moveInputs, Happening.move?, Option.bind_some]
      cases arrives : served? move with
      | some served =>
          obtain ⟨other, asked, body⟩ := served
          by_cases ours : scope.hasRequest engine other asked = true
          · simp only [ours, if_true, List.mem_singleton, Lane.Input.arrival.injEq,
              Option.some.injEq, Prod.mk.injEq]
            constructor
            · rintro ⟨rfl, rfl, rfl⟩
              exact ⟨⟨rfl, rfl, rfl⟩, ours⟩
            · rintro ⟨⟨rfl, rfl, rfl⟩, -⟩
              exact ⟨rfl, rfl, rfl⟩
          · simp only [ours, Bool.false_eq_true, if_false, List.not_mem_nil, false_iff,
              Option.some.injEq, Prod.mk.injEq]
            rintro ⟨⟨rfl, rfl, rfl⟩, also⟩
            exact ours also
      | none =>
          cases world.resumed? move with
          | none => simp
          | some task =>
              simp only [reduceCtorEq, false_and, iff_false]
              split <;> simp
  | delay instant => simp [inputs, Happening.move?]
  | report key finding =>
      simp only [inputs, Happening.move?]
      split <;> simp

/-- The arrivals that happen to a lane are those of the requests in the scope. -/
theorem arrival_mem_inputsOf_iff {instant : Instant} {ticket : Nat} {head : Head}
    {pieces : List BodyPiece} :
    (instant, .arrival ticket head pieces) ∈ world.inputsOf engine scope happenings ↔
      ∃ arrival ∈ world.arrivals engine happenings, arrival.isIn engine scope = true ∧
        arrival.met.now = instant ∧ arrival.ticket = ticket ∧ arrival.head = head ∧
          arrival.pieces = pieces := by
  constructor
  · intro happens
    obtain ⟨moment, member, happens⟩ := List.mem_flatMap.mp happens
    obtain ⟨input, arrives, same⟩ := List.mem_map.mp happens
    cases same
    obtain ⟨served, ours⟩ := arrival_mem_inputs_iff.mp arrives
    refine ⟨⟨ticket, head, pieces, moment.world⟩, ?_, ours, rfl, rfl, rfl, rfl⟩
    exact List.mem_filterMap.mpr ⟨moment, member, by rw [Moment.arrival?, served]; rfl⟩
  · rintro ⟨arrival, arrived, ours, rfl, rfl, rfl, rfl⟩
    obtain ⟨moment, member, arrives⟩ := List.mem_filterMap.mp arrived
    obtain ⟨⟨ticket, head, pieces⟩, served, rfl⟩ := Option.map_eq_some_iff.mp arrives
    have happens : .arrival ticket head pieces ∈
        moment.world.inputs engine scope moment.happening :=
      arrival_mem_inputs_iff.mpr ⟨served, ours⟩
    exact List.mem_flatMap.mpr ⟨moment, member,
      List.mem_map_of_mem (f := (moment.world.now, ·)) happens⟩

end World

section Responses

variable {engine : Engine} {network : Network} {start : Instant} {before later : List Happening}
  {met world : World} (since : (World.initial engine network start).through engine before = met)
  (reached : met.through engine later = world) (distinct : (tickets (before ++ later)).Nodup)
  {arrival : Arrival} (arrived : arrival ∈ met.arrivals engine later) {scope : Scope}
  (ours : arrival.isIn engine scope = true)
include since reached distinct arrived ours

/-- Whoever arrives has the response that is seen, and no other. -/
theorem responseTo?_eq_some_iff {response : Response} :
    world.responseTo? arrival.ticket = some response ↔
      ∃ instant, (instant, .answered arrival.ticket response) ∈
        met.effectsOf engine scope later := by
  let first := World.initial engine network start
  have whole : first.through engine (before ++ later) = world := by
    rw [World.through_append, since, reached]
  have discharges : first.dischargesOf engine (before ++ later) =
      first.dischargesOf engine before ++ met.dischargesOf engine later := by
    rw [World.dischargesOf, World.moments_append, List.flatMap_append, since]
    rfl
  have dues : first.duesOf engine (before ++ later) =
      first.duesOf engine before ++ met.duesOf engine later := by
    rw [World.duesOf, World.moments_append, List.flatMap_append, since]
    rfl
  have taken := World.duty_mem_duesOf arrived
  rw [World.answered_mem_effectsOf_iff]
  constructor
  · intro responds
    obtain ⟨answer, answered, responds⟩ := Option.bind_eq_some_iff.mp responds
    have isTicket : answer.ticket = arrival.ticket := by simpa using List.find?_some answered
    have given := List.mem_of_find?_eq_some answered
    rw [answers_of_reached whole] at given
    obtain ⟨discharge, discharged, rfl⟩ := List.mem_map.mp given
    have alsoTaken := (duties_of_reached whole).mem_iff.mp
      (List.mem_append_left _ (List.mem_map_of_mem discharged))
    have same : discharge.duty = arrival.duty engine := by
      refine duty_unique distinct alsoTaken ?_ isTicket
      rw [dues]
      exact List.mem_append_right _ taken
    rw [discharges] at discharged
    rcases List.mem_append.mp discharged with early | late
    · have known : discharge.duty.ticket ∈ tickets before := by
        have dueBefore := (duties_of_reached since).mem_iff.mp
          (List.mem_append_left _ (List.mem_map_of_mem early))
        rw [← World.tickets_duesOf engine first]
        exact List.mem_map_of_mem (f := fun duty : Duty => duty.ticket) dueBefore
      have new : arrival.ticket ∈ tickets later :=
        (met.tickets_arrivals engine later).subset (List.mem_map_of_mem arrived)
      rw [tickets_append] at distinct
      exact absurd isTicket ((List.nodup_append.mp distinct).2.2 _ known _ new)
    · exact ⟨discharge, late, by rw [same]; exact ours, isTicket, responds⟩
  · rintro ⟨discharge, given, -, isTicket, responds⟩
    have answered := answered?_of_discharged whole distinct
      (discharges ▸ List.mem_append_right _ given)
    rw [World.responseTo?, ← isTicket, answered]
    exact responds

end Responses

/-! ## Two executions -/

section TwoExecutions

variable {engine : Engine} {scope : Scope}

variable {network otherNetwork : Network} {start otherStart : Instant}
  {before later otherBefore otherLater : List Happening} {met otherMet : World}
  (since : (World.initial engine network start).through engine before = met)
  (otherSince :
    (World.initial engine otherNetwork otherStart).through engine otherBefore = otherMet)
  (distinct : (tickets (before ++ later)).Nodup)
  (otherDistinct : (tickets (otherBefore ++ otherLater)).Nodup)
  (sameInputs : met.inputsOf engine scope later = otherMet.inputsOf engine scope otherLater)
  {arrival : Arrival} (arrived : arrival ∈ met.arrivals engine later)
  (ours : arrival.isIn engine scope = true)
include sameInputs arrived ours

/-- Executions that do the same to a lane have the same requests in its scope. -/
theorem exists_arrival_of_inputs : ∃ other ∈ otherMet.arrivals engine otherLater,
    other.isIn engine scope = true ∧ other.ticket = arrival.ticket := by
  have happens := World.arrival_mem_inputsOf_iff.mpr ⟨arrival, arrived, ours, rfl, rfl, rfl, rfl⟩
  rw [sameInputs] at happens
  obtain ⟨other, alsoArrived, alsoOurs, -, isTicket, -⟩ :=
    World.arrival_mem_inputsOf_iff.mp happens
  exact ⟨other, alsoArrived, alsoOurs, isTicket⟩

include since otherSince distinct otherDistinct in
/-- Executions that do the same to a lane give the same responses in its scope. -/
theorem responseTo?_eq_of_inputs (sameLane : met.lane scope = otherMet.lane scope) :
    (met.through engine later).responseTo? arrival.ticket =
      (otherMet.through engine otherLater).responseTo? arrival.ticket := by
  obtain ⟨other, alsoArrived, alsoOurs, isTicket⟩ :=
    exists_arrival_of_inputs sameInputs arrived ours
  have sameEffects := (lane_eq_of_inputs sameLane sameInputs).1
  ext response
  have alsoSeen : (otherMet.through engine otherLater).responseTo? other.ticket = some response ↔
      _ := responseTo?_eq_some_iff otherSince rfl otherDistinct alsoArrived alsoOurs
  rw [isTicket, ← sameEffects] at alsoSeen
  rw [alsoSeen]
  exact responseTo?_eq_some_iff since rfl distinct arrived ours

end TwoExecutions

/-! ## The other backends -/

/-- At a moment a request to a backend is handled, or at most time passes and the network
changes. -/
inductive Moment.Handles (engine : Engine) (key : String) (moment : Moment) : Prop where
  /-- The request arrives. -/
  | arrival {move : Move} {ticket : Nat} {head : Head} {pieces : List BodyPiece}
      (happens : moment.happening = .move move)
      (served : World.served? move = some (ticket, head, pieces))
      (ours : (Scope.all key).hasRequest engine ticket head = true)
  /-- The request goes on. -/
  | turn {move : Move} {task : Task} (happens : moment.happening = .move move)
      (going : moment.world.resumed? move = some task)
      (ours : (Scope.all key).hasTask task = true)
  | advance {instant : Instant} (happens : moment.happening = .move (.advance instant))
  | delay {instant : Instant} (happens : moment.happening = .delay instant)
  | network {network : Network} (happens : moment.happening = .move (.network network))

section Others

variable {engine : Engine} {key other : String}

/-- Events that are not about a backend leave its status alone. -/
theorem get?_move_of_events {world : World} {move : Move}
    (elsewhere : ∀ event ∈ world.events engine move, event.key ≠ other) :
    (world.move engine move).statuses.get? other = world.statuses.get? other := by
  have none : (world.events engine move).filter (·.key == other) = [] := by
    rw [List.filter_eq_nil_iff]
    intro event member
    simpa using elsewhere event member
  rw [World.statuses_move, StatusEvent.get?_foldl_apply, none]
  rfl

theorem get?_after_of_handles {world : World} {happening : Happening}
    (handles : Moment.Handles engine key ⟨world, happening⟩) (different : other ≠ key) :
    (world.after engine happening).statuses.get? other = world.statuses.get? other := by
  have idle {move : Move} (none : world.resumed? move = none) :
      (world.move engine move).statuses.get? other = world.statuses.get? other := by
    refine get?_move_of_events fun event member => ?_
    rw [World.events, none] at member
    cases member
  cases handles with
  | arrival happens served ours =>
      cases happens
      exact idle (World.resumed?_of_served served)
  | @turn move task happens going ours =>
      cases happens
      refine get?_move_of_events fun event member => ?_
      rw [World.events, going] at member
      cases task with
      | request job phase wake =>
          have same : job.route.backendKey = key := by
            simpa [Scope.hasTask, Scope.has, Scope.all] using ours
          simp only [Task.events, Action.events] at member
          split at member
          · rw [List.mem_singleton.mp member, StatusEvent.key, same]
            exact Ne.symm different
          · cases member
      | _ => cases ours
  | advance happens =>
      cases happens
      exact idle rfl
  | delay happens =>
      cases happens
      simp only [World.after]
      split <;> rfl
  | network happens =>
      cases happens
      exact idle rfl

/-- Requests to one backend leave the statuses of all others alone. -/
theorem get?_through_of_handles {world : World} {happenings : List Happening}
    (handles : ∀ moment ∈ world.moments engine happenings, moment.Handles engine key)
    (different : other ≠ key) :
    (world.through engine happenings).statuses.get? other = world.statuses.get? other := by
  induction happenings generalizing world with
  | nil => rfl
  | cons happening rest inductionHypothesis =>
      have now := get?_after_of_handles (handles _ List.mem_cons_self) different
      have later := inductionHypothesis fun moment member =>
        handles moment (List.mem_cons_of_mem _ member)
      exact later.trans now

end Others

/-! ## Isolation -/

/-- The backends of a gateway are isolated from one another. -/
structure Isolates (engine : Engine) : Prop where
  /-- What becomes of a request in two executions is the same if the status of its backend is
  when it arrives, and if the same happens to the request: it arrives and goes on at the same
  instants, its attempts have the same replies, and others do the same to the status. -/
  alike : ∀ {key : String} {network otherNetwork : Network} {start otherStart : Instant}
    {before later otherBefore otherLater : List Happening} {met otherMet : World},
    (World.initial engine network start).through engine before = met →
    (World.initial engine otherNetwork otherStart).through engine otherBefore = otherMet →
    (tickets (before ++ later)).Nodup → (tickets (otherBefore ++ otherLater)).Nodup →
    met.statuses.get? key = otherMet.statuses.get? key →
    ∀ arrival ∈ met.arrivals engine later,
      arrival.isIn engine (.one key arrival.ticket) = true →
      met.inputsOf engine (.one key arrival.ticket) later =
        otherMet.inputsOf engine (.one key arrival.ticket) otherLater →
      (met.through engine later).responseTo? arrival.ticket =
          (otherMet.through engine otherLater).responseTo? arrival.ticket ∧
        met.effectsOf engine (.one key arrival.ticket) later =
          otherMet.effectsOf engine (.one key arrival.ticket) otherLater ∧
        (met.through engine later).statuses.get? key =
          (otherMet.through engine otherLater).statuses.get? key
  /-- Handling requests to a backend leaves the statuses of all others as they were. -/
  apart : ∀ {key other : String} {world : World} {happenings : List Happening}, other ≠ key →
    (∀ moment ∈ world.moments engine happenings, moment.Handles engine key) →
    (world.through engine happenings).statuses.get? other = world.statuses.get? other
  /-- In two executions in which the same happens to the requests to a backend these get the same
  responses, whatever other requests there are. -/
  undisturbed : ∀ {key : String} {network otherNetwork : Network} {start : Instant}
    {happenings others : List Happening},
    (tickets happenings).Nodup → (tickets others).Nodup →
    (World.initial engine network start).inputsOf engine (.all key) happenings =
      (World.initial engine otherNetwork start).inputsOf engine (.all key) others →
    ∀ arrival ∈ (World.initial engine network start).arrivals engine happenings,
      arrival.isIn engine (.all key) = true →
      ((World.initial engine network start).through engine happenings).responseTo?
          arrival.ticket =
        ((World.initial engine otherNetwork start).through engine others).responseTo?
          arrival.ticket
  /-- For every execution there is one without all other requests, in which the same happens to
  those to the backend: they do the same, they get the same responses, and they leave the same
  status. -/
  alone : ∀ {key : String} {network : Network} {start : Instant} {happenings : List Happening},
    (tickets happenings).Nodup → ∃ alone : List Happening,
      let first := World.initial engine network start
      tickets alone = ticketsIn engine (.all key) (first.arrivals engine happenings) ∧
      first.inputsOf engine (.all key) alone = first.inputsOf engine (.all key) happenings ∧
      first.effectsOf engine (.all key) alone = first.effectsOf engine (.all key) happenings ∧
      (first.through engine alone).statuses.get? key =
        (first.through engine happenings).statuses.get? key ∧
      ∀ arrival ∈ first.arrivals engine happenings, arrival.isIn engine (.all key) = true →
        (first.through engine alone).responseTo? arrival.ticket =
          (first.through engine happenings).responseTo? arrival.ticket
  /-- There is one status for each canonical locator, and routes share it exactly if their locators
  have one canonical text. -/
  shared : ∀ {network : Network} {start : Instant} {world : World},
    Steps engine (.initial engine network start) world →
    world.statuses.keys.Nodup ∧
      (∀ text, text ∈ world.statuses.keys ↔
        ∃ route ∈ engine.table.routes, route.target.text = text) ∧
      ∀ route ∈ engine.table.routes,
        (∃ status, world.statuses.entries[world.statuses.slot route.backendKey]? =
            some (route.target.text, status) ∧
          world.statuses.get? route.backendKey = some status) ∧
        ∀ other ∈ engine.table.routes,
          world.statuses.slot route.backendKey = world.statuses.slot other.backendKey ↔
            route.target.text = other.target.text

/-- Before a request arrives its lane is the status of its backend. -/
theorem lane_of_fresh {engine : Engine} {network : Network} {start : Instant}
    {before : List Happening} {met : World} {key : String} {ticket : Nat}
    (since : (World.initial engine network start).through engine before = met)
    (fresh : ticket ∉ tickets before) :
    met.lane (.one key ticket) = ⟨met.statuses.get? key, []⟩ := by
  have unknown : met.tasks.filter (Scope.one key ticket).hasTask = [] := by
    rw [List.filter_eq_nil_iff]
    intro task known ours
    cases task with
    | request job phase wake =>
        have same : job.ticket = ticket := by
          simp only [Scope.hasTask, Scope.has, Scope.one, Bool.and_eq_true, beq_iff_eq] at ours
          exact ours.1
        exact fresh (same ▸ ticket_of_mem_tasks since known)
    | _ => cases ours
  rw [World.lane, unknown]
  rfl

/-- Every gateway isolates its backends. What the gateway does for a request depends on nothing that
belongs to another backend, and handling it changes nothing there; so the requests to a backend
may be taken out of an execution, and they fare the same alone. The backends are told apart by
their canonical locators and by nothing else. -/
theorem isolates_of_build {definitions : List Routing.Definition} {defaultTimeout : Duration}
    {engine : Engine} {shadowings : List Routing.Shadowing}
    (built : Routing.Table.build definitions defaultTimeout = .ok (engine.table, shadowings)) :
    Isolates engine where
  alike := by
    intro key network otherNetwork start otherStart before later otherBefore otherLater met otherMet
      since otherSince distinct otherDistinct sameStatus arrival arrived ours sameInputs
    obtain ⟨other, alsoArrived, -, isTicket⟩ := exists_arrival_of_inputs sameInputs arrived ours
    have arrives {world : World} {happenings : List Happening} {arrival : Arrival}
        (arrived : arrival ∈ world.arrivals engine happenings) :
        arrival.ticket ∈ tickets happenings :=
      (world.tickets_arrivals engine happenings).subset (List.mem_map_of_mem arrived)
    have fresh : arrival.ticket ∉ tickets before := by
      rw [tickets_append] at distinct
      exact fun known => (List.nodup_append.mp distinct).2.2 _ known _ (arrives arrived) rfl
    have alsoFresh : arrival.ticket ∉ tickets otherBefore := by
      rw [tickets_append] at otherDistinct
      exact fun known =>
        (List.nodup_append.mp otherDistinct).2.2 _ known _ (arrives alsoArrived) isTicket.symm
    have sameLane : met.lane (.one key arrival.ticket) =
        otherMet.lane (.one key arrival.ticket) := by
      rw [lane_of_fresh since fresh, lane_of_fresh otherSince alsoFresh, sameStatus]
    obtain ⟨sameEffects, sameEnd⟩ := lane_eq_of_inputs sameLane sameInputs
    exact ⟨responseTo?_eq_of_inputs since otherSince distinct otherDistinct sameInputs arrived ours
      sameLane, sameEffects, congrArg Lane.status sameEnd⟩
  apart different handles := get?_through_of_handles handles different
  undisturbed := by
    intro key network otherNetwork start happenings others distinct otherDistinct sameInputs arrival
      arrived ours
    have since (network : Network) : (World.initial engine network start).through engine [] =
        .initial engine network start := rfl
    exact responseTo?_eq_of_inputs (since network) (since otherNetwork) distinct otherDistinct
      sameInputs arrived ours rfl
  alone := by
    intro key network start happenings distinct
    obtain ⟨alone, sameInputs, -, isAlone⟩ := exists_alone engine network start key happenings
    have distinctAlone : (tickets alone).Nodup := by
      rw [isAlone]
      exact distinct.sublist ((List.filter_sublist.map _).trans (World.tickets_arrivals ..))
    obtain ⟨sameEffects, sameEnd⟩ := lane_eq_of_inputs rfl sameInputs
    refine ⟨alone, isAlone, sameInputs, sameEffects, congrArg Lane.status sameEnd, ?_⟩
    intro arrival arrived ours
    have since : (World.initial engine network start).through engine [] =
        .initial engine network start := rfl
    exact (responseTo?_eq_of_inputs since since distinct distinctAlone sameInputs.symm arrived ours
      rfl).symm
  shared := by
    intro network start world reached
    have keys : world.statuses.keys = engine.table.backends.map Backend.key :=
      reached.keys.trans (keys_initial ..)
    have known (text : String) : text ∈ world.statuses.keys ↔
        ∃ route ∈ engine.table.routes, route.target.text = text := by
      rw [keys]
      exact Routing.Table.mem_keys_build_iff built
    refine ⟨keys ▸ Routing.Table.nodup_keys_build built, known, fun route member => ?_⟩
    have present := (known route.backendKey).mpr ⟨route, member, rfl⟩
    refine ⟨?_, fun other _ => List.idxOf_inj present⟩
    have found : world.statuses.keys[world.statuses.slot route.backendKey]? =
        some route.backendKey := List.getElem?_idxOf present
    rw [StatusBook.keys, List.getElem?_map] at found
    obtain ⟨⟨text, status⟩, entry, same⟩ := Option.map_eq_some_iff.mp found
    obtain rfl : text = route.target.text := same
    refine ⟨status, entry, ?_⟩
    rw [StatusBook.get?_eq_slot, entry]
    rfl

/-! ### Two backends -/

/-- Two definitions with a backend each. -/
def pairedDefinitions : List Routing.Definition :=
  [{ name := "a", pathPrefix := "/a", target := "http://h" },
    { name := "b", pathPrefix := "/b", target := "http://g" }]

/-- The locator `http://g/`. -/
def otherTarget : Url := ⟨"http", some ⟨"", "g", none⟩, "/", none, none⟩

/-- The gateway in front of the backends of `pairedDefinitions`. -/
def pairedGateway : Engine :=
  { ofRoute rootRoute with
    table := ⟨[{ rootRoute with name := "a", pathPrefix := "/a" },
        { rootRoute with name := "b", pathPrefix := "/b", target := otherTarget }],
      [⟨otherTarget, Routing.defaultHealthPath⟩, ⟨plainTarget, Routing.defaultHealthPath⟩]⟩ }

/-- One host answers and the other one fails. -/
def unevenNetwork : Network :=
  ⟨[("h", ⟨.accepted, some [⟨0, .response ⟨200, .empty, .empty⟩⟩], none⟩),
    ("g", ⟨.accepted, some [⟨0, .failure (.backend "reset")⟩], none⟩)]⟩

/-- Three requests to the host that fails. -/
def failingRequests : List Happening :=
  [.move (.serve 1 (.get "/b") []), .move (.run 0), .move (.run 0),
    .move (.serve 2 (.get "/b") []), .move (.run 0), .move (.run 0),
    .move (.serve 3 (.get "/b") []), .move (.run 0), .move (.run 0)]

/-- A request to the host that answers, with the position of its task. -/
def answeredRequest (index : Nat) : List Happening :=
  [.move (.serve 9 (.get "/a") []), .move (.run index), .move (.run index)]

/-- The gateway before any request. -/
def World.unevenStart : World := .initial pairedGateway unevenNetwork 0

/-- The circuit of one of the backends is open. -/
def World.unevenlyOpened : World := World.unevenStart.through pairedGateway failingRequests

/-- One circuit opens, and a request to the other backend fares as if nothing had happened. -/
theorem isolates_pairedGateway :
    Routing.Table.build pairedDefinitions (.ofSeconds 10) = .ok (pairedGateway.table, []) ∧
      World.unevenlyOpened.statuses.get? "http://g/" ≠
        World.unevenStart.statuses.get? "http://g/" ∧
      ((World.unevenlyOpened.through pairedGateway (answeredRequest 1)).responseTo? 9).map
        (·.status) = some 200 := by
  have built : Routing.Table.build pairedDefinitions (.ofSeconds 10) =
      .ok (pairedGateway.table, []) :=
    Routing.Table.build_of_draft (by decide +kernel) (by decide +kernel)
  have since : World.unevenStart.through pairedGateway failingRequests = World.unevenlyOpened := rfl
  have alsoSince : World.unevenStart.through pairedGateway [] = World.unevenStart := rfl
  let arrival : Arrival := ⟨9, .get "/a", [], World.unevenlyOpened⟩
  have arrived : arrival ∈
      World.unevenlyOpened.arrivals pairedGateway (answeredRequest 1) :=
    List.mem_filterMap.mpr ⟨⟨World.unevenlyOpened, _⟩, List.mem_cons_self, rfl⟩
  have sameStatus : World.unevenlyOpened.statuses.get? "http://h/" =
      World.unevenStart.statuses.get? "http://h/" := by decide +kernel
  have sameInputs :
      World.unevenlyOpened.inputsOf pairedGateway (.one "http://h/" 9) (answeredRequest 1) =
        World.unevenStart.inputsOf pairedGateway (.one "http://h/" 9) (answeredRequest 0) := by
    decide +kernel
  obtain ⟨sameResponse, -, -⟩ := (isolates_of_build built).alike since alsoSince
    (by decide +kernel) (by decide +kernel) sameStatus arrival arrived (by decide +kernel)
    sameInputs
  refine ⟨built, by decide +kernel, ?_⟩
  rw [sameResponse]
  decide +kernel

end ApiGateway.Engine
