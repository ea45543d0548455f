import ApiGateway.Proofs.Engine.Lane
import Mathlib.Data.List.Induction

/-!
# Requests to one backend, alone

What happens to the requests to a backend in an execution can happen to them without
any other request: they arrive and go on at the same instants, the network is supplied
with the same replies, and what probes found is reported from outside. `exists_alone`
builds this execution along the given one, input by input.
-/

namespace ApiGateway.Engine

/-- The arrival of a request in a scope. -/
def Arrival.isIn (engine : Engine) (scope : Scope) (arrival : Arrival) : Bool :=
  scope.hasRequest engine arrival.ticket arrival.head

/-- The tickets of the requests in a scope. -/
def ticketsIn (engine : Engine) (scope : Scope) (arrivals : List Arrival) : List Nat :=
  (arrivals.filter (Arrival.isIn engine scope)).map (·.ticket)

section Alone

variable {engine : Engine} {key : String} {world alone : World}

theorem filter_ofCheck (checks : List Health.Check) :
    (checks.map StatusEvent.ofCheck).filter (·.key == key) =
      ((checks.filter (·.backend.key == key)).map (·.finding)).map (.noted key) := by
  rw [List.filter_map, List.map_map]
  refine List.map_congr_left fun check member => ?_
  have same : check.backend.key = key := beq_iff_eq.mp (List.mem_filter.mp member).2
  rw [StatusEvent.ofCheck, same]
  rfl

/-- What a task outside the scope changes of the status is what probes found. -/
theorem exists_findings (engine : Engine) {task : Task}
    (outside : (Scope.all key).hasTask task = false) (now : Instant) :
    ∃ findings : List Health.Finding,
      (task.events engine now).filter (·.key == key) = findings.map (.noted key) := by
  cases task with
  | request job phase wake =>
      have elsewhere : (job.route.backendKey == key) = false := outside
      refine ⟨[], List.filter_eq_nil_iff.mpr fun event member => ?_⟩
      simp only [Task.events, Action.events] at member
      split at member
      · rw [List.mem_singleton.mp member, StatusEvent.key, elsewhere]
        exact Bool.false_ne_true
      · cases member
  | probe check => exact ⟨_, filter_ofCheck [check]⟩
  | round purpose checks => exact ⟨_, filter_ofCheck (checks.filter fun check => check.due ≤ now)⟩
  | _ => exact ⟨[], rfl⟩

/-- Without any other request some happenings bring inputs and tickets to a lane, at one instant. -/
structure Replays (engine : Engine) (key : String) (world : World) (inputs : List Lane.Input)
    (brought : List Nat) (happenings : List Happening) : Prop where
  inputs : world.inputsOf engine (.all key) happenings = inputs.map (world.now, ·)
  clock : (world.through engine happenings).now = world.now
  tickets : tickets happenings = brought

theorem Replays.nil : Replays engine key world [] [] [] := ⟨rfl, rfl, rfl⟩

theorem replays_serve {ticket : Nat} {head : Head}
    (inScope : (Scope.all key).hasRequest engine ticket head = true) (pieces : List BodyPiece) :
    Replays engine key world [.arrival ticket head pieces] [ticket]
      [.move (.serve ticket head pieces)] where
  inputs := by
    have served : World.served? (.serve ticket head pieces) = some (ticket, head, pieces) := rfl
    rw [World.inputsOf_cons, World.inputs, World.moveInputs, served]
    simp only [inScope, if_true]
    rfl
  clock := world.now_serve engine ticket head pieces
  tickets := rfl

/-- Findings can be reported from outside as well. -/
theorem replays_reports (findings : List Health.Finding) (world : World) :
    Replays engine key world (findings.map fun finding => .told (.noted key finding)) []
      (findings.map (.report key)) := by
  induction findings generalizing world with
  | nil => exact .nil
  | cons finding rest inductionHypothesis =>
      obtain ⟨inputs, clock, silent⟩ :=
        inductionHypothesis (world.after engine (.report key finding))
      refine ⟨?_, clock, silent⟩
      rw [List.map_cons, World.inputsOf_cons, inputs]
      simp [World.inputs, Scope.all, World.after]

/-- A request that has its turn in one world has it in another one with the same lane, and with
the same network it has the same reply. -/
theorem exists_replay_turn (sameNow : alone.now = world.now)
    (sameLane : alone.lane (.all key) = world.lane (.all key)) {move : Move} {job : Job}
    {phase : Phase} {wake : Instant}
    (going : world.resumed? move = some (.request job phase wake))
    (ours : (Scope.all key).hasTask (.request job phase wake) = true) :
    ∃ index, Replays engine key alone
      [.turn (world.positionOf (.all key) move)
        (world.turnReply engine (.request job phase wake))] []
      [.move (.network world.network), .move (.run index)] := by
  obtain ⟨position, rfl, found, -⟩ := World.move_eq_resume engine going
  have ready : wake ≤ world.now := of_decide_eq_true (Option.filter_eq_some_iff.mp going).2
  have inLane : (alone.lane (.all key)).requests[world.positionOf (.all key) (.run position)]? =
      some (.request job phase wake) := by
    rw [sameLane]
    exact List.getElem?_filter_countP found ours
  obtain ⟨index, foundAlone, samePosition⟩ := List.exists_getElem?_of_filter inLane
  let supplied : World := { alone with network := world.network }
  have clock : supplied.now = world.now := sameNow
  have goesOn : supplied.resumed? (.run index) = some (.request job phase wake) := by
    have readyAlone : wake ≤ alone.now := sameNow ▸ ready
    simp [World.resumed?, supplied, foundAlone, World.isReady, World.wakeOf, readyAlone]
  have sameReply : supplied.turnReply engine (.request job phase wake) =
      world.turnReply engine (.request job phase wake) := by
    simp only [World.turnReply, clock]
    cases job.action engine world.now phase with
    | send exchange =>
        rw [World.reply?, World.delivery, clock]
        rfl
    | _ => rfl
  have inputs : supplied.inputs engine (.all key) (.move (.run index)) =
      [.turn (world.positionOf (.all key) (.run position))
        (world.turnReply engine (.request job phase wake))] := by
    simp only [World.inputs, World.moveInputs, World.served?, goesOn, ours, if_true, sameReply]
    rw [← samePosition]
    rfl
  have supplies : alone.after engine (.move (.network world.network)) = supplied := rfl
  refine ⟨index, ?_, ?_, rfl⟩
  · rw [World.inputsOf_cons, World.inputsOf_cons, supplies, inputs]
    rfl
  · have still : (supplied.move engine (.run index)).now = supplied.now := World.now_move ..
    exact still

/-- What happens to a lane happens to the same lane elsewhere without any other request. -/
theorem exists_replay_move (sameNow : alone.now = world.now)
    (sameLane : alone.lane (.all key) = world.lane (.all key)) (move : Move) :
    ∃ happenings, Replays engine key alone (world.moveInputs engine (.all key) move)
      (ticketsIn engine (.all key) (Moment.arrival? ⟨world, .move move⟩).toList) happenings := by
  simp only [World.moveInputs, Moment.arrival?, Happening.move?, Option.bind_some]
  cases arrives : World.served? move with
  | some served =>
      obtain ⟨ticket, head, pieces⟩ := served
      cases inScope : (Scope.all key).hasRequest engine ticket head with
      | true =>
          refine ⟨[.move (.serve ticket head pieces)], ?_⟩
          simpa [ticketsIn, Arrival.isIn, inScope] using replays_serve inScope pieces
      | false =>
          refine ⟨[], ?_⟩
          simpa [ticketsIn, Arrival.isIn, inScope] using Replays.nil
  | none =>
      cases going : world.resumed? move with
      | none => exact ⟨[], .nil⟩
      | some task =>
          cases inScope : (Scope.all key).hasTask task with
          | true =>
              cases task with
              | request job phase wake =>
                  obtain ⟨index, replays⟩ := exists_replay_turn sameNow sameLane going inScope
                  simp only [inScope, if_true]
                  exact ⟨_, replays⟩
              | _ => cases inScope
          | false =>
              obtain ⟨findings, events⟩ := exists_findings engine inScope world.now
              have same : (Scope.all key).key = key := rfl
              refine ⟨findings.map (.report key), ?_⟩
              simp only [inScope, Bool.false_eq_true, if_false, same]
              rw [events, List.map_map]
              exact replays_reports findings alone

theorem exists_replay (sameNow : alone.now = world.now)
    (sameLane : alone.lane (.all key) = world.lane (.all key)) (happening : Happening) :
    ∃ happenings, Replays engine key alone (world.inputs engine (.all key) happening)
      (ticketsIn engine (.all key) (Moment.arrival? ⟨world, happening⟩).toList) happenings := by
  cases happening with
  | move move => exact exists_replay_move sameNow sameLane move
  | delay instant => exact ⟨[], .nil⟩
  | report other finding =>
      by_cases about : other = key
      · subst about
        refine ⟨[.report other finding], ?_⟩
        simp only [World.inputs, Scope.all, if_true]
        exact replays_reports [finding] alone
      · refine ⟨[], ?_⟩
        have same : (Scope.all key).key = key := rfl
        simp only [World.inputs, same, about, if_false]
        exact .nil

end Alone

/-- For every execution there is one in which the same happens to the requests to a backend, at the
same instants, and nobody else ever waits for an answer. -/
theorem exists_alone (engine : Engine) (network : Network) (start : Instant) (key : String)
    (happenings : List Happening) : ∃ alone : List Happening,
      (World.initial engine network start).inputsOf engine (.all key) alone =
          (World.initial engine network start).inputsOf engine (.all key) happenings ∧
        ((World.initial engine network start).through engine alone).now =
          ((World.initial engine network start).through engine happenings).now ∧
        tickets alone = ticketsIn engine (.all key)
          ((World.initial engine network start).arrivals engine happenings) := by
  let first := World.initial engine network start
  induction happenings using List.reverseRecOn with
  | nil => exact ⟨[], rfl, rfl, rfl⟩
  | append_singleton before happening inductionHypothesis =>
      obtain ⟨alone, sameInputs, sameNow, sameTickets⟩ := inductionHypothesis
      let world := first.through engine before
      let mimic := first.through engine alone
      let later := (world.after engine happening).now
      have sameLane : mimic.lane (.all key) = world.lane (.all key) :=
        (lane_eq_of_inputs rfl sameInputs).2
      obtain ⟨more, replays⟩ := exists_replay sameNow sameLane happening
      have reaches : (first.through engine (alone ++ more)).now = world.now := by
        rw [World.through_append, replays.clock]
        exact sameNow
      refine ⟨alone ++ more ++ [.delay later], ?_, ?_, ?_⟩
      · have waits : (first.through engine (alone ++ more)).inputsOf engine (.all key)
            [.delay later] = [] := rfl
        rw [World.inputsOf_append, waits, List.append_nil, World.inputsOf_append, replays.inputs,
          World.inputsOf_append, sameInputs, sameNow]
        exact congrArg _ (List.append_nil _).symm
      · have notBefore : (first.through engine (alone ++ more)).now ≤ later := by
          rw [reaches]
          exact world.now_le_now_after engine happening
        rw [World.through_concat, World.through_concat, World.after, if_pos notBefore]
      · have waits : tickets [.delay later] = [] := rfl
        rw [tickets_append, tickets_append, sameTickets, replays.tickets, waits, List.append_nil,
          World.arrivals_concat, ticketsIn, ticketsIn, ticketsIn, List.filter_append,
          List.map_append]

end ApiGateway.Engine
