import ApiGateway.Proofs.Backend.OpenCircuit
import ApiGateway.Proofs.Engine.Dispatch
import ApiGateway.Proofs.Engine.Execution
import ApiGateway.Proofs.Engine.StatusEvent

/-!
# An open circuit shields its backend

From the move that opens the circuit of a backend until the cooldown is over, every
request to that backend is refused before anything is sent, in every execution. The
invariant is that the circuit stays open at least until the end of that cooldown
(`StatusBook.OpenUntil`); every event before the end keeps it.
-/

namespace ApiGateway.Engine

open Backend (StatusBook)

/-- An event before the end of a cooldown leaves the circuit open until then. -/
theorem StatusEvent.openUntil_apply {statuses : StatusBook} {policy : Backend.CircuitPolicy}
    {key : String} {now instant : Instant} (opened : statuses.OpenUntil key instant)
    (within : now < instant) (reachable : instant ≤ now.saturatingAdd policy.cooldown)
    (event : StatusEvent) : (event.apply policy now statuses).OpenUntil key instant := by
  cases event with
  | recorded other success =>
      exact opened.update other fun status opened => opened.recordResult reachable success
  | noted other finding =>
      exact opened.update other fun status opened => opened.apply within finding

namespace World

/-- The backend whose circuit a move opens: the result that it records says so. -/
def opens? (engine : Engine) (world : World) (move : Move) : Option String :=
  (world.events engine move).findSome? fun
    | .recorded key success =>
      if (world.statuses.recordResult key success world.now engine.circuitPolicy).2 then some key
      else none
    | .noted _ _ => none

variable {engine : Engine} {world : World} {move : Move} {key : String}

/-- A move that records a result does nothing else to the statuses. -/
theorem events_of_recorded {success : Bool}
    (recorded : .recorded key success ∈ world.events engine move) :
    world.events engine move = [.recorded key success] := by
  simp only [events] at recorded ⊢
  split at recorded
  · next task going =>
      cases task with
      | request job phase wake =>
          simp only [Task.events, Action.events] at recorded ⊢
          split at recorded
          · simp only [List.mem_singleton] at recorded
            rw [recorded]
          · cases recorded
      | round purpose checks => simp [Task.events, StatusEvent.ofCheck] at recorded
      | _ => simp [Task.events, StatusEvent.ofCheck] at recorded
  · cases recorded

/-- The circuit that a move opens is open for the cooldown. -/
theorem openUntil_of_opens? (opens : world.opens? engine move = some key) :
    (world.move engine move).statuses.OpenUntil key
      (world.now.saturatingAdd engine.circuitPolicy.cooldown) := by
  obtain ⟨event, happens, selected⟩ := List.exists_of_findSome?_eq_some opens
  cases event with
  | noted other finding => cases selected
  | recorded other success =>
      simp only at selected
      split at selected
      · next tripped =>
          cases selected
          rw [statuses_move, events_of_recorded happens]
          exact StatusBook.openUntil_of_opens tripped
      · cases selected

/-- A move before the end of a cooldown that began earlier leaves the circuit open until
then. -/
theorem openUntil_move {instant : Instant} (opened : world.statuses.OpenUntil key instant)
    (within : world.now < instant)
    (reachable : instant ≤ world.now.saturatingAdd engine.circuitPolicy.cooldown) (move : Move) :
    (world.move engine move).statuses.OpenUntil key instant := by
  rw [statuses_move]
  generalize world.events engine move = events
  revert opened
  generalize world.statuses = statuses
  intro opened
  induction events generalizing statuses with
  | nil => exact opened
  | cons event rest inductionHypothesis =>
      exact inductionHypothesis _ (event.openUntil_apply opened within reachable)

end World

/-- Until the cooldown is over, no step closes the circuit. -/
theorem Steps.openUntil {engine : Engine} {first last : World} {key : String} {opening : Instant}
    (steps : Steps engine first last) (began : opening ≤ first.now)
    (opened : first.statuses.OpenUntil key
      (opening.saturatingAdd engine.circuitPolicy.cooldown))
    (within : last.now < opening.saturatingAdd engine.circuitPolicy.cooldown) :
    last.statuses.OpenUntil key (opening.saturatingAdd engine.circuitPolicy.cooldown) := by
  induction steps with
  | refl => exact opened
  | @step middle last prior next inductionHypothesis =>
      have reached : opening ≤ middle.now := Int.le_trans began prior.now_le
      have reachable := Instant.saturatingAdd_mono reached engine.circuitPolicy.cooldown
      have notLater : middle.now ≤ last.now := (Steps.step .refl next).now_le
      have inTime := Int.lt_of_le_of_lt notLater within
      have before := inductionHypothesis inTime
      cases next with
      | move move => exact World.openUntil_move before inTime reachable move
      | delay instant later => exact before
      | report other finding =>
          exact before.update other fun status opened => opened.apply inTime finding

/-- From the move that opens a circuit until the cooldown is over, whatever else happens, the
circuit stays open, and a request that reaches its backend is refused with the reason
`circuit_open`. The refusal is counted once; nothing else of the gateway changes, so that the
request leaves no task behind, sends nothing and touches no status. -/
theorem refused_while_circuit_open {engine : Engine} {before later : World} {opening : Move}
    {key : String} (opens : before.opens? engine opening = some key)
    (inCalendar : Instant.earliest ≤ before.now)
    (since : Steps engine (before.move engine opening) later)
    (within : later.now < min (before.now + engine.circuitPolicy.cooldown) Instant.latest) :
    later.statuses.OpenUntil key
        (min (before.now + engine.circuitPolicy.cooldown) Instant.latest) ∧
      ∀ {arrival : Move} {ticket : Nat} {head : Head} {pieces : List BodyPiece}
        {route : Routing.Route}, World.served? arrival = some (ticket, head, pieces) →
        engine.Binds head route → route.backendKey = key →
        later.move engine arrival =
          { later with
            metrics := later.metrics.observe route.name 503 0
            answers := later.answers ++
              [⟨ticket, some route.name,
                some (.ofError (.serviceUnavailable "circuit_open"))⟩] } := by
  rw [← Instant.saturatingAdd_eq_min inCalendar] at within ⊢
  have began : before.now ≤ (before.move engine opening).now :=
    before.now_le_now_move engine opening
  have opened := since.openUntil began (World.openUntil_of_opens? opens) within
  refine ⟨opened, ?_⟩
  intro arrival ticket head pieces route served bound same
  have down : later.statuses.availability route.backendKey later.now =
      .error Backend.Status.circuitOpenReason := by
    rw [same]
    exact opened.availability within
  rw [World.move_eq_serve engine later served,
    World.serve_of_refused (dispatch_of_unavailable bound down)]
  rfl

/-- Four requests are under way to a backend that answers probes and refuses the rest; two of
them have failed. -/
def World.failingTwice : World :=
  (World.initial (ofRoute rootRoute)
    ⟨[("h", ⟨.accepted, some [⟨0, .failure (.backend "refused")⟩], none⟩)]⟩ 0).run
    (ofRoute rootRoute)
    [.serve 0 (.get "/a") [], .serve 1 (.get "/b") [], .serve 2 (.get "/c") [],
     .serve 3 (.get "/d") [], .run 0, .run 0, .run 0, .run 0, .run 0, .run 0]

/-- After the third failure the backend is probed with success, the fourth request fails late,
and almost half a minute goes by. -/
def World.almostCooledDown : World :=
  (World.failingTwice.move (ofRoute rootRoute) (.run 0)).run (ofRoute rootRoute)
    [.run 1, .run 1, .run 0, .run 0, .run 0, .advance 29999999999]

theorem refused_after_probe_and_late_failure :
    World.failingTwice.opens? (ofRoute rootRoute) (.run 0) = some "http://h/" ∧
      World.almostCooledDown.now = 29999999999 ∧
      World.almostCooledDown.move (ofRoute rootRoute) (.arrive 4 (.get "/e") []) =
        { World.almostCooledDown with
          metrics := World.almostCooledDown.metrics.observe "all" 503 0
          answers := World.almostCooledDown.answers ++
            [⟨4, some "all", some (.ofError (.serviceUnavailable "circuit_open"))⟩] } := by
  have opens : World.failingTwice.opens? (ofRoute rootRoute) (.run 0) = some "http://h/" := by
    decide +kernel
  have cooled : World.almostCooledDown.now = 29999999999 := by decide +kernel
  have since : Steps (ofRoute rootRoute)
      (World.failingTwice.move (ofRoute rootRoute) (.run 0)) World.almostCooledDown :=
    Steps.refl.run _
  have within : World.almostCooledDown.now <
      min (World.failingTwice.now + (ofRoute rootRoute).circuitPolicy.cooldown)
        Instant.latest := by
    decide +kernel
  have bound : (ofRoute rootRoute).Binds (.get "/e") rootRoute :=
    ⟨rfl, by decide +kernel, by decide +kernel⟩
  have same : rootRoute.backendKey = "http://h/" := by decide +kernel
  have inCalendar : Instant.earliest ≤ World.failingTwice.now := by decide +kernel
  have served : World.served? (.arrive 4 (.get "/e") []) = some (4, .get "/e", []) := rfl
  obtain ⟨-, refuses⟩ := refused_while_circuit_open opens inCalendar since within
  have refused := refuses served bound same
  exact ⟨opens, cooled, refused⟩

end ApiGateway.Engine
