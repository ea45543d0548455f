import ApiGateway.Proofs.Engine.Dispatch
import ApiGateway.Proofs.Engine.Execution

/-!
# Executions as data

`Happening` is `Step` with its choices as data: `World.through` goes through a list of
happenings, and `World.moments` keeps each of them with the world that it met, so
that what an execution did can be counted. Every list of happenings is an execution
and every execution is one of some list (`steps_iff_through`).
-/

namespace ApiGateway.Engine

/-- Something that happens to a running gateway. -/
inductive Happening where
  | move (move : Move)
  /-- Time passes, whether or not somebody is ready to go on. -/
  | delay (instant : Instant)
  /-- A finding about a backend is noted that no probe of the gateway's made. -/
  | report (key : String) (finding : Health.Finding)

/-- Something that happens, and the world that it meets. -/
structure Moment where
  world : World
  happening : Happening

namespace World

/-- The gateway after something has happened. A delay to an instant that is over is none. -/
def after (engine : Engine) (world : World) : Happening → World
  | .move move => world.move engine move
  | .delay instant => if world.now ≤ instant then { world with now := instant } else world
  | .report key finding =>
    { world with statuses := world.statuses.update key (finding.apply world.now) }

/-- The gateway after many things have happened. -/
def through (engine : Engine) (world : World) (happenings : List Happening) : World :=
  happenings.foldl (fun world happening => world.after engine happening) world

/-- Everything that happens, with the worlds in between. -/
def moments (engine : Engine) : World → List Happening → List Moment
  | _, [] => []
  | world, happening :: rest =>
    ⟨world, happening⟩ :: moments engine (world.after engine happening) rest

variable (engine : Engine) (world : World)

theorem through_append (before rest : List Happening) :
    world.through engine (before ++ rest) =
      (world.through engine before).through engine rest :=
  List.foldl_append

@[simp] theorem through_concat (before : List Happening) (happening : Happening) :
    world.through engine (before ++ [happening]) =
      (world.through engine before).after engine happening :=
  through_append ..

theorem moments_append (before rest : List Happening) :
    world.moments engine (before ++ rest) =
      world.moments engine before ++ (world.through engine before).moments engine rest := by
  induction before generalizing world with
  | nil => rfl
  | cons happening before inductionHypothesis =>
      rw [List.cons_append, moments, inductionHypothesis]
      rfl

@[simp] theorem moments_concat (before : List Happening) (happening : Happening) :
    world.moments engine (before ++ [happening]) =
      world.moments engine before ++ [⟨world.through engine before, happening⟩] :=
  moments_append ..

/-- A moment parts what happened before it from what happened later. -/
theorem exists_append_of_mem_moments {happenings : List Happening} {moment : Moment}
    (member : moment ∈ world.moments engine happenings) :
    ∃ before rest, happenings = before ++ moment.happening :: rest ∧
      world.through engine before = moment.world := by
  induction happenings generalizing world with
  | nil => cases member
  | cons happening rest inductionHypothesis =>
      rcases List.mem_cons.mp member with rfl | later
      · exact ⟨[], rest, rfl, rfl⟩
      · obtain ⟨before, after, split, reached⟩ := inductionHypothesis _ later
        exact ⟨happening :: before, after, by rw [split, List.cons_append], reached⟩

/-- What happens is a step, or nothing at all. -/
theorem step_after (happening : Happening) :
    Step engine world (world.after engine happening) ∨ world.after engine happening = world := by
  cases happening with
  | move move => exact .inl (.move world move)
  | delay instant =>
      simp only [after]
      split
      · next later => exact .inl (.delay world instant later)
      · exact .inr rfl
  | report key finding => exact .inl (.report world key finding)

/-- The clock never goes back. -/
theorem now_le_now_after (happening : Happening) :
    world.now ≤ (world.after engine happening).now := by
  rcases world.step_after engine happening with step | same
  · exact (Steps.refl.step step).now_le
  · exact Int.le_of_eq (congrArg World.now same.symm)

end World

/-- Every step is something that happens. -/
theorem Step.exists_after {engine : Engine} {world next : World} (step : Step engine world next) :
    ∃ happening, world.after engine happening = next := by
  cases step with
  | move move => exact ⟨.move move, rfl⟩
  | delay instant later => exact ⟨.delay instant, if_pos later⟩
  | report key finding => exact ⟨.report key finding, rfl⟩

theorem Steps.through {engine : Engine} {first world : World} (prior : Steps engine first world)
    (happenings : List Happening) : Steps engine first (world.through engine happenings) := by
  induction happenings generalizing world with
  | nil => exact prior
  | cons happening rest inductionHypothesis =>
      have reached : Steps engine first (world.after engine happening) := by
        rcases world.step_after engine happening with step | same
        · exact prior.step step
        · rw [same]
          exact prior
      exact inductionHypothesis reached

/-- The executions are the lists of happenings. -/
theorem steps_iff_through {engine : Engine} {first last : World} :
    Steps engine first last ↔ ∃ happenings, first.through engine happenings = last := by
  constructor
  · intro steps
    induction steps with
    | refl => exact ⟨[], rfl⟩
    | step prior next inductionHypothesis =>
        obtain ⟨happenings, reached⟩ := inductionHypothesis
        obtain ⟨happening, steps⟩ := next.exists_after
        exact ⟨happenings ++ [happening], by rw [World.through_concat, reached, steps]⟩
  · rintro ⟨happenings, rfl⟩
    exact Steps.refl.through happenings

/-! ## What arrives -/

/-- The one who waits for an answer to a move. -/
def Move.ticket? : Move → Option Nat
  | arrive ticket _ _ => some ticket
  | serve ticket _ _ => some ticket
  | probeAll ticket => some ticket
  | _ => none

theorem ticket?_of_served {move : Move} {ticket : Nat} {head : Head} {pieces : List BodyPiece}
    (served : World.served? move = some (ticket, head, pieces)) : move.ticket? = some ticket := by
  cases move with
  | serve => cases served; rfl
  | arrive =>
      simp only [World.served?] at served
      split at served
      · cases served
      · cases served
        rfl
  | _ => cases served

/-- The move of a happening. -/
def Happening.move? : Happening → Option Move
  | .move made => some made
  | _ => none

/-- The one who waits for an answer to what happens. -/
def Happening.ticket? (happening : Happening) : Option Nat := happening.move?.bind Move.ticket?

/-- Everybody who waits for an answer, in the order of arrival. -/
def tickets (happenings : List Happening) : List Nat := happenings.filterMap Happening.ticket?

theorem tickets_append (before rest : List Happening) :
    tickets (before ++ rest) = tickets before ++ tickets rest :=
  List.filterMap_append ..

/-- A request is handed to the proxy, in the world that it meets. -/
structure Arrival where
  ticket : Nat
  head : Head
  pieces : List BodyPiece
  met : World

/-- The request that arrives at the proxy at a moment. -/
def Moment.arrival? (moment : Moment) : Option Arrival :=
  (moment.happening.move?.bind World.served?).map fun (ticket, head, pieces) =>
    ⟨ticket, head, pieces, moment.world⟩

namespace World

/-- The requests that arrive at the proxy. -/
def arrivals (engine : Engine) (world : World) (happenings : List Happening) : List Arrival :=
  (world.moments engine happenings).filterMap Moment.arrival?

theorem arrivals_subset_append (engine : Engine) (world : World)
    (before rest : List Happening) :
    world.arrivals engine before ⊆ world.arrivals engine (before ++ rest) := by
  rw [arrivals, arrivals, moments_append, List.filterMap_append]
  exact List.subset_append_left _ _

theorem arrivals_concat (engine : Engine) (world : World) (before : List Happening)
    (happening : Happening) :
    world.arrivals engine (before ++ [happening]) = world.arrivals engine before ++
      (Moment.arrival? ⟨world.through engine before, happening⟩).toList := by
  simp only [arrivals, moments_concat, List.filterMap_append]
  congr 1

/-- What is handed to the proxy has arrived. -/
theorem mem_arrivals_of_served {engine : Engine} {first world : World} {before : List Happening}
    (reached : first.through engine before = world) {move : Move} {ticket : Nat} {head : Head}
    {pieces : List BodyPiece} (served : served? move = some (ticket, head, pieces)) :
    ⟨ticket, head, pieces, world⟩ ∈ first.arrivals engine (before ++ [.move move]) := by
  rw [arrivals_concat, reached]
  refine List.mem_append_right _ ?_
  simp [Moment.arrival?, Happening.move?, served]

/-- A request that arrives at the proxy waits for an answer. -/
theorem tickets_arrivals (engine : Engine) (world : World) (happenings : List Happening) :
    ((world.arrivals engine happenings).map (·.ticket)).Sublist (tickets happenings) := by
  induction happenings generalizing world with
  | nil => exact .refl _
  | cons happening rest inductionHypothesis =>
      have later := inductionHypothesis (world.after engine happening)
      simp only [arrivals, tickets, moments] at later ⊢
      cases arriving : Moment.arrival? ⟨world, happening⟩ with
      | none =>
          rw [List.filterMap_cons_none arriving]
          cases ticket : happening.ticket? with
          | none => rwa [List.filterMap_cons_none ticket]
          | some other =>
              rw [List.filterMap_cons_some ticket]
              exact later.cons _
      | some arrival =>
          obtain ⟨⟨ticket, head, pieces⟩, arrives, rfl⟩ := Option.map_eq_some_iff.mp arriving
          obtain ⟨move, made, served⟩ := Option.bind_eq_some_iff.mp arrives
          have waits : happening.ticket? = some ticket :=
            Option.bind_eq_some_iff.mpr ⟨move, made, ticket?_of_served served⟩
          rw [List.filterMap_cons_some arriving, List.filterMap_cons_some waits]
          exact later.cons_cons _

/-- The clock of a world is not behind that of any moment before it. -/
theorem now_le_of_mem_moments {engine : Engine} {world : World} {happenings : List Happening}
    {moment : Moment} (member : moment ∈ world.moments engine happenings) :
    moment.world.now ≤ (world.through engine happenings).now := by
  obtain ⟨before, rest, rfl, reached⟩ := world.exists_append_of_mem_moments engine member
  rw [through_append, reached]
  exact (Steps.refl.through _).now_le

theorem now_le_of_mem_arrivals {engine : Engine} {world : World} {happenings : List Happening}
    {arrival : Arrival} (arrived : arrival ∈ world.arrivals engine happenings) :
    arrival.met.now ≤ (world.through engine happenings).now := by
  obtain ⟨moment, member, arrives⟩ := List.mem_filterMap.mp arrived
  obtain ⟨⟨ticket, head, pieces⟩, -, rfl⟩ := Option.map_eq_some_iff.mp arrives
  exact now_le_of_mem_moments member

end World

end ApiGateway.Engine
