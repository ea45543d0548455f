import ApiGateway.Proofs.Engine.Action
import ApiGateway.Proofs.Engine.Frame

/-!
# Executions of the gateway

`Step` is one thing that happens to a running gateway and `Steps` any sequence of
them, in any order. The moves are steps; besides, time may pass over tasks that are
ready, and a backend may be reported on from outside. `Steps.preserves` is the
induction over executions.
-/

namespace ApiGateway.Engine

/-- One thing that happens to a running gateway. -/
inductive Step (engine : Engine) : World → World → Prop where
  | move (world : World) (move : Move) : Step engine world (world.move engine move)
  /-- Time passes, whether or not somebody is ready to go on. -/
  | delay (world : World) (instant : Instant) (later : world.now ≤ instant) :
      Step engine world { world with now := instant }
  /-- A finding about a backend is noted that no probe of the gateway's made. -/
  | report (world : World) (key : String) (finding : Health.Finding) :
      Step engine world
        { world with statuses := world.statuses.update key (finding.apply world.now) }

/-- Any number of things that happen one after the other. -/
inductive Steps (engine : Engine) : World → World → Prop where
  | refl {world : World} : Steps engine world world
  | step {first middle last : World} (prior : Steps engine first middle)
      (next : Step engine middle last) : Steps engine first last

/-- What every step keeps holds after any number of steps. -/
theorem Steps.preserves {engine : Engine} (inv : World → Prop)
    (kept : ∀ {world next}, inv world → Step engine world next → inv next)
    {first last : World} (steps : Steps engine first last) (holds : inv first) : inv last := by
  induction steps with
  | refl => exact holds
  | step _ next inductionHypothesis => exact kept inductionHypothesis next

/-- A run goes on with an execution. -/
theorem Steps.run {engine : Engine} {first world : World} (prior : Steps engine first world)
    (moves : List Move) : Steps engine first (world.run engine moves) := by
  induction moves generalizing world with
  | nil => exact prior
  | cons move rest inductionHypothesis => exact inductionHypothesis (prior.step (.move world move))

namespace World

theorem now_perform (engine : Engine) (world : World) (job : Job) (action : Action) :
    (world.perform engine job action).now = world.now := by
  cases action <;> simp [perform, rejectBody, log]

theorem now_resume (engine : Engine) (world : World) (task : Task) :
    (world.resume engine task).now = world.now := by
  cases task with
  | request job phase wake => rw [resume, resumeRequest_eq_perform, now_perform]
  | openedCircuit backend =>
      simp only [resume]
      split <;> rfl
  | probe check => rfl
  | loopStart => exact now_startRound ..
  | round purpose checks =>
      simp only [resume, resumeRound]
      split
      · rw [now_endRound, now_settleChecks]
      · exact now_settleChecks ..
  | loopWaiting next =>
      simp only [resume, resumeLoop]
      split
      · rfl
      · exact now_startRound ..

/-- Only the clock's own move moves it. -/
theorem now_move (engine : Engine) (world : World) (move : Move) :
    (world.move engine move).now =
      match move with
      | .advance instant => if world.mayAdvance instant then instant else world.now
      | _ => world.now := by
  cases move with
  | run index =>
      cases going : world.resumed? (.run index) with
      | some task =>
          obtain ⟨_, -, -, resumes⟩ := move_eq_resume engine going
          rw [resumes, now_resume]
          rfl
      | none => rw [move_run_eq_self engine going]
  | advance instant =>
      simp only [World.move, advance]
      split <;> rfl
  | _ => simp [World.move]

/-- The clock never goes back. -/
theorem now_le_now_move (engine : Engine) (world : World) (move : Move) :
    world.now ≤ (world.move engine move).now := by
  rw [now_move]
  cases move with
  | advance instant =>
      by_cases allowed : world.mayAdvance instant = true
      · simp only [allowed, if_true]
        simp only [mayAdvance, Bool.and_eq_true, decide_eq_true_eq] at allowed
        exact allowed.1
      · simp only [allowed]
        exact Int.le_refl _
  | _ => exact Int.le_refl _

/-- No task is passed over by a move: the clock stands still or goes on to the wake at most. -/
theorem now_move_le_wakeOf (engine : Engine) {world : World} {task : Task}
    (waits : task ∈ world.tasks) (move : Move) :
    (world.move engine move).now = world.now ∨
      (world.move engine move).now ≤ world.wakeOf task := by
  rw [now_move]
  cases move with
  | advance instant =>
      by_cases allowed : world.mayAdvance instant = true
      · simp only [allowed, if_true]
        simp only [mayAdvance, Bool.and_eq_true, List.all_eq_true] at allowed
        exact .inr (of_decide_eq_true (allowed.2 task waits))
      · simp [allowed]
  | _ => exact .inl rfl

/-- Nobody who waits is passed over by a move. -/
theorem now_move_le_wake (engine : Engine) {world : World} {job : Job} {phase : Phase}
    {wake : Instant} (waits : .request job phase wake ∈ world.tasks) (notOver : world.now ≤ wake)
    (move : Move) : (world.move engine move).now ≤ wake := by
  rcases now_move_le_wakeOf engine waits move with still | upTo
  · exact still ▸ notOver
  · exact upTo

end World

/-- The clock never goes back in an execution. -/
theorem Steps.now_le {engine : Engine} {first last : World} (steps : Steps engine first last) :
    first.now ≤ last.now := by
  refine steps.preserves (fun world => first.now ≤ world.now) ?_ (Int.le_refl _)
  intro world next before step
  cases step with
  | move move => exact Int.le_trans before (world.now_le_now_move engine move)
  | delay instant later => exact Int.le_trans before later
  | report key finding => exact before

/-! ## A small gateway

Theorems about all gateways are tried out on this one: a single route, no credentials, no
retries, and replies that are handed over without a connection. -/

/-- The locator `http://h/`. -/
def plainTarget : Url := ⟨"http", some ⟨"", "h", none⟩, "/", none, none⟩

/-- The route that forwards every request, path and all, to `plainTarget`. -/
def rootRoute : Routing.Route where
  name := "all"
  pathPrefix := "/"
  stripPrefix := false
  replacement := ""
  requireAuth := false
  strategy := .forward
  methods := []
  timeout := .ofSeconds 10
  target := plainTarget

/-- The gateway in front of one route. It takes bodies of up to a kilobyte, and three failures
of three requests open the circuit for half a minute. -/
def ofRoute (route : Routing.Route) : Engine where
  mode := .proxyAll
  table := ⟨[route], [⟨route.target, Routing.defaultHealthPath⟩]⟩
  verifier := .ofSecret none
  healthInterval := .ofSeconds 10
  circuitPolicy := ⟨.ofSeconds 30, Backend.CircuitPolicy.half, .ofSeconds 30⟩
  maxBodyBytes := 1024
  tls := false
  transport := ⟨.direct, none⟩

/-- The gateway in front of one route that sends failed requests once more. -/
def retryingGateway : Engine := { ofRoute rootRoute with transport := ⟨.direct, some 1⟩ }

/-- A `GET` request for a path. -/
def Head.get (path : String) : Head :=
  ⟨"GET", ⟨none, none, path, none⟩, .empty, .v4 192 0 2 7 40000⟩

end ApiGateway.Engine
