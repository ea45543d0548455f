import ApiGateway.Proofs.Engine.Action
import ApiGateway.Proofs.Engine.Frame

/-!
# How the statuses change

A move changes the statuses by a list of events: the outcome of a forwarded request
is recorded, or a finding is noted. `World.events` reads the events of a move off the
task that goes on, and `statuses_move` says that they are all that happens.
-/

namespace ApiGateway.Engine

open Backend (CircuitPolicy StatusBook)

/-- One change of the statuses. -/
inductive StatusEvent where
  /-- A forwarded request to the backend ended. -/
  | recorded (key : String) (success : Bool)
  /-- A probe of the backend ended. -/
  | noted (key : String) (finding : Health.Finding)

namespace StatusEvent

/-- The statuses after an event. -/
def apply (policy : CircuitPolicy) (now : Instant) (statuses : StatusBook) :
    StatusEvent → StatusBook
  | recorded key success => (statuses.recordResult key success now policy).1
  | noted key finding => statuses.update key (finding.apply now)

/-- The finding of a probe, to be noted on the status of its backend. -/
def ofCheck (check : Health.Check) : StatusEvent :=
  noted check.backend.key check.finding

/-- The backend that an event is about. -/
def key : StatusEvent → String
  | recorded key _ => key
  | noted key _ => key

/-- What an event makes of the status of its backend. -/
def change (policy : CircuitPolicy) (now : Instant) : StatusEvent → Backend.Status → Backend.Status
  | recorded _ success => fun status => (status.recordResult success now policy).1
  | noted _ finding => finding.apply now

theorem apply_eq_update (policy : CircuitPolicy) (now : Instant) (statuses : StatusBook)
    (event : StatusEvent) :
    event.apply policy now statuses = statuses.update event.key (event.change policy now) := by
  cases event <;> rfl

/-- Of some events those that are about a backend make its status. -/
theorem get?_foldl_apply (policy : CircuitPolicy) (now : Instant) (statuses : StatusBook)
    (events : List StatusEvent) (key : String) :
    (events.foldl (StatusEvent.apply policy now) statuses).get? key =
      (events.filter (·.key == key)).foldl
        (fun status event => status.map (event.change policy now)) (statuses.get? key) := by
  induction events generalizing statuses with
  | nil => rfl
  | cons event rest inductionHypothesis =>
      rw [List.foldl_cons, inductionHypothesis, apply_eq_update]
      by_cases about : event.key = key
      · subst about
        simp
      · have elsewhere : (event.key == key) = false := by simpa using about
        rw [StatusBook.get?_update_of_ne (Ne.symm about), List.filter_cons, elsewhere]
        rfl

end StatusEvent

/-- The events of a request that does one thing: only its end is recorded. -/
def Action.events (job : Job) : Action → List StatusEvent
  | finish _ outcome =>
    [.recorded job.route.backendKey ((World.responseOf outcome).status < 500)]
  | _ => []

/-- The events of a task that goes on at an instant. -/
def Task.events (engine : Engine) (now : Instant) : Task → List StatusEvent
  | request job phase _ => (job.action engine now phase).events job
  | probe check => [.ofCheck check]
  | round _ checks => (checks.filter fun check => check.due ≤ now).map .ofCheck
  | _ => []

namespace World

/-- The events of a move. -/
def events (engine : Engine) (world : World) (move : Move) : List StatusEvent :=
  match world.resumed? move with
  | some task => task.events engine world.now
  | none => []

theorem statuses_settleChecks (policy : CircuitPolicy) (world : World)
    (checks : List Health.Check) :
    (checks.foldl settleCheck world).statuses =
      (checks.map StatusEvent.ofCheck).foldl (StatusEvent.apply policy world.now)
        world.statuses := by
  induction checks generalizing world with
  | nil => rfl
  | cons check rest inductionHypothesis =>
      rw [List.foldl_cons, inductionHypothesis, now_settleCheck]
      rfl

theorem statuses_perform (engine : Engine) (world : World) (job : Job) (action : Action) :
    (world.perform engine job action).statuses =
      (action.events job).foldl (StatusEvent.apply engine.circuitPolicy world.now)
        world.statuses := by
  cases action with
  | reject fault => simp [perform, rejectBody, log, Action.events]
  | send exchange => simp [perform, Action.events]
  | pause exchange length => simp [perform, Action.events]
  | finish startedAt outcome => simp [perform, Action.events, StatusEvent.apply]

theorem statuses_resume (engine : Engine) (world : World) (task : Task) :
    (world.resume engine task).statuses =
      (task.events engine world.now).foldl (StatusEvent.apply engine.circuitPolicy world.now)
        world.statuses := by
  cases task with
  | request job phase wake =>
      rw [resume, resumeRequest_eq_perform, statuses_perform]
      rfl
  | openedCircuit backend =>
      simp only [resume, Task.events]
      split <;> rfl
  | probe check => rfl
  | loopStart => exact statuses_startRound ..
  | round purpose checks =>
      simp only [resume, resumeRound, Task.events]
      rw [← statuses_settleChecks]
      split
      · exact statuses_endRound ..
      · rfl
  | loopWaiting next =>
      simp only [resume, resumeLoop]
      split
      · rfl
      · exact statuses_startRound ..

/-- The events of a move are all that happens to the statuses. -/
theorem statuses_move (engine : Engine) (world : World) (move : Move) :
    (world.move engine move).statuses =
      (world.events engine move).foldl (StatusEvent.apply engine.circuitPolicy world.now)
        world.statuses := by
  cases going : world.resumed? move with
  | some task =>
      obtain ⟨index, rfl, -, resumes⟩ := move_eq_resume engine going
      rw [resumes, statuses_resume, events, going]
      rfl
  | none =>
      rw [events, going]
      cases move with
      | arrive ticket head pieces => exact statuses_handle ..
      | serve ticket head pieces => exact statuses_serve ..
      | run index => rw [move_run_eq_self engine going]; rfl
      | advance instant =>
          simp only [World.move, advance]
          split <;> rfl
      | start => exact statuses_start ..
      | shutdown => rfl
      | probeAll ticket => exact statuses_startRound ..
      | network network => rfl

end World

end ApiGateway.Engine
