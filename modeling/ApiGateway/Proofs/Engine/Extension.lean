import ApiGateway.Proofs.Engine.Action
import ApiGateway.Proofs.Engine.Dispatch

/-!
# What a move adds

A task that goes on is taken off the list. Apart from that a move only puts tasks
behind the tasks, so that a task waits until it goes on. `Spawns` says which tasks a
move may add, and from which request each comes.
-/

namespace ApiGateway.Engine

/-- A world goes on from another one: it has the same tasks, and perhaps more of one kind. -/
def World.Extends (adds : Task → Prop) (before after : World) : Prop :=
  ∃ added, after.tasks = before.tasks ++ added ∧ ∀ task ∈ added, adds task

/-- A task of the gateway's own: any but a request. -/
def Task.IsBackground : Task → Prop
  | request .. => False
  | _ => True

/-- The exchange that a request in some phase has under way. -/
def Phase.exchange? : Phase → Option Exchange
  | reading _ => none
  | pausing exchange => some exchange
  | awaiting exchange _ => some exchange
  | overdue exchange => some exchange

/-- The exchange that goes on after an action. -/
def Action.exchange? : Action → Option Exchange
  | send exchange => some exchange
  | pause exchange _ => some exchange
  | _ => none

/-- A task is a job with an exchange under way. -/
def Task.Carries (job : Job) (exchange : Exchange) (task : Task) : Prop :=
  ∃ phase wake, task = .request job phase wake ∧ phase.exchange? = some exchange

/-- A task may come of a job that acts: one of the gateway's own, or the job with the exchange
of the action. -/
def Action.Spawns (job : Job) (action : Action) (task : Task) : Prop :=
  task.IsBackground ∨ ∃ exchange, action.exchange? = some exchange ∧ task.Carries job exchange

/-- The task of a request that was just admitted. -/
def readingTask (engine : Engine) (now : Instant) (ticket : Nat) (head : Head)
    (pieces : List BodyPiece) (route : Routing.Route) : Task :=
  .request ⟨ticket, head, route, now + route.timeout⟩
    (.reading (readBody engine.maxBodyBytes now (now + route.timeout) pieces).result)
    (readBody engine.maxBodyBytes now (now + route.timeout) pieces).finished

/-- A task may come of the arrival of a request: that of the request if it is admitted. -/
def Admits (engine : Engine) (world : World) (ticket : Nat) (head : Head)
    (pieces : List BodyPiece) (task : Task) : Prop :=
  ∃ route, engine.dispatch world.statuses world.now head = .ok route ∧
    task = readingTask engine world.now ticket head pieces route

/-- A task that goes on may leave another task behind. -/
def Task.Spawns (engine : Engine) (now : Instant) : Task → Task → Prop
  | request job phase _ => (job.action engine now phase).Spawns job
  | _ => Task.IsBackground

/-- The tasks that a move may add. -/
inductive Spawns (engine : Engine) (world : World) (move : Move) : Task → Prop where
  | background {task : Task} (own : task.IsBackground) : Spawns engine world move task
  | arrival {ticket : Nat} {head : Head} {pieces : List BodyPiece} {task : Task}
      (served : World.served? move = some (ticket, head, pieces))
      (admits : Admits engine world ticket head pieces task) : Spawns engine world move task
  | resumption {task next : Task} (going : world.resumed? move = some task)
      (spawns : task.Spawns engine world.now next) : Spawns engine world move next

namespace World

namespace Extends

variable {adds others : Task → Prop} {before after : World}

theorem of_eq (tasks : after.tasks = before.tasks) : before.Extends adds after := by
  refine ⟨[], by rw [tasks, List.append_nil], ?_⟩
  intro task member
  cases member

theorem refl (world : World) : world.Extends adds world :=
  .of_eq rfl

theorem trans {first middle last : World} (prior : first.Extends adds middle)
    (next : middle.Extends adds last) : first.Extends adds last := by
  obtain ⟨early, earlyTasks, earlyKind⟩ := prior
  obtain ⟨late, lateTasks, lateKind⟩ := next
  refine ⟨early ++ late, by rw [lateTasks, earlyTasks, List.append_assoc], ?_⟩
  intro task member
  rcases List.mem_append.mp member with isEarly | isLate
  · exact earlyKind task isEarly
  · exact lateKind task isLate

theorem imp (extension : before.Extends adds after) (weaker : ∀ task, adds task → others task) :
    before.Extends others after := by
  obtain ⟨added, tasks, kind⟩ := extension
  exact ⟨added, tasks, fun task member => weaker task (kind task member)⟩

theorem log (prior : before.Extends adds after) (line : Log.Line) :
    before.Extends adds (after.log line) :=
  prior.trans (.of_eq rfl)

theorem push (prior : before.Extends adds after) {task : Task} (kind : adds task) :
    before.Extends adds (after.push task) := by
  refine prior.trans ⟨[task], rfl, ?_⟩
  intro other member
  rw [List.mem_singleton.mp member]
  exact kind

theorem answer (prior : before.Extends adds after) (ticket : Nat) (counted : Option String)
    (response : Option Http.Response) :
    before.Extends adds (after.answer ticket counted response) :=
  prior.trans (.of_eq rfl)

/-- Every task of the later world was there before or is of the kind that was added. -/
theorem mem_tasks (extension : before.Extends adds after) {task : Task}
    (member : task ∈ after.tasks) : task ∈ before.tasks ∨ adds task := by
  obtain ⟨added, tasks, kind⟩ := extension
  rw [tasks] at member
  rcases List.mem_append.mp member with early | late
  · exact .inl early
  · exact .inr (kind task late)

theorem mem_tasks_of_mem (extension : before.Extends adds after) {task : Task}
    (member : task ∈ before.tasks) : task ∈ after.tasks := by
  obtain ⟨added, tasks, -⟩ := extension
  rw [tasks]
  exact List.mem_append_left _ member

end Extends

variable (engine : Engine) (world : World) {adds : Task → Prop}

/-! ## Requests -/

theorem extends_refuse (ticket : Nat) (route : Option Routing.Route) (error : Http.ApiError) :
    world.Extends adds (world.refuse ticket route error) := by
  cases route with
  | none => exact (Extends.refl world).answer ..
  | some route =>
      have observed : world.Extends adds (world.observe route error.status 0) :=
        .of_eq rfl
      exact observed.answer ..

theorem extends_recordOutcome (route : Routing.Route) (success : Bool) :
    world.Extends Task.IsBackground (world.recordOutcome engine route success) := by
  simp only [recordOutcome]
  split
  · split
    · refine Extends.push ?_ trivial
      exact .of_eq rfl
    · exact .of_eq rfl
  · exact .of_eq rfl

theorem extends_finish (job : Job) (startedAt : Instant)
    (outcome : Except GatewayError Http.Response) :
    world.Extends Task.IsBackground (world.finish engine job startedAt outcome) := by
  have ends (observed : World) (same : world.Extends Task.IsBackground observed) (success : Bool)
      (line : Log.Line) (response : Http.Response) :
      world.Extends Task.IsBackground
        (((observed.recordOutcome engine job.route success).log line).answer job.ticket
          (some job.route.name) (some response)) := by
    have recorded := same.trans (observed.extends_recordOutcome engine job.route success)
    exact (recorded.log line).answer ..
  cases outcome with
  | ok response => exact ends (world.observe ..) (.of_eq rfl) ..
  | error error =>
      exact ends ((world.log (failedLine job error)).observe ..) (.of_eq rfl) ..

theorem extends_attempt (job : Job) (exchange : Exchange) :
    world.Extends (Task.Carries job exchange) (world.attempt engine job exchange) := by
  have sends (network : Network) (delivered : List Sent) :
      world.Extends (Task.Carries job exchange)
        { world with network, sent := world.sent ++ delivered } :=
    .of_eq rfl
  simp only [attempt]
  split
  · exact (sends _ _).push ⟨_, _, rfl, rfl⟩
  · exact (sends _ _).push ⟨_, _, rfl, rfl⟩

theorem extends_pauseFor (job : Job) (exchange : Exchange) (pause : Duration) :
    world.Extends (Task.Carries job exchange) (world.pauseFor job exchange pause) := by
  simp only [pauseFor]
  split
  · exact (Extends.refl world).push ⟨_, _, rfl, rfl⟩
  · exact (Extends.refl world).push ⟨_, _, rfl, rfl⟩

theorem extends_perform (job : Job) (action : Action) :
    world.Extends (action.Spawns job) (world.perform engine job action) := by
  cases action with
  | reject fault =>
      simp only [perform, rejectBody]
      exact ((Extends.refl world).log _).trans (extends_refuse ..)
  | send exchange =>
      exact (extends_attempt ..).imp fun task carries => .inr ⟨exchange, rfl, carries⟩
  | pause exchange length =>
      exact (extends_pauseFor ..).imp fun task carries => .inr ⟨exchange, rfl, carries⟩
  | finish startedAt outcome => exact (extends_finish ..).imp fun task own => .inl own

theorem extends_serve (ticket : Nat) (head : Head) (pieces : List BodyPiece) :
    world.Extends (Admits engine world ticket head pieces)
      (world.serve engine ticket head pieces) := by
  cases dispatched : engine.dispatch world.statuses world.now head with
  | error refusal =>
      rw [serve_of_refused dispatched]
      exact extends_refuse ..
  | ok route =>
      rw [serve_of_admitted dispatched]
      exact (Extends.refl world).push ⟨route, dispatched, rfl⟩

/-! ## Probes -/

theorem extends_launchProbe (backend : Backend) :
    world.Extends adds (world.launchProbe backend).1 :=
  .of_eq rfl

theorem extends_launchAll (backends : List Backend) :
    world.Extends adds (launchAll backends world).1 := by
  induction backends generalizing world with
  | nil => exact .refl world
  | cons backend rest inductionHypothesis =>
      exact (world.extends_launchProbe backend).trans (inductionHypothesis _)

theorem extends_startRound (purpose : RoundPurpose) :
    world.Extends Task.IsBackground (world.startRound engine purpose) :=
  (world.extends_launchAll engine.table.backends).push trivial

theorem extends_settleChecks (checks : List Health.Check) :
    world.Extends adds (checks.foldl settleCheck world) := by
  induction checks generalizing world with
  | nil => exact .refl world
  | cons check rest inductionHypothesis =>
      have settled : world.Extends adds (world.settleCheck check) := .of_eq rfl
      exact settled.trans (inductionHypothesis _)

theorem extends_endRound (purpose : RoundPurpose) :
    world.Extends Task.IsBackground (world.endRound engine purpose) := by
  cases purpose with
  | initial =>
      refine Extends.push ?_ trivial
      exact .of_eq rfl
  | periodic next => exact (Extends.refl world).push trivial
  | requested ticket => exact (Extends.refl world).answer ..

theorem extends_resumeRound (purpose : RoundPurpose) (checks : List Health.Check) :
    world.Extends Task.IsBackground (world.resumeRound engine purpose checks) := by
  simp only [resumeRound]
  split
  · exact (world.extends_settleChecks _).trans (extends_endRound ..)
  · exact (world.extends_settleChecks _).push trivial

theorem extends_start : world.Extends Task.IsBackground (world.start engine) := by
  simp only [start]
  split
  · exact .refl world
  · split
    · exact .of_eq rfl
    · refine Extends.push ?_ trivial
      exact .of_eq rfl

/-! ## Moves -/

theorem extends_resume (task : Task) :
    world.Extends (task.Spawns engine world.now) (world.resume engine task) := by
  cases task with
  | request job phase wake =>
      rw [resume, resumeRequest_eq_perform]
      exact extends_perform ..
  | openedCircuit backend =>
      simp only [resume]
      split
      · exact (world.extends_launchProbe backend).push trivial
      · exact world.extends_launchProbe backend
  | probe check => exact .of_eq rfl
  | loopStart => exact extends_startRound ..
  | round purpose checks => exact extends_resumeRound ..
  | loopWaiting next =>
      simp only [resume, resumeLoop]
      split
      · exact .refl world
      · exact extends_startRound ..

/-- A move that lets no task go on takes nothing away. -/
theorem extends_move {move : Move} (none : world.resumed? move = none) :
    world.Extends (Spawns engine world move) (world.move engine move) := by
  have arrives {ticket : Nat} {head : Head} {pieces : List BodyPiece}
      (served : served? move = some (ticket, head, pieces)) :
      world.Extends (Spawns engine world move) (world.serve engine ticket head pieces) :=
    (extends_serve ..).imp fun task admits => .arrival served admits
  cases move with
  | arrive ticket head pieces =>
      simp only [World.move, handle]
      split
      · exact (Extends.refl world).answer ..
      · next noPage => exact arrives (by simp only [served?, noPage])
  | serve ticket head pieces => exact arrives rfl
  | run index =>
      rw [move_run_eq_self engine none]
      exact .refl world
  | advance instant =>
      simp only [World.move, advance]
      split <;> exact .of_eq rfl
  | start => exact (extends_start ..).imp fun task own => .background own
  | shutdown => exact .of_eq rfl
  | probeAll ticket => exact (extends_startRound ..).imp fun task own => .background own
  | network network => exact .of_eq rfl

theorem extends_without {move : Move} {index : Nat} {task : Task}
    (going : world.resumed? move = some task)
    (resumes : world.move engine move = (world.without index).resume engine task) :
    (world.without index).Extends (Spawns engine world move) (world.move engine move) := by
  rw [resumes]
  exact (extends_resume engine (world.without index) task).imp fun next spawns =>
    .resumption going spawns

/-- Every task after a move was there before or was spawned by the move. -/
theorem mem_tasks_of_move {move : Move} {task : Task}
    (member : task ∈ (world.move engine move).tasks) :
    task ∈ world.tasks ∨ Spawns engine world move task := by
  cases going : world.resumed? move with
  | none => exact (world.extends_move engine going).mem_tasks member
  | some resumed =>
      obtain ⟨index, -, -, resumes⟩ := move_eq_resume engine going
      rcases (world.extends_without engine going resumes).mem_tasks member with kept | spawned
      · exact .inl (List.mem_of_mem_eraseIdx kept)
      · exact .inr spawned

/-- A task waits until it goes on. -/
theorem mem_tasks_move {move : Move} {task : Task} (waits : task ∈ world.tasks)
    (other : world.resumed? move ≠ some task) : task ∈ (world.move engine move).tasks := by
  cases going : world.resumed? move with
  | none => exact (world.extends_move engine going).mem_tasks_of_mem waits
  | some resumed =>
      obtain ⟨index, rfl, found, resumes⟩ := move_eq_resume engine going
      apply (world.extends_without engine going resumes).mem_tasks_of_mem
      obtain ⟨position, known⟩ := List.mem_iff_getElem?.mp waits
      have elsewhere : position ≠ index := by
        intro same
        rw [same, found] at known
        exact other (going.trans known)
      exact List.mem_eraseIdx_iff_getElem?.mpr ⟨position, elsewhere, known⟩

end World

end ApiGateway.Engine
