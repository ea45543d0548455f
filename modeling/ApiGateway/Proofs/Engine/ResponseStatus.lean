import ApiGateway.Proofs.Engine.Ledger
import ApiGateway.Proofs.Network.StatusCodes

/-!
# Every answer has a status

If all responses in the scripts of the network have an HTTP status, then so has every
response that a backend is waited for, and every response that a client is given.
-/

namespace ApiGateway.Engine

open Http (IsStatus Response)

/-- The response that a task waits for has a status. -/
def Task.HasStatus (task : Task) : Prop :=
  ∀ job exchange response wake, task = .request job (.awaiting exchange (.ok response)) wake →
    IsStatus response.status

/-- All responses that are on their way have a status. -/
structure World.HasStatuses (world : World) : Prop where
  network : world.network.HasStatuses
  tasks : ∀ task ∈ world.tasks, task.HasStatus

theorem Task.IsBackground.hasStatus {task : Task} (own : task.IsBackground) : task.HasStatus := by
  intro job exchange response wake same
  rw [same] at own
  exact own.elim

namespace World

variable (engine : Engine) (world : World)

/-! ## The network -/

section Network

@[simp] theorem network_refuse (ticket : Nat) (route : Option Routing.Route)
    (error : Http.ApiError) : (world.refuse ticket route error).network = world.network := by
  cases route <;> rfl

@[simp] theorem network_recordOutcome (route : Routing.Route) (success : Bool) :
    (world.recordOutcome engine route success).network = world.network := by
  simp only [recordOutcome]
  repeat' split
  all_goals rfl

theorem network_serve (ticket : Nat) (head : Head) (pieces : List BodyPiece) :
    (world.serve engine ticket head pieces).network = world.network := by
  simp only [serve]
  split
  · exact network_refuse ..
  · rfl

theorem network_settleChecks (checks : List Health.Check) :
    (checks.foldl settleCheck world).network = world.network := by
  induction checks generalizing world with
  | nil => rfl
  | cons check rest inductionHypothesis =>
      rw [List.foldl_cons, inductionHypothesis]
      rfl

theorem network_endRound (purpose : RoundPurpose) :
    (world.endRound engine purpose).network = world.network := by
  cases purpose <;> rfl

variable {world} (valid : world.network.HasStatuses)
include valid

theorem hasStatuses_perform (job : Job) (action : Action) :
    (world.perform engine job action).network.HasStatuses := by
  cases action with
  | reject fault => exact valid
  | send exchange =>
      have delivered := valid.deliverWithin engine.transport.medium .forwarded exchange.outbound
        (job.deadline - world.now).toNat
      simp only [perform, attempt]
      split <;> exact delivered.network
  | pause exchange length =>
      simp only [perform, pauseFor]
      split <;> exact valid
  | finish startedAt outcome => cases outcome <;> simpa [perform, finish, answer, log, observe]

theorem hasStatuses_launchProbe (backend : Backend) :
    (world.launchProbe backend).1.network.HasStatuses := by
  simp only [launchProbe, Health.launch]
  split
  · exact valid
  · exact (valid.deliverWithin ..).network

theorem hasStatuses_launchAll (backends : List Backend) :
    (launchAll backends world).1.network.HasStatuses := by
  induction backends generalizing world with
  | nil => exact valid
  | cons backend rest inductionHypothesis =>
      exact inductionHypothesis (hasStatuses_launchProbe valid backend)

theorem hasStatuses_resume (task : Task) : (world.resume engine task).network.HasStatuses := by
  cases task with
  | request job phase wake =>
      rw [resume, resumeRequest_eq_perform]
      exact hasStatuses_perform engine valid job _
  | openedCircuit backend =>
      simp only [resume]
      split <;> exact hasStatuses_launchProbe valid backend
  | probe check => exact valid
  | loopStart => exact hasStatuses_launchAll valid _
  | round purpose checks =>
      simp only [resume, resumeRound]
      split
      · rw [network_endRound, network_settleChecks]
        exact valid
      · rw [push, network_settleChecks]
        exact valid
  | loopWaiting next =>
      simp only [resume, resumeLoop]
      split
      · exact valid
      · exact hasStatuses_launchAll valid _

theorem hasStatuses_move {move : Move}
    (proper : ∀ network, move = .network network → network.HasStatuses) :
    (world.move engine move).network.HasStatuses := by
  cases move with
  | arrive ticket head pieces =>
      simp only [World.move, handle]
      split
      · exact valid
      · rwa [network_serve]
  | serve ticket head pieces => rwa [World.move, network_serve]
  | run index =>
      cases going : world.resumed? (.run index) with
      | none => rwa [move_run_eq_self engine going]
      | some task =>
          obtain ⟨_, -, -, resumes⟩ := move_eq_resume engine going
          rw [resumes]
          have without (index : Nat) : (world.without index).network.HasStatuses := valid
          exact hasStatuses_resume engine (without _) task
  | advance instant =>
      simp only [World.move, advance]
      split <;> exact valid
  | start =>
      simp only [World.move, start]
      repeat' split
      all_goals exact valid
  | shutdown => exact valid
  | probeAll ticket => exact hasStatuses_launchAll valid _
  | network network => exact proper network rfl

end Network

/-! ## The tasks -/

/-- What a request goes on with has a status if the network's replies have. -/
theorem hasStatus_nextTask? {job : Job} {action : Action} {task : Task}
    (valid : world.network.HasStatuses)
    (goesOn : action.nextTask? world.now job (world.reply? engine job action) = some task) :
    task.HasStatus := by
  intro other exchange response wake same
  subst same
  cases action with
  | send sent =>
      simp only [Action.nextTask?, Action.next?, reply?] at goesOn
      split at goesOn
      · next delay outcome replied =>
          cases goesOn
          exact (valid.deliverWithin ..).outcome _ _ replied
      · cases goesOn
  | pause paused length =>
      simp only [Action.nextTask?, Action.next?] at goesOn
      split at goesOn <;> cases goesOn
  | reject fault => cases goesOn
  | finish startedAt outcome => cases goesOn

theorem HasStatuses.move {world : World} (valid : world.HasStatuses) {move : Move}
    (proper : ∀ network, move = .network network → network.HasStatuses) :
    (world.move engine move).HasStatuses where
  network := hasStatuses_move engine valid.network proper
  tasks := by
    intro task member
    by_cases asRequest : ∃ job phase wake, world.resumed? move = some (.request job phase wake)
    · obtain ⟨job, phase, wake, going⟩ := asRequest
      obtain ⟨index, -, -, resumes⟩ := move_eq_resume engine going
      rw [resumes, resume, resumeRequest_eq_perform] at member
      obtain ⟨opened, tasks⟩ := (world.without index).tasks_perform engine job
        (job.action engine (world.without index).now phase)
      rw [tasks] at member
      rcases List.mem_append.mp member with earlier | probe
      · rcases List.mem_append.mp earlier with kept | next
        · exact valid.tasks task (List.mem_of_mem_eraseIdx kept)
        · exact hasStatus_nextTask? engine (world.without index) valid.network
            (Option.mem_toList.mp next)
      · obtain ⟨backend, -, rfl⟩ := List.mem_map.mp probe
        exact Task.IsBackground.hasStatus trivial
    · rcases world.mem_tasks_of_move engine member with known | spawned
      · exact valid.tasks task known
      · cases spawned with
        | background own => exact own.hasStatus
        | arrival served admits =>
            obtain ⟨route, -, rfl⟩ := admits
            intro job exchange response wake same
            cases same
        | @resumption resumed _ going spawns =>
            cases resumed with
            | request job phase wake => exact absurd ⟨job, phase, wake, going⟩ asRequest
            | _ => exact Task.IsBackground.hasStatus spawns

theorem HasStatuses.after {world : World} (valid : world.HasStatuses) {happening : Happening}
    (proper : ∀ network, happening = .move (.network network) → network.HasStatuses) :
    (world.after engine happening).HasStatuses := by
  cases happening with
  | move move =>
      exact valid.move engine fun network same => proper network (congrArg Happening.move same)
  | delay instant =>
      simp only [World.after]
      split
      · exact ⟨valid.network, valid.tasks⟩
      · exact valid
  | report key finding => exact ⟨valid.network, valid.tasks⟩

end World

/-! ## The answers -/

/-- A request ends with a response only if that was on its way. -/
theorem Job.awaiting_of_action {engine : Engine} {now startedAt : Instant} {job : Job}
    {phase : Phase} {response : Response}
    (ends : job.action engine now phase = .finish startedAt (.ok response)) :
    ∃ exchange, phase = .awaiting exchange (.ok response) := by
  cases phase with
  | reading result =>
      cases result with
      | error fault => cases ends
      | ok body =>
          simp only [Job.action] at ends
          split at ends <;> cases ends
  | pausing exchange => cases ends
  | awaiting exchange outcome =>
      cases outcome with
      | ok original =>
          cases ends
          exact ⟨exchange, rfl⟩
      | error error =>
          simp only [Job.action, Proxy.Retry.decide] at ends
          split at ends
          · next outcome decided =>
              cases ends
              split at decided <;> cases decided
          · cases ends
  | overdue exchange => cases ends

/-- A request that waits for responses with statuses only is answered with a status. -/
theorem isStatus_of_response? {engine : Engine} {now : Instant} {job : Job} {phase : Phase}
    {response : Response}
    (awaited : ∀ exchange response, phase = .awaiting exchange (.ok response) →
      IsStatus response.status)
    (responds : (job.action engine now phase).response? engine job = some response) :
    IsStatus response.status := by
  cases acts : job.action engine now phase with
  | reject fault =>
      rw [acts] at responds
      cases responds
      exact Http.ApiError.isStatus_status _
  | send exchange => rw [acts] at responds; cases responds
  | pause exchange length => rw [acts] at responds; cases responds
  | finish startedAt outcome =>
      rw [acts] at responds
      cases outcome with
      | error error =>
          cases responds
          exact (Http.ApiError.badGateway error.message).isStatus_status
      | ok original =>
          cases responds
          obtain ⟨exchange, same⟩ := Job.awaiting_of_action acts
          exact awaited exchange original same

theorem isStatus_pageResponse (engine : Engine) (statuses : Backend.StatusBook)
    (metrics : Metrics) (page : Page) :
    IsStatus (engine.pageResponse statuses metrics page).status := by
  have fine : IsStatus 200 := ⟨by decide, by decide⟩
  have unavailable : IsStatus 503 := ⟨by decide, by decide⟩
  cases page with
  | metrics => exact fine
  | routes => exact fine
  | health =>
      simp only [pageResponse, Response.json, Response.withContentType]
      split
      · exact fine
      · exact unavailable

/-- Every response that is given has a status. -/
theorem World.HasStatuses.isStatus_of_discharges {engine : Engine} {world : World}
    (valid : world.HasStatuses) {move : Move} {discharge : Discharge}
    (discharges : world.Discharges engine move discharge) {response : Response}
    (responds : discharge.response = some response) : IsStatus response.status := by
  cases discharges with
  | @concluded job phase wake given going answers =>
      cases responds
      obtain ⟨_, -, found, -⟩ := World.move_eq_resume engine going
      have known := valid.tasks _ (List.mem_of_getElem? found)
      exact isStatus_of_response?
        (fun exchange response same => known job exchange response wake (by rw [same])) answers
  | @refused _ _ _ refusal _ _ =>
      cases responds
      exact refusal.error.isStatus_status
  | page =>
      cases responds
      exact isStatus_pageResponse ..
  | round => cases responds

theorem World.HasStatuses.through {engine : Engine} {world : World} (valid : world.HasStatuses)
    {happenings : List Happening}
    (proper : ∀ network, .move (.network network) ∈ happenings → network.HasStatuses) :
    (world.through engine happenings).HasStatuses := by
  induction happenings generalizing world with
  | nil => exact valid
  | cons happening rest inductionHypothesis =>
      refine inductionHypothesis (valid.after engine fun network same => ?_)
        fun network member => proper network (List.mem_cons_of_mem _ member)
      exact proper network (same ▸ List.mem_cons_self)

/-- Every response that an execution gives has a status if those of all scripts have. -/
theorem isStatus_of_dischargesOf {engine : Engine} {world : World} (valid : world.HasStatuses)
    {happenings : List Happening}
    (proper : ∀ network, .move (.network network) ∈ happenings → network.HasStatuses)
    {discharge : Discharge} (given : discharge ∈ world.dischargesOf engine happenings)
    {response : Response} (responds : discharge.response = some response) :
    IsStatus response.status := by
  obtain ⟨moment, member, move, -, discharges⟩ := World.discharges_of_mem_dischargesOf given
  obtain ⟨before, rest, rfl, reached⟩ := world.exists_append_of_mem_moments engine member
  have validThen : (world.through engine before).HasStatuses :=
    valid.through fun network earlier => proper network (List.mem_append_left _ earlier)
  rw [reached] at validThen
  exact validThen.isStatus_of_discharges discharges responds

end ApiGateway.Engine
