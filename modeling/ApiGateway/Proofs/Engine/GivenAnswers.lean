import ApiGateway.Proofs.Engine.Trace

/-!
# Nobody looks at the answers

The gateway gives answers and never looks at those that it gave. `World.behind` puts
other answers in front of those of a world, and every part of a move goes on as it would
without them; so does a whole execution (`through_behind`).
-/

namespace ApiGateway.Engine.World

/-- The world in which some answers were given before all others. -/
def behind (earlier : List Answer) (world : World) : World :=
  { world with answers := earlier ++ world.answers }

variable (engine : Engine) (earlier : List Answer) (world : World)

/-- A choice that does not depend on the answers is made as without them. -/
theorem ite_behind {condition : Prop} {decided : Decidable condition} (yes no : World) :
    (if condition then yes.behind earlier else no.behind earlier) =
      (if condition then yes else no).behind earlier :=
  (apply_ite (behind earlier) condition yes no).symm

theorem push_behind (task : Task) :
    (world.behind earlier).push task = (world.push task).behind earlier := rfl

theorem log_behind (line : Log.Line) :
    (world.behind earlier).log line = (world.log line).behind earlier := rfl

theorem answer_behind (ticket : Nat) (counted : Option String) (response : Option Http.Response) :
    (world.behind earlier).answer ticket counted response =
      (world.answer ticket counted response).behind earlier := by
  simp [behind, answer]

/-! ## Requests -/

theorem refuse_behind (ticket : Nat) (route : Option Routing.Route) (error : Http.ApiError) :
    (world.behind earlier).refuse ticket route error =
      (world.refuse ticket route error).behind earlier := by
  cases route with
  | none => exact answer_behind ..
  | some route => exact answer_behind earlier (world.observe route error.status 0) ..

theorem recordOutcome_behind (route : Routing.Route) (success : Bool) :
    (world.behind earlier).recordOutcome engine route success =
      (world.recordOutcome engine route success).behind earlier := by
  rcases recorded : world.statuses.recordResult route.backendKey success world.now
    engine.circuitPolicy with ⟨statuses, tripped⟩
  have same : (world.behind earlier).statuses.recordResult route.backendKey success
      (world.behind earlier).now engine.circuitPolicy = (statuses, tripped) := recorded
  simp only [recordOutcome, recorded, same]
  cases tripped with
  | false => rfl
  | true => cases engine.table.backend? route.backendKey <;> rfl

theorem finish_behind (job : Job) (startedAt : Instant)
    (outcome : Except GatewayError Http.Response) :
    (world.behind earlier).finish engine job startedAt outcome =
      (world.finish engine job startedAt outcome).behind earlier := by
  have ends (observed : World) (success : Bool) (line : Log.Line) (response : Http.Response) :
      (((observed.behind earlier).recordOutcome engine job.route success).log line).answer
          job.ticket (some job.route.name) (some response) =
        (((observed.recordOutcome engine job.route success).log line).answer
          job.ticket (some job.route.name) (some response)).behind earlier := by
    rw [recordOutcome_behind, log_behind, answer_behind]
  cases outcome with
  | ok response => exact ends (world.observe ..) ..
  | error error => exact ends ((world.log (failedLine job error)).observe ..) ..

theorem attempt_behind (job : Job) (exchange : Exchange) :
    (world.behind earlier).attempt engine job exchange =
      (world.attempt engine job exchange).behind earlier := by
  have same : (world.behind earlier).network.deliverWithin engine.transport.medium .forwarded
      exchange.outbound (job.deadline - (world.behind earlier).now).toNat =
    world.network.deliverWithin engine.transport.medium .forwarded exchange.outbound
      (job.deadline - world.now).toNat := rfl
  simp only [attempt, same]
  cases (world.network.deliverWithin engine.transport.medium .forwarded exchange.outbound
    (job.deadline - world.now).toNat).outcome <;> rfl

theorem pauseFor_behind (job : Job) (exchange : Exchange) (pause : Duration) :
    (world.behind earlier).pauseFor job exchange pause =
      (world.pauseFor job exchange pause).behind earlier := by
  simp only [pauseFor, push_behind, ← ite_behind]
  rfl

theorem perform_behind (job : Job) (action : Action) :
    (world.behind earlier).perform engine job action =
      (world.perform engine job action).behind earlier := by
  cases action with
  | reject fault =>
      simp only [perform, rejectBody, log_behind, refuse_behind]
  | send exchange => exact attempt_behind ..
  | pause exchange length => exact pauseFor_behind ..
  | finish startedAt outcome => exact finish_behind ..

theorem serve_behind (ticket : Nat) (head : Head) (pieces : List BodyPiece) :
    (world.behind earlier).serve engine ticket head pieces =
      (world.serve engine ticket head pieces).behind earlier := by
  have same : engine.dispatch (world.behind earlier).statuses (world.behind earlier).now head =
      engine.dispatch world.statuses world.now head := rfl
  cases dispatched : engine.dispatch world.statuses world.now head with
  | error refusal =>
      rw [serve_of_refused dispatched, serve_of_refused (same.trans dispatched)]
      exact refuse_behind ..
  | ok route =>
      rw [serve_of_admitted dispatched, serve_of_admitted (same.trans dispatched)]
      rfl

theorem handle_behind (ticket : Nat) (head : Head) (pieces : List BodyPiece) :
    (world.behind earlier).handle engine ticket head pieces =
      (world.handle engine ticket head pieces).behind earlier := by
  simp only [handle]
  cases Page.ofRequest? head.method head.uri.path with
  | some page => exact answer_behind ..
  | none => exact serve_behind ..

/-! ## Probes -/

theorem launchAll_behind (backends : List Backend) :
    launchAll backends (world.behind earlier) =
      ((launchAll backends world).1.behind earlier, (launchAll backends world).2) := by
  induction backends generalizing world with
  | nil => rfl
  | cons backend rest inductionHypothesis =>
      have launched : (world.behind earlier).launchProbe backend =
          ((world.launchProbe backend).1.behind earlier, (world.launchProbe backend).2) := rfl
      simp only [launchAll, launched, inductionHypothesis]

theorem startRound_behind (purpose : RoundPurpose) :
    (world.behind earlier).startRound engine purpose =
      (world.startRound engine purpose).behind earlier := by
  simp only [startRound, launchAll_behind]
  rfl

theorem settleChecks_behind (checks : List Health.Check) :
    checks.foldl settleCheck (world.behind earlier) =
      (checks.foldl settleCheck world).behind earlier := by
  induction checks generalizing world with
  | nil => rfl
  | cons check rest inductionHypothesis => exact inductionHypothesis (world.settleCheck check)

theorem endRound_behind (purpose : RoundPurpose) :
    (world.behind earlier).endRound engine purpose =
      (world.endRound engine purpose).behind earlier := by
  cases purpose with
  | requested ticket => exact answer_behind ..
  | _ => rfl

theorem resumeRound_behind (purpose : RoundPurpose) (checks : List Health.Check) :
    (world.behind earlier).resumeRound engine purpose checks =
      (world.resumeRound engine purpose checks).behind earlier := by
  have clock : (world.behind earlier).now = world.now := rfl
  simp only [resumeRound, clock, settleChecks_behind, endRound_behind, push_behind, ite_behind]

theorem start_behind :
    (world.behind earlier).start engine = (world.start engine).behind earlier := by
  simp only [start, ← ite_behind]
  rfl

/-! ## Moves -/

theorem resume_behind (task : Task) :
    (world.behind earlier).resume engine task = (world.resume engine task).behind earlier := by
  cases task with
  | request job phase wake =>
      simp only [resume, resumeRequest_eq_perform]
      exact perform_behind ..
  | openedCircuit backend =>
      have launched : (world.behind earlier).launchProbe backend =
          ((world.launchProbe backend).1.behind earlier, (world.launchProbe backend).2) := rfl
      simp only [resume, launched]
      cases (world.launchProbe backend).2 <;> rfl
  | probe check => rfl
  | loopStart => exact startRound_behind ..
  | round purpose checks => exact resumeRound_behind ..
  | loopWaiting next =>
      simp only [resume, resumeLoop, startRound_behind, ← ite_behind]
      rfl

theorem runTask_behind (index : Nat) :
    (world.behind earlier).runTask engine index = (world.runTask engine index).behind earlier := by
  have same : (world.behind earlier).tasks = world.tasks := rfl
  simp only [runTask, same]
  cases world.tasks[index]? with
  | none => rfl
  | some task =>
      have ready : (world.behind earlier).isReady task = world.isReady task := by
        cases task <;> rfl
      have goesOn := resume_behind engine earlier (world.without index) task
      simp only [ready, ← ite_behind]
      exact ite_congr rfl (fun _ => goesOn) fun _ => rfl

theorem advance_behind (instant : Instant) :
    (world.behind earlier).advance instant = (world.advance instant).behind earlier := by
  have allowed : (world.behind earlier).mayAdvance instant = world.mayAdvance instant := by
    have wakes : (world.behind earlier).wakeOf = world.wakeOf := by
      funext task
      cases task <;> rfl
    simp only [mayAdvance, wakes]
    rfl
  simp only [advance, allowed, ← ite_behind]
  rfl

theorem move_behind (move : Move) :
    (world.behind earlier).move engine move = (world.move engine move).behind earlier := by
  cases move with
  | arrive ticket head pieces => exact handle_behind ..
  | serve ticket head pieces => exact serve_behind ..
  | run index => exact runTask_behind ..
  | advance instant => exact advance_behind ..
  | start => exact start_behind ..
  | shutdown => rfl
  | probeAll ticket => exact startRound_behind ..
  | network network => rfl

/-! ## Executions -/

theorem after_behind (happening : Happening) :
    (world.behind earlier).after engine happening =
      (world.after engine happening).behind earlier := by
  cases happening with
  | move move => exact move_behind ..
  | delay instant =>
      simp only [after, ← ite_behind]
      rfl
  | report key finding => rfl

/-- What was answered before an execution is in front of what it answers, and that is all. -/
theorem through_behind (happenings : List Happening) :
    (world.behind earlier).through engine happenings =
      (world.through engine happenings).behind earlier := by
  induction happenings generalizing world with
  | nil => rfl
  | cons happening rest inductionHypothesis =>
      have first := world.after_behind engine earlier happening
      simp only [through, List.foldl_cons] at inductionHypothesis ⊢
      rw [first, inductionHypothesis]

end ApiGateway.Engine.World
