import ApiGateway.Engine.Step

/-!
# What the parts of a move leave alone

Only `World.advance` moves the clock. The statuses change in two places: where a
forwarded request ends (`statuses_finish`) and where the finding of a probe is
noted (`statuses_settleCheck`). Every other part of a move keeps both. Of what an
admitted request does, only an attempt sends anything.
-/

namespace ApiGateway.Engine.World

variable (engine : Engine) (world : World)

/-! ## Requests -/

@[simp] theorem now_refuse (ticket : Nat) (route : Option Routing.Route)
    (error : Http.ApiError) : (world.refuse ticket route error).now = world.now := by
  cases route <;> rfl

@[simp] theorem statuses_refuse (ticket : Nat) (route : Option Routing.Route)
    (error : Http.ApiError) : (world.refuse ticket route error).statuses = world.statuses := by
  cases route <;> rfl

@[simp] theorem sent_refuse (ticket : Nat) (route : Option Routing.Route)
    (error : Http.ApiError) : (world.refuse ticket route error).sent = world.sent := by
  cases route <;> rfl

@[simp] theorem now_recordOutcome (route : Routing.Route) (success : Bool) :
    (world.recordOutcome engine route success).now = world.now := by
  simp only [recordOutcome]
  repeat' split
  all_goals rfl

@[simp] theorem statuses_recordOutcome (route : Routing.Route) (success : Bool) :
    (world.recordOutcome engine route success).statuses =
      (world.statuses.recordResult route.backendKey success world.now
        engine.circuitPolicy).1 := by
  simp only [recordOutcome]
  repeat' split
  all_goals rfl

@[simp] theorem sent_recordOutcome (route : Routing.Route) (success : Bool) :
    (world.recordOutcome engine route success).sent = world.sent := by
  simp only [recordOutcome]
  repeat' split
  all_goals rfl

@[simp] theorem metrics_recordOutcome (route : Routing.Route) (success : Bool) :
    (world.recordOutcome engine route success).metrics = world.metrics := by
  simp only [recordOutcome]
  repeat' split
  all_goals rfl

@[simp] theorem answers_recordOutcome (route : Routing.Route) (success : Bool) :
    (world.recordOutcome engine route success).answers = world.answers := by
  simp only [recordOutcome]
  repeat' split
  all_goals rfl

@[simp] theorem now_finish (job : Job) (startedAt : Instant)
    (outcome : Except GatewayError Http.Response) :
    (world.finish engine job startedAt outcome).now = world.now := by
  cases outcome <;> simp [finish, answer, log, observe]

/-- The end of a forwarded request feeds the circuit of its backend. -/
@[simp] theorem statuses_finish (job : Job) (startedAt : Instant)
    (outcome : Except GatewayError Http.Response) :
    (world.finish engine job startedAt outcome).statuses =
      (world.statuses.recordResult job.route.backendKey ((responseOf outcome).status < 500)
        world.now engine.circuitPolicy).1 := by
  cases outcome <;> simp [finish, answer, log, observe]

@[simp] theorem sent_finish (job : Job) (startedAt : Instant)
    (outcome : Except GatewayError Http.Response) :
    (world.finish engine job startedAt outcome).sent = world.sent := by
  cases outcome <;> simp [finish, answer, log, observe]

/-- The end of a forwarded request is its answer. -/
theorem answers_finish (job : Job) (startedAt : Instant)
    (outcome : Except GatewayError Http.Response) :
    (world.finish engine job startedAt outcome).answers =
      world.answers ++ [⟨job.ticket, some job.route.name, some (responseOf outcome)⟩] := by
  cases outcome <;> simp [finish, answer, log, observe]

/-- The answer to a forwarded request is observed once. -/
theorem metrics_finish (job : Job) (startedAt : Instant)
    (outcome : Except GatewayError Http.Response) :
    (world.finish engine job startedAt outcome).metrics =
      world.metrics.observe job.route.name (responseOf outcome).status
        (world.now - startedAt).toNat := by
  cases outcome <;> simp [finish, answer, log, observe]

@[simp] theorem now_attempt (job : Job) (exchange : Exchange) :
    (world.attempt engine job exchange).now = world.now := by
  simp only [attempt]
  split <;> rfl

@[simp] theorem statuses_attempt (job : Job) (exchange : Exchange) :
    (world.attempt engine job exchange).statuses = world.statuses := by
  simp only [attempt]
  split <;> rfl

@[simp] theorem now_pauseFor (job : Job) (exchange : Exchange) (pause : Duration) :
    (world.pauseFor job exchange pause).now = world.now := by
  simp only [pauseFor]
  split <;> rfl

@[simp] theorem statuses_pauseFor (job : Job) (exchange : Exchange) (pause : Duration) :
    (world.pauseFor job exchange pause).statuses = world.statuses := by
  simp only [pauseFor]
  split <;> rfl

@[simp] theorem sent_pauseFor (job : Job) (exchange : Exchange) (pause : Duration) :
    (world.pauseFor job exchange pause).sent = world.sent := by
  simp only [pauseFor]
  split <;> rfl

@[simp] theorem now_serve (ticket : Nat) (head : Head) (pieces : List BodyPiece) :
    (world.serve engine ticket head pieces).now = world.now := by
  simp only [serve]
  split
  · exact now_refuse ..
  · rfl

@[simp] theorem statuses_serve (ticket : Nat) (head : Head) (pieces : List BodyPiece) :
    (world.serve engine ticket head pieces).statuses = world.statuses := by
  simp only [serve]
  split
  · exact statuses_refuse ..
  · rfl

@[simp] theorem now_handle (ticket : Nat) (head : Head) (pieces : List BodyPiece) :
    (world.handle engine ticket head pieces).now = world.now := by
  simp only [handle]
  split
  · rfl
  · exact now_serve ..

@[simp] theorem statuses_handle (ticket : Nat) (head : Head) (pieces : List BodyPiece) :
    (world.handle engine ticket head pieces).statuses = world.statuses := by
  simp only [handle]
  split
  · rfl
  · exact statuses_serve ..

/-! ## Probes -/

@[simp] theorem now_launchProbe (backend : Backend) :
    (world.launchProbe backend).1.now = world.now := rfl

@[simp] theorem statuses_launchProbe (backend : Backend) :
    (world.launchProbe backend).1.statuses = world.statuses := rfl

@[simp] theorem now_launchAll (backends : List Backend) :
    (launchAll backends world).1.now = world.now := by
  induction backends generalizing world with
  | nil => rfl
  | cons backend rest inductionHypothesis => simp [launchAll, inductionHypothesis]

@[simp] theorem statuses_launchAll (backends : List Backend) :
    (launchAll backends world).1.statuses = world.statuses := by
  induction backends generalizing world with
  | nil => rfl
  | cons backend rest inductionHypothesis => simp [launchAll, inductionHypothesis]

@[simp] theorem now_startRound (purpose : RoundPurpose) :
    (world.startRound engine purpose).now = world.now :=
  now_launchAll world engine.table.backends

@[simp] theorem statuses_startRound (purpose : RoundPurpose) :
    (world.startRound engine purpose).statuses = world.statuses :=
  statuses_launchAll world engine.table.backends

@[simp] theorem now_settleCheck (check : Health.Check) :
    (world.settleCheck check).now = world.now := rfl

/-- The end of a probe is noted on the status of its backend. -/
@[simp] theorem statuses_settleCheck (check : Health.Check) :
    (world.settleCheck check).statuses =
      world.statuses.update check.backend.key (check.finding.apply world.now) := rfl

@[simp] theorem now_settleChecks (checks : List Health.Check) :
    (checks.foldl settleCheck world).now = world.now := by
  induction checks generalizing world with
  | nil => rfl
  | cons check rest inductionHypothesis =>
      rw [List.foldl_cons, inductionHypothesis, now_settleCheck]

@[simp] theorem now_endRound (purpose : RoundPurpose) :
    (world.endRound engine purpose).now = world.now := by
  cases purpose <;> rfl

@[simp] theorem statuses_endRound (purpose : RoundPurpose) :
    (world.endRound engine purpose).statuses = world.statuses := by
  cases purpose <;> rfl

@[simp] theorem now_start : (world.start engine).now = world.now := by
  simp only [start]
  repeat' split
  all_goals rfl

@[simp] theorem statuses_start : (world.start engine).statuses = world.statuses := by
  simp only [start]
  repeat' split
  all_goals rfl

end ApiGateway.Engine.World
