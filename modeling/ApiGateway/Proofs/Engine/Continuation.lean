import ApiGateway.Proofs.Engine.Extension

/-!
# What an action leaves behind

A request that does one thing goes on to its next phase, or it is answered and
counted. `Action.next?` and `Action.response?` say which, without the world: of the
network only the reply to an attempt matters.
-/

namespace ApiGateway.Engine

open Http (Response)

/-- How an attempt ends, and the time until that is known, if it ends. -/
abbrev AttemptEnd := Option (Duration × Except GatewayError Response)

namespace Action

/-- The phase that a request goes on in and the instant that it waits for, unless it is over. An
attempt goes on with its reply, if there is one in time. -/
def next? (now : Instant) (job : Job) (reply : AttemptEnd) : Action → Option (Phase × Instant)
  | send exchange =>
    match reply with
    | some (delay, outcome) => some (.awaiting exchange outcome, now + delay)
    | none => some (.overdue exchange, job.deadline)
  | pause exchange length =>
    if now + length ≤ job.deadline then some (.pausing exchange, now + length)
    else some (.overdue exchange, job.deadline)
  | _ => none

/-- The task that a request goes on as. -/
def nextTask? (now : Instant) (job : Job) (reply : AttemptEnd) (action : Action) : Option Task :=
  (action.next? now job reply).map fun (phase, wake) => .request job phase wake

/-- The answer to a request that is over. -/
def response? (engine : Engine) (job : Job) : Action → Option Response
  | reject fault => some (.ofError (fault.error engine.maxBodyBytes job.route.timeout))
  | finish _ outcome => some (World.responseOf outcome)
  | _ => none

/-- The latency that is observed with an answer. -/
def latency (now : Instant) : Action → Duration
  | finish startedAt _ => (now - startedAt).toNat
  | _ => 0

end Action

namespace World

/-- How the transport fares with an attempt that is made now. -/
def delivery (engine : Engine) (world : World) (job : Job) (exchange : Exchange) : Delivery :=
  world.network.deliverWithin engine.transport.medium .forwarded exchange.outbound
    (job.deadline - world.now).toNat

/-- The reply to the attempt that an action makes, if it comes in time. -/
def reply? (engine : Engine) (world : World) (job : Job) : Action → AttemptEnd
  | .send exchange => (world.delivery engine job exchange).outcome
  | _ => none

variable (engine : Engine) (world : World) (job : Job)

/-- The tasks of probes that start because a circuit opened. -/
theorem tasks_recordOutcome (route : Routing.Route) (success : Bool) :
    ∃ opened : List Backend, (world.recordOutcome engine route success).tasks =
      world.tasks ++ opened.map .openedCircuit := by
  simp only [recordOutcome]
  split
  · split
    · next backend found => exact ⟨[backend], rfl⟩
    · exact ⟨[], (List.append_nil _).symm⟩
  · exact ⟨[], (List.append_nil _).symm⟩

theorem tasks_finish (startedAt : Instant) (outcome : Except GatewayError Response) :
    ∃ opened : List Backend, (world.finish engine job startedAt outcome).tasks =
      world.tasks ++ opened.map .openedCircuit := by
  cases outcome <;> exact tasks_recordOutcome ..

/-- A request that does one thing waits again, or it is over; besides, a probe may start. -/
theorem tasks_perform (action : Action) :
    ∃ opened : List Backend, (world.perform engine job action).tasks = world.tasks ++
        (action.nextTask? world.now job (world.reply? engine job action)).toList ++
          opened.map .openedCircuit := by
  cases action with
  | reject fault => exact ⟨[], by simp [perform, rejectBody, tasks_refuse, log, Action.nextTask?,
      Action.next?]⟩
  | send exchange =>
      refine ⟨[], ?_⟩
      simp only [perform, attempt, reply?, delivery, Action.nextTask?, Action.next?]
      split
      · next delay outcome replied => simp [push, replied]
      · next unreplied => simp [push, unreplied]
  | pause exchange length =>
      refine ⟨[], ?_⟩
      simp only [perform, pauseFor, Action.nextTask?, Action.next?]
      split <;> simp [push]
  | finish startedAt outcome =>
      obtain ⟨opened, tasks⟩ := world.tasks_finish engine job startedAt outcome
      exact ⟨opened, by simpa [perform, Action.nextTask?, Action.next?] using tasks⟩

/-- A request that does one thing is answered if it is over. -/
theorem answers_perform (action : Action) :
    (world.perform engine job action).answers = world.answers ++
      ((action.response? engine job).map fun response =>
        (⟨job.ticket, some job.route.name, some response⟩ : Answer)).toList := by
  cases action with
  | reject fault => rfl
  | send exchange =>
      simp only [perform, attempt, Action.response?]
      split <;> simp [push]
  | pause exchange length =>
      simp only [perform, pauseFor, Action.response?]
      split <;> simp [push]
  | finish startedAt outcome => exact answers_finish ..

/-- The answer to a request that is over is observed. -/
theorem metrics_perform (action : Action) :
    (world.perform engine job action).metrics =
      match action.response? engine job with
      | some response =>
        world.metrics.observe job.route.name response.status (action.latency world.now)
      | none => world.metrics := by
  cases action with
  | reject fault => rfl
  | send exchange =>
      simp only [perform, attempt, Action.response?]
      split <;> rfl
  | pause exchange length =>
      simp only [perform, pauseFor, Action.response?]
      split <;> rfl
  | finish startedAt outcome => exact metrics_finish ..

end World

end ApiGateway.Engine
