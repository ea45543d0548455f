import ApiGateway.Proofs.Engine.Frame

/-!
# What a request does when it goes on

An admitted request that goes on does one of four things: its body is rejected, an
attempt is made, it pauses, or it ends. `Job.action` says which one and
`resumeRequest_eq_perform` says that nothing else ever happens to it.
-/

namespace ApiGateway.Engine

/-- One thing that an admitted request does. -/
inductive Action where
  /-- Its body was not taken. -/
  | reject (fault : BodyFault)
  /-- The outbound request of the exchange is handed to the transport. -/
  | send (exchange : Exchange)
  /-- It waits before the next attempt. -/
  | pause (exchange : Exchange) (length : Duration)
  /-- The outcome is known. -/
  | finish (startedAt : Instant) (outcome : Except GatewayError Http.Response)

/-- The request that the backend of a job is to receive with a body. -/
def Job.outbound (engine : Engine) (job : Job) (body : ByteArray) :
    Except GatewayError Http.Request :=
  Proxy.outboundRequest job.route.target ⟨job.head.method, job.head.uri, job.head.headers, body⟩
    (job.route.forwardedPath job.head.uri.path) job.head.client.ip engine.tls

/-- The outbound request of a job is made of its head, its body and the joined target. -/
theorem Job.outbound_eq_ok_iff {engine : Engine} {job : Job} {body : ByteArray}
    {outbound : Http.Request} :
    job.outbound engine body = .ok outbound ↔
      ∃ uri, Proxy.targetUri job.route.target (job.route.forwardedPath job.head.uri.path)
          job.head.uri.query = .ok uri ∧
        outbound = ⟨job.head.method, uri,
          Proxy.outboundHeaders job.head.headers job.head.client.ip engine.tls, body⟩ := by
  simp only [Job.outbound, Proxy.outboundRequest]
  cases Proxy.targetUri job.route.target (job.route.forwardedPath job.head.uri.path)
      job.head.uri.query with
  | error error => simp [Except.map]
  | ok uri => simp [Except.map, eq_comm]

/-- What a job does when it goes on from a phase at an instant. -/
def Job.action (engine : Engine) (now : Instant) (job : Job) : Phase → Action
  | .reading (.error fault) => .reject fault
  | .reading (.ok body) =>
    match job.outbound engine body with
    | .error error => .finish now (.error error)
    | .ok outbound => .send ⟨outbound, 0, now⟩
  | .pausing exchange => .send exchange
  | .awaiting exchange outcome =>
    match Proxy.Retry.decide (engine.transport.attemptsFor job.head.method) exchange.attempt
        outcome with
    | .finish outcome => .finish exchange.startedAt outcome
    | .again length attempt => .pause { exchange with attempt } length
  | .overdue exchange => .finish exchange.startedAt (.error (.timeout job.route.timeout))

namespace World

/-- Turn a request away because of its body. -/
def rejectBody (engine : Engine) (job : Job) (fault : BodyFault) (world : World) : World :=
  let error := fault.error engine.maxBodyBytes job.route.timeout
  (world.log (rejectedLine job error)).refuse job.ticket (some job.route) error

/-- Let a request do one thing. -/
def perform (engine : Engine) (job : Job) (world : World) : Action → World
  | .reject fault => world.rejectBody engine job fault
  | .send exchange => world.attempt engine job exchange
  | .pause exchange length => world.pauseFor job exchange length
  | .finish startedAt outcome => world.finish engine job startedAt outcome

/-- A request that goes on does what `Job.action` says. -/
theorem resumeRequest_eq_perform (engine : Engine) (world : World) (job : Job) (phase : Phase) :
    world.resumeRequest engine job phase =
      world.perform engine job (job.action engine world.now phase) := by
  cases phase with
  | reading result =>
      cases result with
      | error fault => simp only [resumeRequest, Job.action, perform, rejectBody]
      | ok body =>
          simp only [resumeRequest, forward, Job.action, Job.outbound]
          generalize Proxy.outboundRequest _ _ _ _ _ = built
          cases built with
          | error error => simp only [perform]
          | ok outbound => simp only [perform]
  | pausing exchange => simp only [resumeRequest, Job.action, perform]
  | awaiting exchange outcome =>
      simp only [resumeRequest, settleAttempt, Job.action]
      generalize Proxy.Retry.decide _ _ _ = decision
      cases decision with
      | finish outcome => simp only [perform]
      | again length attempt => simp only [perform]
  | overdue exchange => simp only [resumeRequest, Job.action, perform]

/-! ## Moves that let a task go on -/

/-- The task that a move lets go on: the one at the position, if it is ready. -/
def resumed? (world : World) : Move → Option Task
  | .run index => (world.tasks[index]?).filter world.isReady
  | _ => none

/-- The world without the task at a position. -/
def without (index : Nat) (world : World) : World :=
  { world with tasks := world.tasks.eraseIdx index }

/-- A task that goes on is one of the world's, and it is taken off the list first. -/
theorem move_eq_resume (engine : Engine) {world : World} {move : Move} {task : Task}
    (going : world.resumed? move = some task) :
    ∃ index, move = .run index ∧ world.tasks[index]? = some task ∧
      world.move engine move = (world.without index).resume engine task := by
  cases move with
  | run index =>
      obtain ⟨found, ready⟩ := Option.filter_eq_some_iff.mp going
      exact ⟨index, rfl, found, by simp [World.move, runTask, found, ready, without]⟩
  | _ => simp [resumed?] at going

/-- A position without a ready task is passed over. -/
theorem move_run_eq_self (engine : Engine) {world : World} {index : Nat}
    (idle : world.resumed? (.run index) = none) : world.move engine (.run index) = world := by
  simp only [resumed?, Option.filter_eq_none_iff] at idle
  simp only [World.move, runTask]
  split
  · rfl
  · next task found => simp [idle task found]

/-- The attempt that a move makes: the job and the exchange whose outbound request is handed to
the transport. -/
def attempted? (engine : Engine) (world : World) (move : Move) : Option (Job × Exchange) :=
  match world.resumed? move with
  | some (.request job phase _) =>
    match job.action engine world.now phase with
    | .send exchange => some (job, exchange)
    | _ => none
  | _ => none

/-- A move makes an attempt if a request goes on by sending. -/
theorem attempted?_eq_some_iff {engine : Engine} {world : World} {move : Move} {job : Job}
    {exchange : Exchange} :
    world.attempted? engine move = some (job, exchange) ↔
      ∃ phase wake, world.resumed? move = some (.request job phase wake) ∧
        job.action engine world.now phase = .send exchange := by
  constructor
  · intro attempts
    simp only [attempted?] at attempts
    split at attempts
    · next other phase wake going =>
        split at attempts
        · next sent sends =>
            cases attempts
            exact ⟨phase, wake, going, sends⟩
        · cases attempts
    · cases attempts
  · rintro ⟨phase, wake, going, sends⟩
    simp only [attempted?, going, sends]

/-- An attempt is made by one of the requests under way. -/
theorem mem_tasks_of_attempted {engine : Engine} {world : World} {move : Move} {job : Job}
    {exchange : Exchange} (attempts : world.attempted? engine move = some (job, exchange)) :
    ∃ phase wake, .request job phase wake ∈ world.tasks ∧
      job.action engine world.now phase = .send exchange := by
  obtain ⟨phase, wake, going, sends⟩ := attempted?_eq_some_iff.mp attempts
  obtain ⟨index, -, found, -⟩ := move_eq_resume engine going
  exact ⟨phase, wake, List.mem_of_getElem? found, sends⟩

/-- The request of an attempt is handed to the transport by that move. -/
theorem move_eq_attempt (engine : Engine) {world : World} {move : Move} {job : Job}
    {exchange : Exchange} (attempts : world.attempted? engine move = some (job, exchange)) :
    ∃ index, move = .run index ∧
      world.move engine move = (world.without index).attempt engine job exchange := by
  obtain ⟨phase, wake, going, sends⟩ := attempted?_eq_some_iff.mp attempts
  obtain ⟨index, same, -, resumes⟩ := move_eq_resume engine going
  refine ⟨index, same, ?_⟩
  rw [resumes, resume, resumeRequest_eq_perform]
  have acts : job.action engine (world.without index).now phase = .send exchange := sends
  rw [acts, perform]

end World

end ApiGateway.Engine
