import ApiGateway.Engine.Diagnostics
import ApiGateway.Proxy.Outbound
import ApiGateway.Text.Quoted

/-!
# Steps of the gateway

A run of the gateway is a sequence of moves: something arrives from outside, a
task that is ready goes on to its next wait, or time passes up to the next wake.
`World.move` is total; a move that is not possible changes nothing. Moves may come
in any order, so every interleaving of requests, probes and the clock is a run.
-/

namespace ApiGateway.Engine

open Http (Response)

namespace World

/-! ## Requests -/

/-- Answer a request with a refusal, counted for a route or not at all. -/
def refuse (ticket : Nat) (route : Option Routing.Route) (error : Http.ApiError)
    (world : World) : World :=
  let response := Response.ofError error
  match route with
  | some route =>
    (world.observe route error.status 0).answer ticket (some route.name) (some response)
  | none => world.answer ticket none (some response)

/-- The line about a request whose body was not taken. -/
def rejectedLine (job : Job) (error : Http.ApiError) : Log.Line :=
  .warn .engine ("proxy request body rejected method=" ++ job.head.method ++ " path=" ++
    job.head.uri.path ++ " route=" ++ job.route.pathPrefix ++ " status=" ++
    toString error.status ++ " error=" ++ error.message)

/-- The line about an exchange that failed. -/
def failedLine (job : Job) (error : GatewayError) : Log.Line :=
  .warn .engine ("proxy upstream error route=" ++ job.route.pathPrefix ++ " path=" ++
    job.head.uri.path ++ " error=" ++ error.message)

/-- The line about a forwarded request. -/
def accessLine (job : Job) (status : Nat) (latency : Duration) : Log.Line :=
  .info .engine ("proxy request method=" ++ job.head.method ++ " path=" ++ job.head.uri.path ++
    " route=" ++ job.route.pathPrefix ++ " upstream=" ++ Backend.nameOf job.route.target ++
    " status=" ++ toString status ++ " latency_ms=" ++ toString latency.toMillis ++
    " remote_ip=" ++ Proxy.remoteIp job.head.headers job.head.client ++
    " user_agent=" ++ Text.quoted (Proxy.userAgent job.head.headers))

/-- What the client gets for the outcome of an exchange. -/
def responseOf : Except GatewayError Response → Response
  | .ok response => Proxy.inboundResponse response
  | .error error => Response.ofError (.badGateway error.message)

/-- Feed the outcome of a forwarded request into the circuit; an opening circuit is logged and
probed. -/
def recordOutcome (engine : Engine) (route : Routing.Route) (success : Bool) (world : World) :
    World :=
  let (statuses, tripped) :=
    world.statuses.recordResult route.backendKey success world.now engine.circuitPolicy
  let world := { world with statuses }
  if tripped then
    let world := world.log
      (.warn .engine ("Circuit opened for upstream " ++ Backend.nameOf route.target))
    match engine.table.backend? route.backendKey with
    | some backend => world.push (.openedCircuit backend)
    | none => world
  else world

/-- Finish a forwarded request: one observation, one outcome for the circuit, one answer. -/
def finish (engine : Engine) (job : Job) (startedAt : Instant)
    (outcome : Except GatewayError Response) (world : World) : World :=
  let response := responseOf outcome
  let latency : Duration := (world.now - startedAt).toNat
  let world := match outcome with
    | .ok _ => world
    | .error error => world.log (failedLine job error)
  let world := world.observe job.route response.status latency
  let world := world.recordOutcome engine job.route (response.status < 500)
  (world.log (accessLine job response.status latency)).answer job.ticket (some job.route.name)
    (some response)

/-- Send the present attempt of an exchange. Without an outcome in time the deadline ends
it. -/
def attempt (engine : Engine) (job : Job) (exchange : Exchange) (world : World) : World :=
  let delivery := world.network.deliverWithin engine.transport.medium .forwarded
    exchange.outbound (job.deadline - world.now).toNat
  let world := { world with
    network := delivery.network
    sent := world.sent ++ delivery.sent.toList }
  match delivery.outcome with
  | some (delay, outcome) =>
    world.push (.request job (.awaiting exchange outcome) (world.now + delay))
  | none => world.push (.request job (.overdue exchange) job.deadline)

/-- Pause before the next attempt, or up to the deadline if that comes first. -/
def pauseFor (job : Job) (exchange : Exchange) (pause : Duration) (world : World) : World :=
  if world.now + pause ≤ job.deadline then
    world.push (.request job (.pausing exchange) (world.now + pause))
  else world.push (.request job (.overdue exchange) job.deadline)

/-- Forward a request whose body has been read. -/
def forward (engine : Engine) (job : Job) (body : ByteArray) (world : World) : World :=
  let inbound : Http.Request := ⟨job.head.method, job.head.uri, job.head.headers, body⟩
  match Proxy.outboundRequest job.route.target inbound
      (job.route.forwardedPath job.head.uri.path) job.head.client.ip engine.tls with
  | .error error => world.finish engine job world.now (.error error)
  | .ok outbound => world.attempt engine job ⟨outbound, 0, world.now⟩

/-- The outcome of an attempt is known: finish, or pause for the next attempt. -/
def settleAttempt (engine : Engine) (job : Job) (exchange : Exchange)
    (outcome : Except GatewayError Response) (world : World) : World :=
  match Proxy.Retry.decide (engine.transport.attemptsFor job.head.method) exchange.attempt
      outcome with
  | .finish outcome => world.finish engine job exchange.startedAt outcome
  | .again pause attempt => world.pauseFor job { exchange with attempt } pause

/-- A request goes on. -/
def resumeRequest (engine : Engine) (job : Job) (phase : Phase) (world : World) : World :=
  match phase with
  | .reading (.error fault) =>
    let error := fault.error engine.maxBodyBytes job.route.timeout
    (world.log (rejectedLine job error)).refuse job.ticket (some job.route) error
  | .reading (.ok body) => world.forward engine job body
  | .pausing exchange => world.attempt engine job exchange
  | .awaiting exchange outcome => world.settleAttempt engine job exchange outcome
  | .overdue exchange =>
    world.finish engine job exchange.startedAt (.error (.timeout job.route.timeout))

/-- A request arrives at the proxy. Instants have no end here, so that every timeout has a deadline;
a clock that cannot tell one so late would fail the request instead. -/
def serve (engine : Engine) (ticket : Nat) (head : Head) (pieces : List BodyPiece)
    (world : World) : World :=
  match engine.dispatch world.statuses world.now head with
  | .error refusal => world.refuse ticket refusal.countedRoute? refusal.error
  | .ok route =>
    let deadline := world.now + route.timeout
    let read := readBody engine.maxBodyBytes world.now deadline pieces
    world.push (.request ⟨ticket, head, route, deadline⟩ (.reading read.result) read.finished)

/-- A request arrives at the listener: the gateway's own pages come first. -/
def handle (engine : Engine) (ticket : Nat) (head : Head) (pieces : List BodyPiece)
    (world : World) : World :=
  match Page.ofRequest? head.method head.uri.path with
  | some page =>
    world.answer ticket none (some (engine.pageResponse world.statuses world.metrics page))
  | none => world.serve engine ticket head pieces

/-! ## Probes -/

/-- Start a probe. -/
def launchProbe (backend : Backend) (world : World) : World × Option Health.Check :=
  let launch := Health.launch world.network Health.probeTimeout world.now backend
  ({ world with
      network := launch.network
      sent := world.sent ++ launch.sent.toList
      lines := world.lines ++ launch.line.toList },
    launch.check)

/-- Start a probe of each backend, in the order of their keys. -/
def launchAll : List Backend → World → World × List Health.Check
  | [], world => (world, [])
  | backend :: rest, world =>
    let (world, check) := world.launchProbe backend
    let (world, checks) := launchAll rest world
    (world, check.toList ++ checks)

/-- Note what a probe found. -/
def settleCheck (world : World) (check : Health.Check) : World :=
  { world with
    statuses := world.statuses.update check.backend.key (check.finding.apply world.now)
    lines := world.lines ++ (check.finding.line? check.backend.name).toList }

/-- The pause between rounds; no interval stands for ten seconds. -/
def interval (engine : Engine) : Duration :=
  if engine.healthInterval = 0 then .ofSeconds 10 else engine.healthInterval

/-- A round of probes is over. -/
def endRound (engine : Engine) (purpose : RoundPurpose) (world : World) : World :=
  match purpose with
  | .initial =>
    (({ world with ready := true }).log
      (.info .lifecycle "Initial health checks complete, gateway ready")).push
        (.loopWaiting (world.now + interval engine))
  | .periodic next => world.push (.loopWaiting next)
  | .requested ticket => world.answer ticket none none

/-- Start a round of probes of all backends. -/
def startRound (engine : Engine) (purpose : RoundPurpose) (world : World) : World :=
  let (world, checks) := launchAll engine.table.backends world
  world.push (.round purpose checks)

/-- A round goes on: note the findings that are due, and end the round after the last. -/
def resumeRound (engine : Engine) (purpose : RoundPurpose) (checks : List Health.Check)
    (world : World) : World :=
  let due := checks.filter fun check => check.due ≤ world.now
  let pending := checks.filter fun check => !(check.due ≤ world.now)
  let world := due.foldl settleCheck world
  if pending.isEmpty then world.endRound engine purpose else world.push (.round purpose pending)

/-- The health loop goes on: it stops after a shutdown and starts a round otherwise. A loop that
waits stops as soon as it is told to. When that is no sooner than its round is due, it might still
make the round first; it is the shutdown that is taken to win here. -/
def resumeLoop (engine : Engine) (next : Instant) (world : World) : World :=
  if world.shutdown then world
  else world.startRound engine (.periodic (next + interval engine))

/-- Start the health loop. Only the first start has an effect. -/
def start (engine : Engine) (world : World) : World :=
  if world.started then world
  else
    let world := { world with started := true }
    if engine.table.backends.isEmpty then
      ({ world with ready := true }).log (.info .lifecycle "No upstreams configured, gateway ready")
    else world.push .loopStart

/-! ## Runs -/

/-- A task goes on; it has been taken off the list. -/
def resume (engine : Engine) (task : Task) (world : World) : World :=
  match task with
  | .request job phase _ => world.resumeRequest engine job phase
  | .openedCircuit backend =>
    let (world, check) := world.launchProbe backend
    match check with
    | some check => world.push (.probe check)
    | none => world
  | .probe check => world.settleCheck check
  | .loopStart => world.startRound engine .initial
  | .round purpose checks => world.resumeRound engine purpose checks
  | .loopWaiting next => world.resumeLoop engine next

/-- Let the task at a position go on if it is ready. -/
def runTask (engine : Engine) (index : Nat) (world : World) : World :=
  match world.tasks[index]? with
  | none => world
  | some task =>
    if world.isReady task then
      ({ world with tasks := world.tasks.eraseIdx index }).resume engine task
    else world

/-- May the clock go on to an instant? No task may be passed over. -/
def mayAdvance (world : World) (instant : Instant) : Bool :=
  world.now ≤ instant && world.tasks.all fun task => instant ≤ world.wakeOf task

/-- Let time pass up to an instant. -/
def advance (instant : Instant) (world : World) : World :=
  if world.mayAdvance instant then { world with now := instant } else world

end World

/-- One thing that happens. -/
inductive Move where
  | arrive (ticket : Nat) (head : Head) (pieces : List BodyPiece)
  | serve (ticket : Nat) (head : Head) (pieces : List BodyPiece)
  | run (index : Nat)
  | advance (instant : Instant)
  | start
  | shutdown
  | probeAll (ticket : Nat)
  | network (network : Network)

namespace World

/-- The gateway after a move. -/
def move (engine : Engine) (world : World) : Move → World
  | .arrive ticket head pieces => world.handle engine ticket head pieces
  | .serve ticket head pieces => world.serve engine ticket head pieces
  | .run index => world.runTask engine index
  | .advance instant => world.advance instant
  | .start => world.start engine
  | .shutdown => { world with shutdown := true }
  | .probeAll ticket => world.startRound engine (.requested ticket)
  | .network network => { world with network }

/-- The gateway after a sequence of moves. -/
def run (engine : Engine) (world : World) (moves : List Move) : World :=
  moves.foldl (fun world move => world.move engine move) world

end World

end ApiGateway.Engine
