import ApiGateway.Engine.Basic

/-!
# The running gateway

A `World` is the gateway at one instant: the statuses and metrics it keeps, the
script of the network outside, and the tasks that are under way. Every task waits
for an instant and says what will happen then.
-/

namespace ApiGateway.Engine

/-- A request that was admitted to a route. Body and exchange share its deadline. -/
structure Job where
  ticket : Nat
  head : Head
  route : Routing.Route
  deadline : Instant

/-- A request that is being forwarded. -/
structure Exchange where
  outbound : Http.Request
  attempt : Nat
  startedAt : Instant

/-- What an admitted request waits for. -/
inductive Phase where
  /-- The end of its body. -/
  | reading (result : Except BodyFault ByteArray)
  /-- The end of the pause before the next attempt. -/
  | pausing (exchange : Exchange)
  /-- The outcome of the present attempt. -/
  | awaiting (exchange : Exchange) (outcome : Except GatewayError Http.Response)
  /-- The deadline, which comes before anything else. -/
  | overdue (exchange : Exchange)

/-- Who a round of probes is made for. -/
inductive RoundPurpose where
  /-- The first round of the health loop, which makes the gateway ready. -/
  | initial
  /-- A later round of the loop, with the time of the next one. -/
  | periodic (next : Instant)
  /-- A single round that somebody waits for. -/
  | requested (ticket : Nat)

/-- Something under way. -/
inductive Task where
  | request (job : Job) (phase : Phase) (wake : Instant)
  /-- A probe that is about to start because a circuit opened. -/
  | openedCircuit (backend : Backend)
  /-- A single probe under way. -/
  | probe (check : Health.Check)
  /-- The health loop before its first round. -/
  | loopStart
  /-- A round of probes under way. -/
  | round (purpose : RoundPurpose) (checks : List Health.Check)
  /-- The health loop between two rounds. -/
  | loopWaiting (next : Instant)

/-- What was given to somebody who waits: a response, or the end of a round of probes. -/
structure Answer where
  ticket : Nat
  /-- The route that the answer was counted for. -/
  counted : Option String
  response : Option Http.Response

/-- The gateway and its surroundings at one instant. -/
structure World where
  now : Instant
  network : Network
  statuses : Backend.StatusBook
  metrics : Metrics
  /-- The ready gate is closed: the first round of probes is over. -/
  ready : Bool
  started : Bool
  shutdown : Bool
  tasks : List Task
  sent : List Sent
  lines : List Log.Line
  answers : List Answer

namespace World

/-- The gateway just after it was built. -/
def initial (engine : Engine) (network : Network) (now : Instant) : World where
  now
  network
  statuses := .new (engine.table.backends.map Backend.key) now
  metrics := .empty
  ready := false
  started := false
  shutdown := false
  tasks := []
  sent := []
  lines := []
  answers := []

def log (line : Log.Line) (world : World) : World :=
  { world with lines := world.lines ++ [line] }

def push (task : Task) (world : World) : World :=
  { world with tasks := world.tasks ++ [task] }

def answer (ticket : Nat) (counted : Option String) (response : Option Http.Response)
    (world : World) : World :=
  { world with answers := world.answers ++ [⟨ticket, counted, response⟩] }

/-- Count an answer of a route in the metrics. -/
def observe (route : Routing.Route) (status : Nat) (latency : Duration) (world : World) : World :=
  { world with metrics := world.metrics.observe route.name status latency }

/-- The earliest of some instants, or a default. -/
def earliest (default : Instant) : List Instant → Instant
  | [] => default
  | first :: rest => rest.foldl min first

/-- The instant a task waits for. -/
def wakeOf (world : World) : Task → Instant
  | .request _ _ wake => wake
  | .openedCircuit _ => world.now
  | .probe check => check.due
  | .loopStart => world.now
  | .round _ checks => earliest world.now (checks.map (·.due))
  | .loopWaiting next => if world.shutdown then world.now else next

/-- Can a task go on now? -/
def isReady (world : World) (task : Task) : Bool :=
  world.wakeOf task ≤ world.now

end World

end ApiGateway.Engine
