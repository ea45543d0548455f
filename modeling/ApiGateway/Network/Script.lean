import ApiGateway.Error
import ApiGateway.Http.Message

/-!
# What the network answers

The network outside the gateway is a script: for every authority, whether a
connection comes about and which replies follow one another. A list of replies is
used up from the front, and its last reply repeats.
-/

namespace ApiGateway

/-- Whether a connection comes about. -/
inductive Connecting where
  | accepted | refused | pending
deriving DecidableEq

/-- How an exchange ends, once it ends. -/
inductive ReplyEnd where
  | response (response : Http.Response)
  | failure (error : GatewayError)
  /-- The connection is closed without a response. -/
  | closed
  /-- Nothing ever comes. -/
  | silence

/-- One reply, after a delay. -/
structure Reply where
  delay : Duration
  outcome : ReplyEnd

/-- The script of one authority: replies to forwarded requests and to probes. -/
structure HostScript where
  connecting : Connecting
  replies : Option (List Reply)
  probes : Option (List Reply)

/-- The scripts of all authorities that exist. -/
structure Network where
  hosts : List (String × HostScript)

namespace Network

def empty : Network := ⟨[]⟩

def host? (network : Network) (authority : String) : Option HostScript :=
  network.hosts.lookup authority

/-- Give an authority a script. -/
def setHost (authority : String) (script : HostScript) (network : Network) : Network :=
  ⟨(network.hosts.filter fun host => host.1 ≠ authority) ++ [(authority, script)]⟩

/-- The first reply of a list and the list that is left; the last reply stays. -/
def takeReply? : List Reply → Option (Reply × List Reply)
  | [] => none
  | [reply] => some (reply, [reply])
  | reply :: rest => some (reply, rest)

end Network

/-- How requests reach the network. -/
inductive Medium where
  /-- Replies are handed over without a connection. -/
  | direct
  /-- Every request goes over a connection of its own. -/
  | connection
deriving DecidableEq

/-- Which of the replies of an authority a request uses up. -/
inductive Purpose where
  | forwarded | probe
deriving DecidableEq

/-- A request that left the gateway. -/
structure Sent where
  medium : Medium
  purpose : Purpose
  authority : String
  request : Http.Request

/-- How a request fares: what is left of the script, what was sent, and the outcome with the
time until it is known, if it ever is. -/
structure Delivery where
  network : Network
  sent : Option Sent
  outcome : Option (Duration × Except GatewayError Http.Response)

/-- Keep an outcome whose delay passes. -/
def Delivery.keepOutcome (delivery : Delivery) (keep : Duration → Bool) : Delivery :=
  { delivery with outcome := delivery.outcome.filter fun (delay, _) => keep delay }

namespace Network

private def clientError (reason : String) : Except GatewayError Http.Response :=
  .error (.backend ("client error (" ++ reason ++ ")"))

/-- The outcome of a reply, unless nothing ever comes. -/
def outcomeOf (reply : Reply) : Option (Duration × Except GatewayError Http.Response) :=
  match reply.outcome with
  | .response response => some (reply.delay, .ok response)
  | .failure error => some (reply.delay, .error error)
  | .closed => some (reply.delay, clientError "SendRequest")
  | .silence => none

private def emptyResponse : Http.Response := ⟨200, .empty, .empty⟩

/-- What of a response a connection carries: none has a body that answers a `HEAD` request or
whose status stands for no or unchanged content. -/
def carried (method : String) (response : Http.Response) : Http.Response :=
  if method = "HEAD" ∨ response.status = 204 ∨ response.status = 304 then
    { response with body := .empty }
  else response

/-- Hand a request over without a connection. -/
def deliverDirect (network : Network) (purpose : Purpose) (request : Http.Request) : Delivery :=
  let authority := request.uri.authority.getD ""
  let sent : Sent := ⟨.direct, purpose, authority, request⟩
  let replies := (network.host? authority).bind (·.replies)
  match (replies.getD []) |> takeReply?, network.host? authority with
  | some (reply, rest), some script =>
    ⟨network.setHost authority { script with replies := some rest }, some sent, outcomeOf reply⟩
  | _, _ =>
    ⟨network, some sent, some (0, .error (.backend ("no reply for " ++ authority)))⟩

/-- Send a request over a new connection, which adds the `host` header. An authority without a
list of replies answers with an empty success. -/
def deliverConnection (network : Network) (purpose : Purpose) (request : Http.Request) :
    Delivery :=
  let authority := request.uri.authority.getD ""
  match network.host? authority with
  | none => ⟨network, none, some (0, clientError "Connect")⟩
  | some script =>
    match script.connecting with
    | .refused => ⟨network, none, some (0, clientError "Connect")⟩
    | .pending => ⟨network, none, none⟩
    | .accepted =>
      let headers := if request.headers.contains "host" then request.headers
        else request.headers.append "host" (.ofString request.uri.hostHeader)
      let sent : Sent := ⟨.connection, purpose, authority, { request with headers }⟩
      let replies := match purpose with
        | .forwarded => script.replies
        | .probe => script.probes
      match (replies.getD []) |> takeReply? with
      | none => ⟨network, some sent, some (0, .ok emptyResponse)⟩
      | some (reply, rest) =>
        let script := match purpose with
          | .forwarded => { script with replies := some rest }
          | .probe => { script with probes := some rest }
        ⟨network.setHost authority script, some sent, (outcomeOf reply).map fun (delay, outcome) =>
          (delay, outcome.map (carried request.method))⟩

/-- Send a request. -/
def deliver (network : Network) (medium : Medium) (purpose : Purpose) (request : Http.Request) :
    Delivery :=
  match medium with
  | .direct => network.deliverDirect purpose request
  | .connection => network.deliverConnection purpose request

/-- Send a request that has only so much time. Without a connection an outcome may come when
the time is just over. With one it has to come before, and nothing is sent without any time
left; that there is no connection is known at once. -/
def deliverWithin (network : Network) (medium : Medium) (purpose : Purpose)
    (request : Http.Request) (limit : Duration) : Delivery :=
  let delivery := network.deliver medium purpose request
  match medium, delivery.sent with
  | .direct, _ => delivery.keepOutcome (· ≤ limit)
  | .connection, none => delivery
  | .connection, some _ =>
    if limit = 0 then ⟨network, none, none⟩ else delivery.keepOutcome (· < limit)

end Network

end ApiGateway
