import ApiGateway.Backend.StatusBook
import ApiGateway.Backend.Basic
import ApiGateway.Log.Level
import ApiGateway.Network.Script

/-!
# Health probes

A probe requests the health path of a backend over a connection of its own and
waits a limited time. What it finds is noted on the status of the backend.
-/

namespace ApiGateway.Health

/-- How long a probe waits. -/
def probeTimeout : Duration := .ofSeconds 3

/-- What a probe finds. -/
inductive Finding where
  | answered (status : Nat)
  | failed (error : GatewayError)
  | timedOut (limit : Duration)

/-- The reason of a failure as probes report it. -/
def failureText : GatewayError → String
  | .backend text => text
  | error => error.message

namespace Finding

/-- A probe succeeds with any status below 400. -/
def isHealthy : Finding → Bool
  | answered status => status < 400
  | _ => false

/-- The error that an unhealthy backend is left with. -/
def errorText : Finding → String
  | answered status => "health check status " ++ toString status
  | failed error => failureText error
  | timedOut limit => (GatewayError.timeout limit).message

/-- The line that is logged, if any. -/
def line? (finding : Finding) (backend : String) : Option Log.Line :=
  let report (text : String) : Option Log.Line :=
    some (.warn .lifecycle ("Health check for " ++ backend ++ " " ++ text))
  match finding with
  | answered status => if status < 400 then none else report ("returned " ++ toString status)
  | failed error => report ("failed: " ++ failureText error)
  | timedOut limit => report ("timed out after " ++ limit.text)

/-- Note the finding on a status. -/
def apply (finding : Finding) (now : Instant) (status : Backend.Status) : Backend.Status :=
  if finding.isHealthy then status.markHealthy now
  else status.markUnhealthy now finding.errorText

end Finding

/-- A probe under way: what it will find and when. -/
structure Check where
  backend : Backend
  due : Instant
  finding : Finding

/-- The request of a probe, if the health address is one. -/
def probeRequest (backend : Backend) : Except Http.UriError Http.Request :=
  (Http.Uri.parse backend.healthUrl).map fun uri => ⟨"GET", uri, .empty, .empty⟩

/-- The line for a probe that cannot be sent. -/
def skippedLine (backend : Backend) (error : Http.UriError) : Log.Line :=
  .warn .lifecycle ("Health check for " ++ backend.name ++ " skipped, bad url " ++
    backend.healthUrl ++ ": " ++ error.message)

/-- The finding of a probe and its delay: what came of it in time, if anything did. -/
def findingOf (limit : Duration)
    (outcome : Option (Duration × Except GatewayError Http.Response)) : Duration × Finding :=
  match outcome with
  | some (delay, .ok response) => (delay, .answered response.status)
  | some (delay, .error error) => (delay, .failed error)
  | none => (limit, .timedOut limit)

/-- The start of a probe: what is left of the network's script, what was sent, a line for a
probe that cannot be sent, and the probe under way otherwise. -/
structure Launch where
  network : Network
  sent : Option Sent
  line : Option Log.Line
  check : Option Check

/-- Start a probe. -/
def launch (network : Network) (limit : Duration) (now : Instant) (backend : Backend) : Launch :=
  match probeRequest backend with
  | .error error => ⟨network, none, some (skippedLine backend error), none⟩
  | .ok request =>
    let delivery := network.deliverWithin .connection .probe request limit
    let (delay, finding) := findingOf limit delivery.outcome
    ⟨delivery.network, delivery.sent, none, some ⟨backend, now + delay, finding⟩⟩

end ApiGateway.Health
