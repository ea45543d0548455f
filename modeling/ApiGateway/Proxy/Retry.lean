import ApiGateway.Error
import ApiGateway.Http.Message
import ApiGateway.Number.Word
import ApiGateway.Text.Chars

/-!
# Sending again

Requests with the method `GET` are sent again after a failure, up to a number of
attempts, with a pause that doubles up to a second. A response of any status is
a success. `roundTrip` is the whole exchange over any way of sending.
-/

namespace ApiGateway.Proxy.Retry

/-- What a pause is multiplied by: one, doubled with each pause before it. A factor that does not
fit a 32-bit word is the greatest one. -/
def factor (doublings : Nat) : Nat :=
  if doublings < 32 then Nat.pow 2 doublings else Number.wordBound 32 - 1

/-- The pause before an attempt, counted from zero: none before the first, then 100
milliseconds doubling up to a second. -/
def backoff (attempt : Nat) : Duration :=
  match attempt with
  | 0 => 0
  | earlier + 1 => min ((Duration.ofMillis 100).saturatingMul (factor earlier)) (.ofSeconds 1)

/-- How many attempts a request gets; the count is cut to a 32-bit word. -/
def attemptsFor (retries : Nat) (method : String) : Nat :=
  if Text.sameIgnoringCase method.toList "GET".toList then
    min (retries + 1) (Number.wordBound 32 - 1)
  else 1

/-- What follows the outcome of an attempt. -/
inductive Decision (α : Type) where
  | finish (outcome : Except GatewayError α)
  /-- Pause and make the attempt of this number. -/
  | again (pause : Duration) (attempt : Nat)

/-- Finish with a success or after the last attempt, go on otherwise. -/
def decide {α : Type} (attempts attempt : Nat) (outcome : Except GatewayError α) : Decision α :=
  match outcome with
  | .ok value => .finish (.ok value)
  | .error error =>
    if attempt + 1 < attempts then .again (backoff (attempt + 1)) (attempt + 1)
    else .finish (.error error)

/-! ## Round trips -/

/-- A request as it is handed over for sending, in a version of the protocol. -/
structure Outgoing extends Http.Request where
  version : Http.Version

/-- The request of an attempt, put together anew from the parts of the original one. -/
def rebuild (original : Outgoing) : Outgoing where
  method := original.method
  uri := original.uri
  version := original.version
  headers := original.headers
  body := original.body

/-- An attempt that was made: the pause before it and the request that was sent. -/
structure Attempt where
  pause : Duration
  request : Outgoing

/-- How the attempts for a request went: the outcome, the state that the sender is left in, and
the attempts in their order. -/
structure RoundTrip (σ α : Type) where
  outcome : Except GatewayError α
  sender : σ
  attempts : List Attempt

/-- The exchange from an attempt on, which comes after a pause. -/
def roundTripFrom {σ α : Type} (send : σ → Outgoing → σ × Except GatewayError α)
    (attempts : Nat) (original : Outgoing) : Nat → Nat → Duration → σ → RoundTrip σ α
  | 0, _, _, sender => ⟨.error (.backend "no attempts made"), sender, []⟩
  | fuel + 1, attempt, pause, sender =>
    let request := rebuild original
    let (sender, outcome) := send sender request
    match decide attempts attempt outcome with
    | .finish outcome => ⟨outcome, sender, [⟨pause, request⟩]⟩
    | .again next attempt =>
      let rest := roundTripFrom send attempts original fuel attempt next sender
      { rest with attempts := ⟨pause, request⟩ :: rest.attempts }

/-- All attempts for a request. -/
def roundTrip {σ α : Type} (send : σ → Outgoing → σ × Except GatewayError α) (retries : Nat)
    (original : Outgoing) (sender : σ) : RoundTrip σ α :=
  let attempts := attemptsFor retries original.method
  roundTripFrom send attempts original attempts 0 (backoff 0) sender

end ApiGateway.Proxy.Retry
