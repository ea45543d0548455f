import ApiGateway.Engine.World

/-!
# Waiting for readiness

Somebody may wait until the gateway is ready, with a cancellation of its own. Every time
the waiting goes on, the gate and the cancellation are looked at, in one order or the
other, and the first of them that is decided ends it.
-/

namespace ApiGateway.Engine

/-- One look of somebody who waits. -/
structure Look where
  world : World
  cancelled : Bool
  /-- The cancellation is looked at before the gate. -/
  cancellationFirst : Bool

namespace Look

/-- A closed gate ends the waiting well. -/
def gate? (look : Look) : Option (Except GatewayError Unit) :=
  if look.world.ready then some (.ok ()) else none

/-- A cancellation ends it with an error. -/
def cancellation? (look : Look) : Option (Except GatewayError Unit) :=
  if look.cancelled then some (.error .cancelled) else none

/-- How the waiting ends with this look, if it does. -/
def end? (look : Look) : Option (Except GatewayError Unit) :=
  if look.cancellationFirst then look.cancellation?.or look.gate?
  else look.gate?.or look.cancellation?

end Look

/-- The look that ends the waiting, and how it ends. -/
def waitUntilReady : List Look → Option (Look × Except GatewayError Unit)
  | [] => none
  | look :: rest =>
    match look.end? with
    | some result => some (look, result)
    | none => waitUntilReady rest

end ApiGateway.Engine
