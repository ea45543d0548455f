/-!
# The ready gate

Waiters stand before an open gate until it is closed for the first time. From then on
nobody waits: `passed` counts all who came, whether before or after.
-/

namespace ApiGateway.Health

structure ReadyGate where
  closed : Bool := false
  /-- Those who came and still wait. -/
  waiting : Nat := 0
  /-- Those who need not wait any more. -/
  passed : Nat := 0
deriving DecidableEq, Inhabited

namespace ReadyGate

/-- Somebody comes to wait. -/
def arrive (gate : ReadyGate) : ReadyGate :=
  if gate.closed then { gate with passed := gate.passed + 1 }
  else { gate with waiting := gate.waiting + 1 }

/-- Close the gate and let everybody pass. -/
def close (gate : ReadyGate) : ReadyGate :=
  { closed := true, waiting := 0, passed := gate.passed + gate.waiting }

end ReadyGate

end ApiGateway.Health
