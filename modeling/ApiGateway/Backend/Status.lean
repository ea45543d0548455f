import ApiGateway.Json.Basic
import ApiGateway.Number.Binary64
import ApiGateway.Time.Instant

/-!
# Health and circuit of a backend

Two separate facts live on one record: the health that probes report, and the
circuit that the outcomes of forwarded requests open. `recordResult` counts the
outcomes in a window and opens the circuit for a cooldown when enough of them
failed; `availability` says whether requests may be forwarded now.
-/

namespace ApiGateway.Backend

/-- What is known about a backend. -/
structure Status where
  healthy : Bool
  lastChecked : Option Instant
  lastError : String
  circuitOpenUntil : Option Instant
  requestsInWindow : UInt32
  failuresInWindow : UInt32
  windowStartedAt : Instant
  unhealthySince : Option Instant
  consecutiveErrors : UInt32
deriving DecidableEq

/-- When the circuit opens and for how long. -/
structure CircuitPolicy where
  window : Duration
  threshold : Binary64
  cooldown : Duration
deriving DecidableEq

namespace CircuitPolicy

/-- A window of no length stands for thirty seconds. -/
def effectiveWindow (policy : CircuitPolicy) : Duration :=
  if policy.window = 0 then Duration.ofSeconds 30 else policy.window

/-- The ratio of one half. -/
def half : Binary64 := .ofRatio false 1 2

/-- A threshold of zero or less stands for one half. -/
def effectiveThreshold (policy : CircuitPolicy) : Binary64 :=
  if policy.threshold.le (.zero false) then half else policy.threshold

/-- Is the share of failures at least the threshold? -/
def reached (policy : CircuitPolicy) (failures requests : UInt32) : Bool :=
  policy.effectiveThreshold.le (.ofRatio false failures.toNat requests.toNat)

end CircuitPolicy

namespace Status

/-- Why a backend with an open circuit gets no requests. -/
def circuitOpenReason : String := "circuit_open"

/-- The error text that an opening circuit leaves. -/
def circuitOpenedError : String := "circuit opened due to error ratio"

/-- Fewer requests in a window than this never open the circuit. -/
def minSamples : UInt32 := 3

/-- A backend nothing is known about: healthy, with a window that starts now. -/
def new (now : Instant) : Status where
  healthy := true
  lastChecked := none
  lastError := ""
  circuitOpenUntil := none
  requestsInWindow := 0
  failuresInWindow := 0
  windowStartedAt := now
  unhealthySince := none
  consecutiveErrors := 0

/-- A probe succeeded. An open circuit stays open until its time is over. -/
def markHealthy (now : Instant) (status : Status) : Status :=
  { status with
    healthy := true
    lastChecked := some now
    lastError := ""
    unhealthySince := none
    consecutiveErrors := 0
    circuitOpenUntil := status.circuitOpenUntil.filter fun until_ => !(until_ < now) }

/-- A probe failed. -/
def markUnhealthy (now : Instant) (error : String) (status : Status) : Status :=
  { status with
    healthy := false
    lastChecked := some now
    lastError := error
    unhealthySince := status.unhealthySince.or (some now)
    consecutiveErrors := status.consecutiveErrors + 1 }

/-- Is the circuit open at an instant? -/
def isCircuitOpen (now : Instant) (status : Status) : Bool :=
  status.circuitOpenUntil.any fun until_ => now < until_

/-- May requests be forwarded? An open circuit is the first reason against it, and the error of
an unhealthy backend, whatever its text, the second. -/
def availability (now : Instant) (status : Status) : Except String Unit :=
  if status.isCircuitOpen now then .error circuitOpenReason
  else if !status.healthy then .error status.lastError
  else .ok ()

/-- Start a new window at an instant if the present one is over. -/
def rollWindow (now : Instant) (policy : CircuitPolicy) (status : Status) : Status :=
  if now - status.windowStartedAt > Instant.delta policy.effectiveWindow then
    { status with windowStartedAt := now, requestsInWindow := 0, failuresInWindow := 0 }
  else status

/-- A forwarded request succeeded. -/
def recordSuccess (now : Instant) (policy : CircuitPolicy) (status : Status) : Status :=
  let current := status.rollWindow now policy
  { current with requestsInWindow := current.requestsInWindow + 1, consecutiveErrors := 0 }

/-- Count a failed request. -/
def countFailure (now : Instant) (policy : CircuitPolicy) (status : Status) : Status :=
  let current := status.rollWindow now policy
  { current with
    requestsInWindow := current.requestsInWindow + 1
    failuresInWindow := current.failuresInWindow + 1
    consecutiveErrors := current.consecutiveErrors + 1 }

/-- Do the counts of a window open the circuit? -/
def trips (policy : CircuitPolicy) (status : Status) : Bool :=
  minSamples ≤ status.requestsInWindow &&
    policy.reached status.failuresInWindow status.requestsInWindow

/-- Open the circuit for the cooldown. -/
def openCircuit (now : Instant) (policy : CircuitPolicy) (status : Status) : Status :=
  { status with
    circuitOpenUntil := some (now.saturatingAdd policy.cooldown)
    lastError := circuitOpenedError }

/-- Feed the outcome of a forwarded request into the window. The flag tells that this call
opened the circuit. -/
def recordResult (success : Bool) (now : Instant) (policy : CircuitPolicy) (status : Status) :
    Status × Bool :=
  if success then (status.recordSuccess now policy, false)
  else
    let counted := status.countFailure now policy
    if counted.trips policy then (counted.openCircuit now policy, true) else (counted, false)

/-- The document that the diagnostic answers show: times to the second; an empty error and
absent times other than the last check are left out. -/
def toJson (status : Status) : Json :=
  let time (t : Instant) : Json := .string t.rfc3339
  let present (name : String) : Option Instant → List (String × Json)
    | some t => [(name, time t)]
    | none => []
  .object
    ([("healthy", .bool status.healthy), ("last_checked", .ofOption time status.lastChecked)] ++
      (if status.lastError.isEmpty then [] else [("last_error", .string status.lastError)]) ++
      present "circuit_open_until" status.circuitOpenUntil ++
      [("requests_in_window", .ofNat status.requestsInWindow.toNat),
        ("failures_in_window", .ofNat status.failuresInWindow.toNat),
        ("window_started_at", time status.windowStartedAt)] ++
      present "unhealthy_since" status.unhealthySince ++
      [("consecutive_errors", .ofNat status.consecutiveErrors.toNat)])

end Status

end ApiGateway.Backend
