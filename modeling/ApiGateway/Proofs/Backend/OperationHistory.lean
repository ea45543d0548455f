import ApiGateway.Proofs.Backend.Recording
import Mathlib.Data.List.DropRight

/-!
# A status is what its history says

A status changes by three operations: two marks that probes leave, and the recording of
an outcome. `Status.Reflects` reads every field but the time of the circuit off the list
of operations, without the status that each of them met; only the error text needs to
know which recordings opened the circuit. `reflects_after` says that this is the status
that the operations make of a new one.
-/

namespace ApiGateway.Backend

/-- An operation on a status, with its time. -/
inductive Operation where
  | markHealthy (now : Instant)
  | markUnhealthy (now : Instant) (error : String)
  | recordResult (success : Bool) (now : Instant) (policy : CircuitPolicy)

namespace Operation

def time : Operation → Instant
  | markHealthy now => now
  | markUnhealthy now _ => now
  | recordResult _ now _ => now

/-- Probes leave marks. -/
def isMark : Operation → Bool
  | recordResult .. => false
  | _ => true

def isHealthyMark : Operation → Bool
  | markHealthy _ => true
  | _ => false

def isUnhealthyMark : Operation → Bool
  | markUnhealthy .. => true
  | _ => false

/-- A probe failed, or a request. -/
def isError : Operation → Bool
  | markHealthy _ => false
  | markUnhealthy .. => true
  | recordResult success .. => !success

/-- A probe succeeded, or a request. -/
def isSuccess : Operation → Bool
  | markHealthy _ => true
  | markUnhealthy .. => false
  | recordResult success .. => success

/-- The status after an operation. The flag tells that the circuit opened. -/
def apply (status : Status) : Operation → Status × Bool
  | markHealthy now => (status.markHealthy now, false)
  | markUnhealthy now error => (status.markUnhealthy now error, false)
  | recordResult success now policy => status.recordResult success now policy

end Operation

/-- An operation that took place, with the flag that it returned. -/
structure Call where
  operation : Operation
  opened : Bool

/-- The error text that a call leaves, if it leaves one. -/
def Call.errorText? (call : Call) : Option String :=
  match call.operation with
  | .markHealthy _ => some ""
  | .markUnhealthy _ error => some error
  | .recordResult .. => if call.opened then some Status.circuitOpenedError else none

namespace Status

/-- The status after some operations, the first one first. -/
def after (status : Status) (history : List Operation) : Status :=
  history.foldl (fun status operation => (operation.apply status).1) status

/-- The calls that some operations are when they start from a status. -/
def calls : Status → List Operation → List Call
  | _, [] => []
  | status, operation :: rest =>
    ⟨operation, (operation.apply status).2⟩ :: calls (operation.apply status).1 rest

end Status

namespace Operation

/-- The last mark of a history. -/
def lastMark? (history : List Operation) : Option Operation :=
  (history.filter isMark).getLast?

/-- The operations after the last one of a kind, all of them if there is none of the kind. -/
def since (kind : Operation → Bool) (history : List Operation) : List Operation :=
  history.rtakeWhile fun operation => !kind operation

theorem lastMark?_concat (history : List Operation) (operation : Operation) :
    lastMark? (history ++ [operation]) =
      if operation.isMark then some operation else lastMark? history := by
  by_cases mark : operation.isMark <;> simp [lastMark?, List.filter_append, mark]

theorem since_concat (kind : Operation → Bool) (history : List Operation)
    (operation : Operation) :
    since kind (history ++ [operation]) =
      if kind operation then [] else since kind history ++ [operation] := by
  by_cases ends : kind operation <;> simp [since, ends]

theorem countP_since_le (kind counted : Operation → Bool) (history : List Operation) :
    (since kind history).countP counted ≤ history.length :=
  List.countP_le_length.trans (List.rtakeWhile_suffix _ _).length_le

end Operation

open Operation (lastMark? since)

namespace Status

/-- A status reflects a history of calls: every field says what the history says of it, and the
availability is decided by the fields. -/
structure Reflects (history : List Call) (status : Status) : Prop where
  /-- The last mark decides the health. -/
  healthy : status.healthy = false ↔
    ∃ now error, lastMark? (history.map Call.operation) = some (.markUnhealthy now error)
  lastChecked : status.lastChecked =
    (lastMark? (history.map Call.operation)).map Operation.time
  /-- The first failed probe after the last successful one. -/
  unhealthySince : status.unhealthySince =
    ((since Operation.isHealthyMark (history.map Call.operation)).find?
      Operation.isUnhealthyMark).map Operation.time
  /-- The errors after the last success of a probe or a request. -/
  consecutiveErrors : status.consecutiveErrors.toNat =
    (since Operation.isSuccess (history.map Call.operation)).countP Operation.isError
  lastError : status.lastError = (history.filterMap Call.errorText?).getLastD ""
  counts : status.failuresInWindow ≤ status.requestsInWindow
  available : ∀ now, status.availability now = .ok () ↔
    status.healthy = true ∧ ∀ closing, status.circuitOpenUntil = some closing → closing ≤ now
  circuitOpen : ∀ now closing, status.circuitOpenUntil = some closing → now < closing →
    status.availability now = .error "circuit_open"
  unhealthy : ∀ now, (∀ closing, status.circuitOpenUntil = some closing → closing ≤ now) →
    status.healthy = false →
    status.availability now = .error status.lastError

section Histories

variable (status : Status) (history : List Operation) (operation : Operation)

theorem after_concat :
    status.after (history ++ [operation]) = (operation.apply (status.after history)).1 := by
  simp [after]

theorem calls_concat : status.calls (history ++ [operation]) =
    status.calls history ++ [⟨operation, (operation.apply (status.after history)).2⟩] := by
  induction history generalizing status with
  | nil => rfl
  | cons first rest inductionHypothesis =>
      simp only [List.cons_append, calls, inductionHypothesis]
      rfl

/-- The calls are the operations. -/
@[simp] theorem map_operation_calls : (status.calls history).map Call.operation = history := by
  induction history generalizing status with
  | nil => rfl
  | cons first rest inductionHypothesis => simp only [calls, List.map_cons, inductionHypothesis]

end Histories

section NewStatus

variable (created : Instant) (history : List Operation)

theorem healthy_after : ((new created).after history).healthy = false ↔
    ∃ now error, lastMark? history = some (.markUnhealthy now error) := by
  induction history using List.reverseRecOn with
  | nil => simp [after, new, lastMark?]
  | append_singleton history operation inductionHypothesis =>
      rw [after_concat, Operation.lastMark?_concat]
      cases operation with
      | markHealthy now => simp [Operation.apply, markHealthy, Operation.isMark]
      | markUnhealthy now error => simp [Operation.apply, markUnhealthy, Operation.isMark]
      | recordResult success now policy =>
          simpa [Operation.apply, Operation.isMark] using inductionHypothesis

theorem lastChecked_after :
    ((new created).after history).lastChecked = (lastMark? history).map Operation.time := by
  induction history using List.reverseRecOn with
  | nil => rfl
  | append_singleton history operation inductionHypothesis =>
      rw [after_concat, Operation.lastMark?_concat]
      cases operation with
      | markHealthy now => rfl
      | markUnhealthy now error => rfl
      | recordResult success now policy =>
          simpa [Operation.apply, Operation.isMark] using inductionHypothesis

/-- The first failed probe since the last successful one sets the time; later ones keep it. -/
theorem unhealthySince_after : ((new created).after history).unhealthySince =
    ((since Operation.isHealthyMark history).find? Operation.isUnhealthyMark).map
      Operation.time := by
  induction history using List.reverseRecOn with
  | nil => rfl
  | append_singleton history operation inductionHypothesis =>
      rw [after_concat, Operation.since_concat]
      cases operation with
      | markHealthy now => rfl
      | markUnhealthy now error =>
          cases earlier : (since Operation.isHealthyMark history).find?
              Operation.isUnhealthyMark with
          | none =>
              simp [Operation.apply, markUnhealthy, inductionHypothesis, earlier,
                Operation.isHealthyMark, Operation.isUnhealthyMark, Operation.time]
          | some first =>
              simp [Operation.apply, markUnhealthy, inductionHypothesis, earlier,
                Operation.isHealthyMark]
      | recordResult success now policy =>
          simp [Operation.apply, inductionHypothesis, Operation.isHealthyMark,
            Operation.isUnhealthyMark]

theorem lastError_after : ((new created).after history).lastError =
    (((new created).calls history).filterMap Call.errorText?).getLastD "" := by
  induction history using List.reverseRecOn with
  | nil => rfl
  | append_singleton history operation inductionHypothesis =>
      rw [after_concat, calls_concat, List.filterMap_append]
      cases operation with
      | markHealthy now => simp [Operation.apply, markHealthy, Call.errorText?]
      | markUnhealthy now error => simp [Operation.apply, markUnhealthy, Call.errorText?]
      | recordResult success now policy =>
          simp only [Operation.apply, lastError_recordResult]
          split
          · next opens => simp [Call.errorText?, opens]
          · next stays => simp [Call.errorText?, stays, inductionHypothesis]

/-- Below its largest value a counter does not wrap around. -/
theorem toNat_add_one {count : UInt32} (room : count.toNat + 1 < UInt32.size) :
    (count + 1).toNat = count.toNat + 1 :=
  (UInt32.toNat_add count 1).trans (Nat.mod_eq_of_lt room)

variable {history} (short : history.length < UInt32.size)
include short

theorem consecutiveErrors_after : ((new created).after history).consecutiveErrors.toNat =
    (since Operation.isSuccess history).countP Operation.isError := by
  induction history using List.reverseRecOn with
  | nil => rfl
  | append_singleton history operation inductionHypothesis =>
      rw [List.length_append, List.length_singleton] at short
      have counted := inductionHypothesis (by omega)
      -- The count is bounded by the length, so that adding one does not wrap around.
      have bounded := Operation.countP_since_le Operation.isSuccess Operation.isError history
      have adds : (((new created).after history).consecutiveErrors + 1).toNat =
          (since Operation.isSuccess history).countP Operation.isError + 1 := by
        rw [toNat_add_one (by omega), counted]
      rw [after_concat, Operation.since_concat]
      cases operation with
      | markHealthy now => rfl
      | markUnhealthy now error =>
          simp [Operation.apply, markUnhealthy, adds, Operation.isSuccess, Operation.isError]
      | recordResult success now policy =>
          cases success with
          | true =>
              simp [Operation.apply, consecutiveErrors_recordResult, Operation.isSuccess]
          | false =>
              simp [Operation.apply, consecutiveErrors_recordResult, adds, Operation.isSuccess,
                Operation.isError]

/-- A window never counts more failures than requests, nor more requests than there were. -/
theorem counts_after :
    ((new created).after history).failuresInWindow.toNat ≤
        ((new created).after history).requestsInWindow.toNat ∧
      ((new created).after history).requestsInWindow.toNat ≤ history.length := by
  induction history using List.reverseRecOn with
  | nil => exact ⟨Nat.le_refl _, Nat.le_refl _⟩
  | append_singleton history operation inductionHypothesis =>
      rw [List.length_append, List.length_singleton] at short ⊢
      obtain ⟨fewer, bounded⟩ := inductionHypothesis (by omega)
      rw [after_concat]
      cases operation with
      | markHealthy now => exact ⟨fewer, Nat.le_succ_of_le bounded⟩
      | markUnhealthy now error => exact ⟨fewer, Nat.le_succ_of_le bounded⟩
      | recordResult success now policy =>
          obtain ⟨requests, failures, origin, counted, failed⟩ :=
            ((new created).after history).counts_recordResult success now policy
          have start : failures.toNat ≤ requests.toNat ∧ requests.toNat ≤ history.length := by
            rcases origin with ⟨rfl, rfl⟩ | ⟨rfl, rfl⟩
            · exact ⟨Nat.le_refl _, Nat.zero_le _⟩
            · exact ⟨fewer, bounded⟩
          have adds (count : UInt32) (small : count.toNat ≤ history.length) :
              (count + 1).toNat = count.toNat + 1 :=
            toNat_add_one (by omega)
          simp only [Operation.apply, counted, failed, adds requests start.2]
          cases success with
          | true =>
              simp only [if_true]
              omega
          | false =>
              have small : failures.toNat ≤ history.length := Nat.le_trans start.1 start.2
              simp only [Bool.false_eq_true, if_false, adds failures small]
              omega

end NewStatus

section Availability

variable {status : Status} {now : Instant}

theorem isCircuitOpen_eq_true_iff : status.isCircuitOpen now = true ↔
    ∃ closing, status.circuitOpenUntil = some closing ∧ now < closing := by
  cases found : status.circuitOpenUntil <;> simp [isCircuitOpen, found]

theorem isCircuitOpen_eq_false_iff : status.isCircuitOpen now = false ↔
    ∀ closing, status.circuitOpenUntil = some closing → closing ≤ now := by
  cases found : status.circuitOpenUntil <;> simp [isCircuitOpen, found]

/-- The reason for an open circuit is given for an open one, and for an error with its text. -/
theorem availability_eq_circuitOpen_iff : status.availability now = .error circuitOpenReason ↔
    status.isCircuitOpen now = true ∨
      status.healthy = false ∧ status.lastError = circuitOpenReason := by
  rw [availability]
  cases status.isCircuitOpen now <;> cases status.healthy <;> simp

theorem availability_eq_ok_iff : status.availability now = .ok () ↔
    status.healthy = true ∧
      ∀ closing, status.circuitOpenUntil = some closing → closing ≤ now := by
  rw [← isCircuitOpen_eq_false_iff, availability]
  cases status.isCircuitOpen now <;> cases status.healthy <;> simp

end Availability

/-- The status that fewer than `UInt32.size` operations make of a new one, at whatever times they
take place, reflects their history. -/
theorem reflects_after (created : Instant) {history : List Operation}
    (short : history.length < UInt32.size) :
    ((new created).after history).Reflects ((new created).calls history) where
  healthy := by rw [map_operation_calls, healthy_after]
  lastChecked := by rw [map_operation_calls, lastChecked_after]
  unhealthySince := by rw [map_operation_calls, unhealthySince_after]
  consecutiveErrors := by rw [map_operation_calls, consecutiveErrors_after created short]
  lastError := lastError_after created history
  counts := UInt32.le_iff_toNat_le.mpr (counts_after created short).1
  available now := availability_eq_ok_iff
  circuitOpen now closing present within := by
    have opened := isCircuitOpen_eq_true_iff.mpr ⟨closing, present, within⟩
    simp only [availability, opened, if_true, circuitOpenReason]
  unhealthy now closedNow down := by
    have closed := isCircuitOpen_eq_false_iff.mpr closedNow
    simp only [availability, closed, down, Bool.false_eq_true, if_false, Bool.not_false, if_true]

/-- Three failures that open the circuit, a successful probe during the cooldown, and two probes
that fail. -/
def troubledHistory : List Operation :=
  let policy : CircuitPolicy := ⟨.ofSeconds 30, CircuitPolicy.half, .ofSeconds 30⟩
  [.recordResult false 1 policy, .recordResult false 2 policy, .recordResult false 3 policy,
    .markHealthy 4, .markUnhealthy 5 "refused", .markUnhealthy 6 "timed out",
    .recordResult false 7 policy]

/-- After them the circuit has opened a second time, which hides the text of the probe. -/
theorem reflects_troubledHistory :
    troubledHistory.length < UInt32.size ∧
      ((new 0).after troubledHistory).healthy = false ∧
      ((new 0).after troubledHistory).lastChecked = some 6 ∧
      ((new 0).after troubledHistory).unhealthySince = some 5 ∧
      ((new 0).after troubledHistory).consecutiveErrors.toNat = 3 ∧
      ((new 0).after troubledHistory).lastError = "circuit opened due to error ratio" := by
  have short : troubledHistory.length < UInt32.size := by decide
  have reflects := reflects_after 0 short
  rw [reflects.lastChecked, reflects.unhealthySince, reflects.consecutiveErrors,
    reflects.lastError, reflects.healthy, map_operation_calls]
  exact ⟨short, ⟨6, "timed out", rfl⟩, rfl, rfl, rfl, by decide⟩

end Status

end ApiGateway.Backend
