import ApiGateway.Backend.Status

/-!
# What a recorded outcome changes

`Status.recordResult` rolls the window, counts, and perhaps opens the circuit. Here its
effect is given field by field. Probes own the fields that it leaves alone; of those that
it writes, only `lastError` and `circuitOpenUntil` depend on whether the circuit opened.
-/

namespace ApiGateway.Backend.Status

variable (success : Bool) (now : Instant) (policy : CircuitPolicy) (status : Status)

/-- A new window takes nothing but the counts and the start of the window. -/
theorem rollWindow_eq : ∃ requests failures started,
    status.rollWindow now policy =
        { status with
          requestsInWindow := requests, failuresInWindow := failures, windowStartedAt := started } ∧
      ((requests = 0 ∧ failures = 0) ∨
        (requests = status.requestsInWindow ∧ failures = status.failuresInWindow)) := by
  simp only [rollWindow]
  split
  · exact ⟨0, 0, now, rfl, .inl ⟨rfl, rfl⟩⟩
  · exact ⟨_, _, _, rfl, .inr ⟨rfl, rfl⟩⟩

@[simp] theorem healthy_recordResult :
    (status.recordResult success now policy).1.healthy = status.healthy := by
  simp only [recordResult, recordSuccess, countFailure, openCircuit, rollWindow]
  repeat' split
  all_goals rfl

@[simp] theorem lastChecked_recordResult :
    (status.recordResult success now policy).1.lastChecked = status.lastChecked := by
  simp only [recordResult, recordSuccess, countFailure, openCircuit, rollWindow]
  repeat' split
  all_goals rfl

@[simp] theorem unhealthySince_recordResult :
    (status.recordResult success now policy).1.unhealthySince = status.unhealthySince := by
  simp only [recordResult, recordSuccess, countFailure, openCircuit, rollWindow]
  repeat' split
  all_goals rfl

/-- A success ends the errors in a row, a failure adds one. -/
theorem consecutiveErrors_recordResult :
    (status.recordResult success now policy).1.consecutiveErrors =
      if success then 0 else status.consecutiveErrors + 1 := by
  simp only [recordResult, recordSuccess, countFailure, openCircuit, rollWindow]
  repeat' split
  all_goals rfl

/-- The outcome leaves an error text exactly if it opens the circuit. -/
theorem lastError_recordResult :
    (status.recordResult success now policy).1.lastError =
      if (status.recordResult success now policy).2 then circuitOpenedError
      else status.lastError := by
  obtain ⟨requests, failures, started, rolled, -⟩ := status.rollWindow_eq now policy
  cases success with
  | true => simp [recordResult, recordSuccess, rolled]
  | false =>
      simp only [recordResult, countFailure, rolled, Bool.false_eq_true, if_false]
      split <;> rfl

/-- The outcome sets the end of the circuit exactly if it opens the circuit. -/
theorem circuitOpenUntil_recordResult :
    (status.recordResult success now policy).1.circuitOpenUntil =
      if (status.recordResult success now policy).2 then some (now.saturatingAdd policy.cooldown)
      else status.circuitOpenUntil := by
  obtain ⟨requests, failures, started, rolled, -⟩ := status.rollWindow_eq now policy
  cases success with
  | true => simp [recordResult, recordSuccess, rolled]
  | false =>
      simp only [recordResult, countFailure, rolled, Bool.false_eq_true, if_false]
      split <;> rfl

/-- The outcome is counted in the window that it finds, or in a new one. -/
theorem counts_recordResult :
    ∃ requests failures,
      ((requests = 0 ∧ failures = 0) ∨
        (requests = status.requestsInWindow ∧ failures = status.failuresInWindow)) ∧
      (status.recordResult success now policy).1.requestsInWindow = requests + 1 ∧
      (status.recordResult success now policy).1.failuresInWindow =
        if success then failures else failures + 1 := by
  obtain ⟨requests, failures, started, rolled, origin⟩ := status.rollWindow_eq now policy
  refine ⟨requests, failures, origin, ?_⟩
  cases success with
  | true => simp [recordResult, recordSuccess, rolled]
  | false =>
      simp only [recordResult, countFailure, openCircuit, rolled, Bool.false_eq_true, if_false]
      split <;> exact ⟨rfl, rfl⟩

end ApiGateway.Backend.Status
