import ApiGateway.Config.Validation
import ApiGateway.Proofs.Number.UnitRatio

/-!
# Circuit settings that pass the check

The check and the circuit have to read a threshold alike: whatever the check lets pass (nothing
that is no number, nothing above one) a circuit can reach, since the share of failures among
requests that all failed is one (`reached_of_all_failed`).
-/

namespace ApiGateway

namespace Validation

@[simp] theorem isValid_append (first second : Validation) :
    (first ++ second).isValid = (first.isValid && second.isValid) := by
  change (first.errors ++ second.errors).isEmpty = (first.errors.isEmpty && second.errors.isEmpty)
  cases first.errors <;> rfl

end Validation

namespace Backend.CircuitPolicy

/-- A number that is at most one stays so when it gives way to the default. -/
theorem effectiveThreshold_le_one {policy : CircuitPolicy}
    (number : policy.threshold.isNaN = false)
    (notAbove : Binary64.one.lt policy.threshold = false) :
    policy.effectiveThreshold.le .one = true := by
  rw [effectiveThreshold]
  split
  · decide
  · exact Binary64.le_of_not_lt number (by decide) notAbove

/-- A threshold of at most one is reached when all requests failed. -/
theorem reached_of_all_failed {policy : CircuitPolicy}
    (bounded : policy.effectiveThreshold.le .one = true) {count : UInt32} (some : 0 < count) :
    policy.reached count count = true := by
  rw [reached, Binary64.ofRatio_self (UInt32.lt_iff_toNat_lt.mp some)]
  exact bounded

end Backend.CircuitPolicy

namespace Config

variable {config : Config} {check : PathCheck}

theorem validateCircuit_of_validate (valid : (config.validate check).isValid = true) :
    config.validateCircuit.isValid = true := by
  simp only [validate, Validation.isValid_append, Bool.and_eq_true] at valid
  obtain ⟨⟨⟨⟨-, valid⟩, -⟩, -⟩, -⟩ := valid
  exact valid

/-- The check refuses every threshold that is no number or is above one. -/
theorem threshold_of_validateCircuit (valid : config.validateCircuit.isValid = true) :
    config.circuitThreshold.isNaN = false ∧
      Binary64.one.lt config.circuitThreshold = false := by
  simp only [validateCircuit, Validation.isValid_append, Bool.and_eq_true] at valid
  obtain ⟨⟨valid, -⟩, -⟩ := valid
  split at valid
  · cases valid
  · next accepted => simpa using accepted

/-- In a configuration that passes the check the threshold in force is at most one. -/
theorem effectiveThreshold_le_one (valid : (config.validate check).isValid = true) :
    config.circuitPolicy.effectiveThreshold.le .one = true := by
  obtain ⟨number, notAbove⟩ := threshold_of_validateCircuit (validateCircuit_of_validate valid)
  exact Backend.CircuitPolicy.effectiveThreshold_le_one number notAbove

/-- The window in force has a length. -/
theorem effectiveWindow_circuitPolicy (config : Config) :
    config.circuitPolicy.effectiveWindow =
      .ofSeconds (if config.circuitWindowSeconds = 0 then 30 else config.circuitWindowSeconds) := by
  have none : config.circuitPolicy.window = 0 ↔ config.circuitWindowSeconds = 0 :=
    Nat.mul_eq_zero.trans (or_iff_left (by decide))
  simp only [Backend.CircuitPolicy.effectiveWindow, none]
  split <;> rfl

end Config

end ApiGateway
