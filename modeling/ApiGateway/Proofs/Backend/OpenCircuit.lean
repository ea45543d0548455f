import ApiGateway.Backend.StatusBook
import ApiGateway.Health.Probe

/-!
# An open circuit stays open for its time

`Status.OpenUntil` says that the circuit is open at least until an instant. Before
that instant nothing that is noted or recorded on the status shortens the time: a
successful probe only clears a time that is over, and a further opening puts the end
off, since it starts later with the same cooldown.
-/

namespace ApiGateway.Backend

variable {now instant : Instant} {policy : CircuitPolicy}

namespace Status

/-- The circuit is open at least until an instant. -/
def OpenUntil (instant : Instant) (status : Status) : Prop :=
  ∃ closing, status.circuitOpenUntil = some closing ∧ instant ≤ closing

variable {status : Status}

/-- An open circuit is the reason that is given for an unavailable backend. -/
theorem OpenUntil.availability (opened : status.OpenUntil instant) (within : now < instant) :
    status.availability now = .error circuitOpenReason := by
  obtain ⟨closing, present, later⟩ := opened
  have inTime : now < closing := Int.lt_of_lt_of_le within later
  simp [Status.availability, isCircuitOpen, present, inTime]

theorem OpenUntil.markHealthy (opened : status.OpenUntil instant) (within : now < instant) :
    (status.markHealthy now).OpenUntil instant := by
  obtain ⟨closing, present, later⟩ := opened
  -- The time is cleared only when it lies before the probe, which it does not.
  have notOver : ¬ closing < now := by
    have inTime : now < closing := Int.lt_of_lt_of_le within later
    exact Int.not_lt.mpr (Int.le_of_lt inTime)
  exact ⟨closing, by simp [Status.markHealthy, present, notOver], later⟩

theorem OpenUntil.apply (opened : status.OpenUntil instant) (within : now < instant)
    (finding : Health.Finding) : (finding.apply now status).OpenUntil instant := by
  simp only [Health.Finding.apply]
  split
  · exact opened.markHealthy within
  · exact opened

theorem OpenUntil.recordResult (opened : status.OpenUntil instant)
    (reachable : instant ≤ now.saturatingAdd policy.cooldown) (success : Bool) :
    (status.recordResult success now policy).1.OpenUntil instant := by
  obtain ⟨closing, present, later⟩ := opened
  have rolled : (status.rollWindow now policy).circuitOpenUntil = some closing := by
    simp only [rollWindow]
    split <;> exact present
  cases success with
  | true => exact ⟨closing, rolled, later⟩
  | false =>
      simp only [Status.recordResult, Bool.false_eq_true, if_false]
      split
      · exact ⟨_, rfl, reachable⟩
      · exact ⟨closing, rolled, later⟩

/-- A result that opens the circuit leaves it open for the cooldown. -/
theorem openUntil_of_opens {success : Bool}
    (opens : (status.recordResult success now policy).2 = true) :
    (status.recordResult success now policy).1.OpenUntil (now.saturatingAdd policy.cooldown) := by
  simp only [Status.recordResult] at opens ⊢
  split at opens
  · cases opens
  · next failed =>
      split at opens
      · next trips =>
          simp only [failed, trips, if_true]
          exact ⟨_, rfl, Int.le_refl _⟩
      · cases opens

end Status

namespace StatusBook

/-- The circuit of a key is open at least until an instant. -/
def OpenUntil (key : String) (instant : Instant) (book : StatusBook) : Prop :=
  ∃ status, book.get? key = some status ∧ status.OpenUntil instant

variable {book : StatusBook} {key : String}

theorem OpenUntil.availability (opened : book.OpenUntil key instant) (within : now < instant) :
    book.availability key now = .error Status.circuitOpenReason := by
  obtain ⟨status, present, opened⟩ := opened
  simp only [StatusBook.availability, present]
  exact opened.availability within

/-- A change that keeps the circuit of every status open keeps that of the book open. -/
theorem OpenUntil.update (opened : book.OpenUntil key instant) (other : String)
    {change : Status → Status}
    (kept : ∀ status : Status, status.OpenUntil instant → (change status).OpenUntil instant) :
    (book.update other change).OpenUntil key instant := by
  obtain ⟨status, present, opened⟩ := opened
  by_cases same : key = other
  · subst same
    exact ⟨change status, by simp [present], kept status opened⟩
  · exact ⟨status, by rw [get?_update_of_ne same, present], opened⟩

theorem openUntil_of_opens {success : Bool}
    (opens : (book.recordResult key success now policy).2 = true) :
    (book.recordResult key success now policy).1.OpenUntil key
      (now.saturatingAdd policy.cooldown) := by
  cases present : book.get? key with
  | none => simp [StatusBook.recordResult, present] at opens
  | some status =>
      simp only [StatusBook.recordResult, present] at opens
      exact ⟨(status.recordResult success now policy).1,
        by simp [StatusBook.recordResult, present], Status.openUntil_of_opens opens⟩

end StatusBook

end ApiGateway.Backend
