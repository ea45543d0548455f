import ApiGateway.Proofs.Backend.Epoch
import ApiGateway.Proofs.Backend.OpenCircuit
import ApiGateway.Proofs.Config.CircuitSettings

/-!
# Epochs without a success

Under a threshold of at most one a circuit opens as soon as it counts three outcomes, if all of
them are failures, and under no threshold before the third (`guards_recordResult`). The outcomes
are those of the current epoch, and the window counts it whenever outcomes lie in the calendar
(`window_current`).
-/

namespace ApiGateway.Backend

variable {policy : CircuitPolicy}

namespace Epoch

/-- No outcome of the epoch is a success. -/
def AllFailed (epoch : Epoch) : Prop := ∀ outcome ∈ epoch.outcomes, outcome.success = false

instance (epoch : Epoch) : Decidable epoch.AllFailed :=
  inferInstanceAs (Decidable (∀ outcome ∈ epoch.outcomes, outcome.success = false))

theorem AllFailed.failures {epoch : Epoch} (failed : epoch.AllFailed) :
    epoch.failures = epoch.outcomes.length :=
  List.countP_eq_length.mpr fun outcome member => by simp [failed outcome member]

/-- A window that records outcomes of the calendar counts the current epoch. -/
theorem window_current {created : Instant} {outcomes : List Outcome}
    (inCalendar : ∀ time ∈ created :: outcomes.map Outcome.time,
      Instant.earliest ≤ time ∧ time ≤ Instant.latest) :
    outcomes.foldl (fun window outcome => window.record policy outcome) ⟨created, 0, 0⟩ =
      (current policy.effectiveWindow created outcomes).window := by
  induction outcomes using List.reverseRecOn with
  | nil => rfl
  | append_singleton outcomes outcome inductionHypothesis =>
      rw [List.map_append, ← List.cons_append, List.forall_mem_append] at inCalendar
      obtain ⟨before, last⟩ := inCalendar
      have fromStart : Instant.earliest ≤ (current policy.effectiveWindow created outcomes).start :=
        (before _ start_mem_current).1
      have toEnd := (last outcome.time List.mem_cons_self).2
      rw [List.foldl_append, inductionHypothesis before, current_concat,
        ← record_window fromStart toEnd]
      rfl

/-- The counts of an epoch without a success open the circuit from the third outcome on. -/
theorem trips_window {epoch : Epoch} (bounded : policy.effectiveThreshold.le .one = true)
    (enough : 3 ≤ epoch.outcomes.length) (room : epoch.outcomes.length < UInt32.size)
    (failed : epoch.AllFailed) : epoch.window.trips policy = true := by
  have requests := (toNat_window room).1
  have same : epoch.window.failures = epoch.window.requests := by
    simp only [window, failed.failures]
  have samples : Status.minSamples ≤ epoch.window.requests := by
    rw [UInt32.le_iff_toNat_le, requests]
    exact enough
  have positive : 0 < epoch.window.requests := by
    rw [UInt32.lt_iff_toNat_lt, requests]
    exact Nat.lt_of_lt_of_le (by decide : 0 < 3) enough
  rw [Window.trips, same, CircuitPolicy.reached_of_all_failed bounded positive]
  simpa using samples

/-- The counts of an epoch of fewer than three outcomes open nothing. -/
theorem not_trips_window {epoch : Epoch} (few : epoch.outcomes.length < 3) :
    epoch.window.trips policy = false := by
  have room : epoch.outcomes.length < UInt32.size := Nat.lt_trans few (by decide)
  have samples : ¬ Status.minSamples ≤ epoch.window.requests := by
    rw [UInt32.le_iff_toNat_le, (toNat_window room).1]
    exact Nat.not_le_of_lt few
  simp [Window.trips, samples]

end Epoch

namespace Status

/-- What a recording does about the epoch that its outcome counts for. -/
structure Guards (cooldown : Duration) (now : Instant) (epoch : Epoch)
    (result : Status × Bool) : Prop where
  /-- The circuit opens for the cooldown when three or more outcomes are all failures, and holds
  off requests from then on. At the last instant of the calendar no cooldown has room: there the
  circuit opens and is closed at once, and at no other instant. -/
  opens : 3 ≤ epoch.outcomes.length → epoch.outcomes.length < UInt32.size → epoch.AllFailed →
    result.2 = true ∧ result.1.circuitOpenUntil = some (min (now + cooldown) Instant.latest) ∧
      (0 < cooldown → (result.1.availability now = .error "circuit_open" ↔ now < Instant.latest))
  waits : epoch.outcomes.length < 3 → result.2 = false

variable {status : Status} {epoch : Epoch} {success : Bool} {now : Instant}

/-- Under a threshold of at most one a recording guards the epoch that it adds to. -/
theorem guards_recordResult (bounded : policy.effectiveThreshold.le .one = true)
    (counted : status.window = epoch.window) (fromStart : Instant.earliest ≤ epoch.start)
    (inCalendar : Instant.earliest ≤ now ∧ now ≤ Instant.latest) :
    Guards policy.cooldown now (epoch.add policy.effectiveWindow ⟨success, now⟩)
      (status.recordResult success now policy) := by
  let next := epoch.add policy.effectiveWindow ⟨success, now⟩
  have recorded : (status.recordResult success now policy).2 =
      (!success && next.window.trips policy) := by
    rw [opens_recordResult, counted, Epoch.record_window fromStart inCalendar.2]
  refine { opens := ?_, waits := ?_ }
  · intro enough room failed
    have last : success = false :=
      failed ⟨success, now⟩ (List.mem_of_getLast? (Epoch.getLast?_add epoch ⟨success, now⟩))
    have opens : (status.recordResult success now policy).2 = true := by
      rw [recorded, last, Epoch.trips_window bounded enough room failed]
      rfl
    have openUntil := openUntil_of_opens opens
    rw [Instant.saturatingAdd_eq_min inCalendar.1] at openUntil
    refine ⟨opens, ?_, ?_⟩
    · rw [circuitOpenUntil_recordResult, opens, if_pos rfl,
        Instant.saturatingAdd_eq_min inCalendar.1]
    · intro lasting
      constructor
      · intro refused
        rw [← circuitOpenReason, availability_eq_circuitOpen_iff, lastError_recordResult,
          if_pos opens] at refused
        obtain ⟨closing, ends, within⟩ :=
          isCircuitOpen_eq_true_iff.mp (refused.resolve_right fun down => absurd down.2 (by decide))
        rw [circuitOpenUntil_recordResult, if_pos opens, Instant.saturatingAdd_eq_min inCalendar.1,
          Option.some.injEq] at ends
        exact Int.lt_of_lt_of_le within (ends ▸ Int.min_le_right _ _)
      · intro before
        refine openUntil.availability (Int.lt_min.mpr ⟨?_, before⟩)
        exact Int.lt_add_of_pos_right now (Int.natCast_pos.mpr lasting)
  · intro few
    rw [recorded, Epoch.not_trips_window few, Bool.and_false]

end Status

end ApiGateway.Backend
