import ApiGateway.Proxy.Retry

/-!
# Attempts until the first success

The attempts for a request are given by the sender alone: each of them finds the sender as
the one before left it, and sends the original request (`senderAfter`, `outcomeAt`). A
round trip ends with the first success or with the last attempt that is allowed
(`roundTrip_eq`). Its pauses are the exact powers of two up to a second: the factor is cut
to a word only where the pause is a second anyway, and the product never is.
-/

namespace ApiGateway.Proxy.Retry

/-! ## Pauses -/

theorem factor_lt_size (doublings : Nat) : factor doublings < UInt32.size := by
  simp only [factor]
  split
  · next fits => exact Nat.pow_lt_pow_right (by decide) fits
  · decide

/-- Every factor is small enough for its product with the first pause to be exact. -/
theorem saturatingMul_factor (doublings : Nat) :
    (Duration.ofMillis 100).saturatingMul (factor doublings) =
      Duration.ofMillis 100 * factor doublings := by
  refine Nat.min_eq_left ?_
  have fits : factor doublings ≤ UInt32.size := Nat.le_of_lt (factor_lt_size doublings)
  exact Nat.le_trans (Nat.mul_le_mul_left _ fits) (by decide)

/-- The pause before an attempt, as exact arithmetic gives it. -/
def pauseBefore (attempt : Nat) : Duration :=
  if attempt = 0 then 0 else min (.ofMillis 100 * Nat.pow 2 (attempt - 1)) (.ofSeconds 1)

theorem backoff_eq (attempt : Nat) : backoff attempt = pauseBefore attempt := by
  cases attempt with
  | zero => rfl
  | succ earlier =>
      simp only [backoff, pauseBefore, saturatingMul_factor, Nat.add_one_ne_zero, if_false,
        Nat.add_sub_cancel]
      by_cases fits : earlier < 32
      · simp only [factor, fits, if_true]
      · -- Both factors make more than a second.
        have large : Nat.pow 2 32 ≤ Nat.pow 2 earlier :=
          Nat.pow_le_pow_right (by decide) (Nat.not_lt.mp fits)
        simp only [factor, fits, if_false]
        rw [Nat.min_eq_right (by decide), Nat.min_eq_right]
        exact Nat.le_trans (by decide) (Nat.mul_le_mul_left _ large)

/-! ## Attempts -/

section Attempts

variable {σ α : Type} (send : σ → Outgoing → σ × Except GatewayError α) (original : Outgoing)
  (sender : σ)

/-- The sender after some attempts for a request. -/
def senderAfter : Nat → σ
  | 0 => sender
  | count + 1 => (send (senderAfter count) original).1

/-- The outcome of the attempt of a number, counted from zero. -/
def outcomeAt (attempt : Nat) : Except GatewayError α :=
  (send (senderAfter send original sender attempt) original).2

/-- The attempts of a round trip end with this one: it is the first that succeeds, or the last that
is allowed if none before it does. -/
structure Ends (allowed last : Nat) : Prop where
  within : last < allowed
  failed : ∀ earlier < last, ∃ error, outcomeAt send original sender earlier = .error error
  final : (∃ value, outcomeAt send original sender last = .ok value) ∨ last + 1 = allowed

/-- From the attempt that is due on, attempts go on up to the one that ends them. -/
theorem roundTripFrom_eq {allowed fuel attempt : Nat} (enough : allowed ≤ attempt + fuel)
    (due : attempt < allowed)
    (failed : ∀ earlier < attempt, ∃ error, outcomeAt send original sender earlier = .error error) :
    ∃ last, attempt ≤ last ∧ Ends send original sender allowed last ∧
      roundTripFrom send allowed original fuel attempt (backoff attempt)
          (senderAfter send original sender attempt) =
        ⟨outcomeAt send original sender last, senderAfter send original sender (last + 1),
          (List.range' attempt (last + 1 - attempt)).map fun number =>
            ⟨backoff number, original⟩⟩ := by
  induction fuel generalizing attempt with
  | zero => omega
  | succ fuel inductionHypothesis =>
      have sent : send (senderAfter send original sender attempt) (rebuild original) =
          (senderAfter send original sender (attempt + 1),
            outcomeAt send original sender attempt) := rfl
      have single : List.range' attempt (attempt + 1 - attempt) = [attempt] := by
        rw [Nat.add_sub_cancel_left]
        rfl
      simp only [roundTripFrom, sent, decide]
      cases outcome : outcomeAt send original sender attempt with
      | ok value =>
          refine ⟨attempt, Nat.le_refl _, ⟨due, failed, .inl ⟨value, outcome⟩⟩, ?_⟩
          rw [outcome, single]
          rfl
      | error error =>
          by_cases more : attempt + 1 < allowed
          · have failed' : ∀ earlier < attempt + 1,
                ∃ error, outcomeAt send original sender earlier = .error error := by
              intro earlier before
              rcases Nat.lt_succ_iff_lt_or_eq.mp before with before | rfl
              · exact failed earlier before
              · exact ⟨error, outcome⟩
            obtain ⟨last, later, ends, rest⟩ := inductionHypothesis (by omega) more failed'
            have counted : last + 1 - attempt = last + 1 - (attempt + 1) + 1 := by omega
            refine ⟨last, by omega, ends, ?_⟩
            simp only [more, if_true, rest]
            rw [counted, List.range'_succ]
            rfl
          · refine ⟨attempt, Nat.le_refl _, ⟨due, failed, .inr (by omega)⟩, ?_⟩
            simp only [more, if_false]
            rw [outcome, single]
            rfl

end Attempts

/-- At least one attempt is allowed. -/
theorem attemptsFor_pos (retries : Nat) (method : String) : 0 < attemptsFor retries method := by
  simp only [attemptsFor]
  split
  · exact Nat.lt_min.mpr ⟨Nat.succ_pos _, by decide⟩
  · exact Nat.one_pos

/-- A request is attempted until the first success, or as often as its method and the number of
retries allow if there is none: once, or with the method `GET` in any case once more than the
number of retries, as far as a 32-bit word counts. Every attempt sends the original request with
all its parts after the pause that is due. The outcome is that of the last attempt. -/
theorem roundTrip_eq {σ α : Type} (send : σ → Outgoing → σ × Except GatewayError α)
    (retries : Nat) (original : Outgoing) (sender : σ) :
    (∃ last, Ends send original sender
          (if Text.lowerAscii original.method.toList = "get".toList then
            min (retries + 1) (UInt32.size - 1) else 1) last ∧
        roundTrip send retries original sender =
          ⟨outcomeAt send original sender last, senderAfter send original sender (last + 1),
            (List.range (last + 1)).map fun number => ⟨pauseBefore number, original⟩⟩) ∧
      ∀ doublings, factor doublings < UInt32.size ∧
        (Duration.ofMillis 100).saturatingMul (factor doublings) =
          Duration.ofMillis 100 * factor doublings := by
  refine ⟨?_, fun doublings => ⟨factor_lt_size doublings, saturatingMul_factor doublings⟩⟩
  have allowed : attemptsFor retries original.method =
      if Text.lowerAscii original.method.toList = "get".toList then
        min (retries + 1) (UInt32.size - 1) else 1 := by
    simp only [attemptsFor, Text.sameIgnoringCase, decide_eq_true_eq]
    rfl
  obtain ⟨last, -, ends, exchanged⟩ := roundTripFrom_eq send original sender
    (Nat.le_of_eq (Nat.zero_add _).symm) (attemptsFor_pos retries original.method) nofun
  rw [Nat.sub_zero, ← List.range_eq_range'] at exchanged
  simp only [backoff_eq _] at exchanged
  rw [← allowed]
  exact ⟨last, ends, exchanged⟩

/-- A sender that fails twice and then has an answer, which is one of an overloaded backend. -/
def failingTwice (calls : Nat) (_ : Outgoing) : Nat × Except GatewayError Http.Response :=
  (calls + 1, if calls < 2 then .error (.backend "refused") else .ok ⟨503, .empty, .empty⟩)

/-- A request with the method in lower case. -/
def lowerCaseGet : Outgoing where
  method := "get"
  uri := ⟨some "http", some "h", "/", none⟩
  version := .http11
  headers := .empty
  body := .empty

/-- The third attempt ends the round trip, although the answer has the status of a failure. -/
theorem roundTrip_failingTwice :
    roundTrip failingTwice 5 lowerCaseGet 0 =
      ⟨.ok ⟨503, .empty, .empty⟩, 3, [⟨0, lowerCaseGet⟩, ⟨.ofMillis 100, lowerCaseGet⟩,
        ⟨.ofMillis 200, lowerCaseGet⟩]⟩ := by
  obtain ⟨⟨last, ends, exchanged⟩, -⟩ := roundTrip_eq failingTwice 5 lowerCaseGet 0
  have third : last = 2 := by
    rcases Nat.lt_trichotomy last 2 with before | third | after
    · obtain ⟨error, failed⟩ :
          ∃ error, outcomeAt failingTwice lowerCaseGet 0 last = .error error := by
        obtain rfl | rfl : last = 0 ∨ last = 1 := by omega
        · exact ⟨_, rfl⟩
        · exact ⟨_, rfl⟩
      rcases ends.final with ⟨value, succeeded⟩ | (allowed : last + 1 = 6)
      · cases failed.symm.trans succeeded
      · omega
    · exact third
    · obtain ⟨error, failed⟩ := ends.failed 2 after
      cases failed
  rw [exchanged, third]
  rfl

end ApiGateway.Proxy.Retry
