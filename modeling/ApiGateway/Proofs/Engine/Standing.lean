import ApiGateway.Proofs.Engine.Continuation
import ApiGateway.Proofs.Proxy.Retry

/-!
# What an exchange comes to

An exchange is an attempt, another one after a pause if that failed, and so on.
`Standing.after` follows an exchange by the replies to its attempts as if it had all
the time in the world: it is done at an instant, its next attempt is made at an
instant, or its last attempt never ends. A deadline cuts it short exactly where
`Network.deliverWithin` cuts a delivery short.
-/

namespace ApiGateway

namespace Proxy.Retry

/-- Nobody sends again at once. -/
theorem backoff_pos (earlier : Nat) : 0 < backoff (earlier + 1) := by
  rw [backoff_eq]
  exact Nat.lt_min.mpr ⟨Nat.mul_pos (by decide) (Nat.two_pow_pos earlier), by decide⟩

end Proxy.Retry

namespace Network

variable {network : Network} {medium : Medium} {purpose : Purpose} {request : Http.Request}
  {limit : Duration}

/-- That nothing can be sent is known at once, or never. -/
theorem delay_of_unsent {delivery : Delivery}
    (delivers : network.deliverConnection purpose request = delivery)
    (unsent : delivery.sent = none) {delay : Duration}
    {outcome : Except GatewayError Http.Response}
    (known : delivery.outcome = some (delay, outcome)) : delay = 0 := by
  simp only [deliverConnection] at delivers
  split at delivers
  · subst delivers
    cases known
    rfl
  · split at delivers
    · subst delivers
      cases known
      rfl
    · subst delivers
      cases known
    · split at delivers <;> subst delivers <;> cases unsent

/-- An outcome in time is the outcome, and it is in time. -/
theorem outcome_of_deliverWithin {delay : Duration} {outcome : Except GatewayError Http.Response}
    (inTime : (network.deliverWithin medium purpose request limit).outcome =
      some (delay, outcome)) :
    (network.deliver medium purpose request).outcome = some (delay, outcome) ∧
      delay ≤ limit := by
  simp only [deliverWithin] at inTime
  split at inTime
  · obtain ⟨known, early⟩ := Option.filter_eq_some_iff.mp inTime
    exact ⟨known, of_decide_eq_true early⟩
  · next unsent =>
      refine ⟨inTime, ?_⟩
      rw [delay_of_unsent rfl unsent inTime]
      exact Nat.zero_le _
  · split at inTime
    · cases inTime
    · obtain ⟨known, early⟩ := Option.filter_eq_some_iff.mp inTime
      exact ⟨known, Nat.le_of_lt (of_decide_eq_true early)⟩

/-- Without an outcome in time the outcome is late. Over a connection it is late as well when it
comes as the time is over. -/
theorem late_of_deliverWithin
    (cut : (network.deliverWithin medium purpose request limit).outcome = none)
    {delay : Duration} {outcome : Except GatewayError Http.Response}
    (known : (network.deliver medium purpose request).outcome = some (delay, outcome)) :
    limit < delay ∨ medium = .connection ∧ limit = delay := by
  have late (notEarly : ¬ delay < limit) (connected : medium = .connection) :
      limit < delay ∨ medium = .connection ∧ limit = delay := by
    rcases Nat.lt_or_eq_of_le (Nat.not_lt.mp notEarly) with after | same
    · exact .inl after
    · exact .inr ⟨connected, same⟩
  simp only [deliverWithin] at cut
  split at cut
  · have notEarly := Option.filter_eq_none_iff.mp cut (delay, outcome) known
    exact .inl (Nat.not_le.mp (by simpa using notEarly))
  · rw [known] at cut
    cases cut
  · split at cut
    · next none =>
        refine late ?_ rfl
        rw [none]
        exact Nat.not_lt_zero _
    · have notEarly := Option.filter_eq_none_iff.mp cut (delay, outcome) known
      exact late (by simpa using notEarly) rfl

end Network

namespace Engine

open Http (Response)

/-- How far an exchange is. -/
inductive Standing where
  /-- The attempt of this number is made at an instant. -/
  | due (attempt : Nat) (instant : Instant)
  /-- The outcome is known at an instant. -/
  | ended (instant : Instant) (outcome : Except GatewayError Response)
  /-- The last attempt never ends. -/
  | hanging

namespace Standing

/-- The standing when the outcome of an attempt is known: the exchange is over, or there is
another attempt after a pause. -/
def decided (attempts attempt : Nat) (known : Instant) (outcome : Except GatewayError Response) :
    Standing :=
  match Proxy.Retry.decide attempts attempt outcome with
  | .finish outcome => ended known outcome
  | .again pause attempt => due attempt (known + pause)

/-- The standing after the reply to the attempt that is due. -/
def next (attempts : Nat) (standing : Standing) (reply : AttemptEnd) : Standing :=
  match standing, reply with
  | due attempt instant, some (delay, outcome) => decided attempts attempt (instant + delay) outcome
  | due _ _, none => hanging
  | other, _ => other

/-- The standing of an exchange that starts at an instant after the replies to its attempts. -/
def after (attempts : Nat) (start : Instant) (replies : List AttemptEnd) : Standing :=
  replies.foldl (next attempts) (due 0 start)

@[simp] theorem after_concat (attempts : Nat) (start : Instant) (replies : List AttemptEnd)
    (reply : AttemptEnd) :
    after attempts start (replies ++ [reply]) =
      (after attempts start replies).next attempts reply := by
  simp [after]

/-- At an instant neither the outcome is known nor the next attempt made. -/
def UnfinishedAt (instant : Instant) : Standing → Prop
  | due _ later => instant < later
  | ended known _ => instant < known
  | hanging => True

instance (instant : Instant) : (standing : Standing) → Decidable (standing.UnfinishedAt instant)
  | due _ later => inferInstanceAs (Decidable (instant < later))
  | ended known _ => inferInstanceAs (Decidable (instant < known))
  | hanging => inferInstanceAs (Decidable True)

/-- An exchange does not make it to a deadline. Over a connection it does not if its outcome comes
at the deadline. -/
def Misses (medium : Medium) (deadline : Instant) (standing : Standing) : Prop :=
  standing.UnfinishedAt deadline ∨
    medium = .connection ∧ ∃ outcome, standing = ended deadline outcome

/-- What follows an outcome that comes too late comes too late. -/
theorem misses_decided {medium : Medium} {deadline known : Instant} (attempts attempt : Nat)
    (outcome : Except GatewayError Response)
    (late : deadline < known ∨ medium = .connection ∧ deadline = known) :
    (decided attempts attempt known outcome).Misses medium deadline := by
  have notBefore : deadline ≤ known := by
    rcases late with after | ⟨-, same⟩
    · exact Int.le_of_lt after
    · exact Int.le_of_eq same
  cases decision : Proxy.Retry.decide attempts attempt outcome with
  | finish final =>
      rcases late with after | ⟨connected, same⟩
      · left
        simpa [decided, decision, UnfinishedAt] using after
      · right
        exact ⟨connected, final, by simp [decided, decision, same]⟩
  | again pause later =>
      have waits : 0 < pause := by
        unfold Proxy.Retry.decide at decision
        split at decision
        · cases decision
        · split at decision
          · cases decision
            exact Proxy.Retry.backoff_pos attempt
          · cases decision
      left
      simp only [decided, decision, UnfinishedAt]
      exact Int.lt_of_le_of_lt notBefore (Int.lt_add_of_pos_right _ (Int.natCast_pos.mpr waits))

end Standing

end Engine

end ApiGateway
