import ApiGateway.Proofs.Backend.OperationHistory

/-!
# Outcomes are counted by epochs

A status keeps the start of its window and two counts, and no outcome. Which outcomes
the counts stand for can be said without them: an `Epoch` starts with the backend, and
another one with every outcome that comes more than the window after the start of the
present one. `window_after` says that a status counts the current epoch, whatever marks
the probes leave in between; `counts_current_epoch` reads counts and openings off it.
-/

namespace ApiGateway

/-- No two instants of the calendar are so far apart that the cut of a duration matters. -/
theorem Instant.delta_lt_sub_iff {first last : Instant} (fromStart : earliest ≤ first)
    (toEnd : last ≤ latest) (length : Duration) :
    delta length < last - first ↔ first + length < last := by
  have cut (first last length : Int) (fromStart : -8334601228800000000000 ≤ first)
      (toEnd : last ≤ 8210266876799999999999) :
      min length 9223372036854775807000000 < last - first ↔ first + length < last := by
    omega
  exact cut first last length fromStart toEnd

namespace Backend

/-! ## Epochs -/

/-- The outcome of a forwarded request and the time of its recording. -/
structure Outcome where
  success : Bool
  time : Instant

/-- Outcomes that are counted together, from a start on. -/
structure Epoch where
  start : Instant
  outcomes : List Outcome

namespace Epoch

/-- An outcome counts for the present epoch, unless it comes more than the window after its start:
then another epoch starts with it. -/
def add (window : Duration) (epoch : Epoch) (outcome : Outcome) : Epoch :=
  if epoch.start + window < outcome.time then ⟨outcome.time, [outcome]⟩
  else { epoch with outcomes := epoch.outcomes ++ [outcome] }

/-- The epoch that is current after some outcomes. -/
def current (window : Duration) (created : Instant) (outcomes : List Outcome) : Epoch :=
  outcomes.foldl (add window) ⟨created, []⟩

/-- The outcomes that are failures. -/
def failures (epoch : Epoch) : Nat := epoch.outcomes.countP fun outcome => !outcome.success

variable {window : Duration} {created : Instant} {outcomes : List Outcome}

@[simp] theorem current_concat (outcome : Outcome) :
    current window created (outcomes ++ [outcome]) =
      (current window created outcomes).add window outcome := by
  simp [current]

/-- An epoch ends with the outcome that was added last. -/
theorem getLast?_add (epoch : Epoch) (outcome : Outcome) :
    (epoch.add window outcome).outcomes.getLast? = some outcome := by
  simp only [add]
  split <;> simp

/-- No outcome counts twice. -/
theorem length_current_le :
    (current window created outcomes).outcomes.length ≤ outcomes.length := by
  induction outcomes using List.reverseRecOn with
  | nil => exact Nat.le_refl _
  | append_singleton outcomes outcome inductionHypothesis =>
      rw [current_concat, List.length_append, List.length_singleton]
      simp only [add]
      split
      · exact Nat.le_add_left _ _
      · simpa using inductionHypothesis

/-- An epoch starts with the backend or with one of the outcomes. -/
theorem start_mem_current :
    (current window created outcomes).start ∈ created :: outcomes.map Outcome.time := by
  induction outcomes using List.reverseRecOn with
  | nil => exact List.mem_cons_self
  | append_singleton outcomes outcome inductionHypothesis =>
      rw [current_concat, List.map_append, ← List.cons_append]
      simp only [add]
      split
      · exact List.mem_append_right _ List.mem_cons_self
      · exact List.mem_append_left _ inductionHypothesis

/-- In the order of time no outcome of the current epoch lies before its start, and none more than
the window after it. -/
theorem within_current (ordered : (created :: outcomes.map Outcome.time).Pairwise (· ≤ ·)) :
    ∀ outcome ∈ (current window created outcomes).outcomes,
      (current window created outcomes).start ≤ outcome.time ∧
        outcome.time ≤ (current window created outcomes).start + window := by
  induction outcomes using List.reverseRecOn with
  | nil => nofun
  | append_singleton outcomes outcome inductionHypothesis =>
      rw [List.map_append, ← List.cons_append, List.pairwise_append] at ordered
      obtain ⟨orderedBefore, -, notBefore⟩ := ordered
      rw [current_concat]
      intro other member
      simp only [add] at member ⊢
      split at member
      · next late =>
          rw [if_pos late, List.mem_singleton.mp member]
          exact ⟨Int.le_refl _, Int.le_add_of_nonneg_right (Int.natCast_nonneg _)⟩
      · next inTime =>
          rw [if_neg inTime]
          rcases List.mem_append.mp member with earlier | latest
          · exact inductionHypothesis orderedBefore other earlier
          · rw [List.mem_singleton.mp latest]
            exact ⟨notBefore _ start_mem_current _ List.mem_cons_self, Int.not_lt.mp inTime⟩

end Epoch

/-! ## Windows -/

/-- The part of a status that counts outcomes. -/
structure Window where
  startedAt : Instant
  requests : UInt32
  failures : UInt32

namespace Window

/-- The window after an outcome. -/
def record (policy : CircuitPolicy) (outcome : Outcome) (window : Window) : Window :=
  let present : Window :=
    if Instant.delta policy.effectiveWindow < outcome.time - window.startedAt then
      ⟨outcome.time, 0, 0⟩
    else window
  { present with
    requests := present.requests + 1
    failures := if outcome.success then present.failures else present.failures + 1 }

/-- Do the counts open the circuit? -/
def trips (policy : CircuitPolicy) (window : Window) : Bool :=
  Status.minSamples ≤ window.requests && policy.reached window.failures window.requests

end Window

/-- The window that counts the outcomes of an epoch. -/
def Epoch.window (epoch : Epoch) : Window :=
  ⟨epoch.start, .ofNat epoch.outcomes.length, .ofNat epoch.failures⟩

/-- As long as the counters have room they are the numbers of outcomes and of failures. -/
theorem Epoch.toNat_window {epoch : Epoch} (room : epoch.outcomes.length < UInt32.size) :
    epoch.window.requests.toNat = epoch.outcomes.length ∧
      epoch.window.failures.toNat = epoch.failures := by
  have fewer : epoch.failures ≤ epoch.outcomes.length := List.countP_le_length
  exact ⟨UInt32.toNat_ofNat_of_lt' room,
    UInt32.toNat_ofNat_of_lt' (Nat.lt_of_le_of_lt fewer room)⟩

/-- In the calendar a window counts on with the epoch that it counts. -/
theorem Epoch.record_window {epoch : Epoch} {outcome : Outcome} {policy : CircuitPolicy}
    (fromStart : Instant.earliest ≤ epoch.start) (toEnd : outcome.time ≤ Instant.latest) :
    epoch.window.record policy outcome = (epoch.add policy.effectiveWindow outcome).window := by
  have late := Instant.delta_lt_sub_iff fromStart toEnd policy.effectiveWindow
  simp only [Window.record, Epoch.window, late, Epoch.add, Epoch.failures]
  split
  · cases failed : outcome.success <;> simp [failed]
  · cases failed : outcome.success <;> simp [failed, UInt32.ofNat_add]

namespace Status

/-- What a status counts. -/
def window (status : Status) : Window :=
  ⟨status.windowStartedAt, status.requestsInWindow, status.failuresInWindow⟩

section Recording

variable (success : Bool) (now : Instant) (policy : CircuitPolicy) (status : Status)

theorem window_rollWindow : (status.rollWindow now policy).window =
    if Instant.delta policy.effectiveWindow < now - status.window.startedAt then ⟨now, 0, 0⟩
    else status.window :=
  apply_ite ..

theorem window_recordSuccess : (status.recordSuccess now policy).window =
    status.window.record policy ⟨true, now⟩ := by
  simp only [Window.record, ← window_rollWindow]
  rfl

theorem window_countFailure : (status.countFailure now policy).window =
    status.window.record policy ⟨false, now⟩ := by
  simp only [Window.record, ← window_rollWindow]
  rfl

/-- A recording counts the outcome in the window. -/
theorem window_recordResult : (status.recordResult success now policy).1.window =
    status.window.record policy ⟨success, now⟩ := by
  cases success with
  | true => exact window_recordSuccess ..
  | false =>
      rw [← window_countFailure]
      simp only [recordResult, Bool.false_eq_true, if_false]
      split <;> rfl

/-- A recording opens the circuit if it is one of a failure and the counts trip. -/
theorem opens_recordResult : (status.recordResult success now policy).2 =
    (!success && (status.window.record policy ⟨success, now⟩).trips policy) := by
  cases success with
  | true => rfl
  | false =>
      rw [← window_countFailure]
      simp only [recordResult, Bool.false_eq_true, if_false]
      split
      · next trips => exact trips.symm
      · next stays => exact (eq_false_of_ne_true stays).symm

end Recording

end Status

/-! ## Histories -/

namespace Operation

/-- The outcome that an operation records. -/
def outcome? : Operation → Option Outcome
  | markHealthy _ => none
  | markUnhealthy .. => none
  | recordResult success now _ => some ⟨success, now⟩

/-- The outcomes that a history records, in their order. -/
def outcomes (history : List Operation) : List Outcome := history.filterMap outcome?

/-- A history without the marks of probes. -/
def unmarked (history : List Operation) : List Operation :=
  history.filter fun operation => !operation.isMark

/-- A history records with one window and one threshold, in the order of time and within the
calendar, from the creation of the status on. The counters have room for its outcomes. -/
structure Steady (window : Duration) (threshold : Binary64) (created : Instant)
    (history : List Operation) : Prop where
  uniform : ∀ success now policy, .recordResult success now policy ∈ history →
    policy.window = window ∧ policy.threshold = threshold
  ordered : (created :: (outcomes history).map Outcome.time).Pairwise (· ≤ ·)
  inCalendar : ∀ time ∈ created :: (outcomes history).map Outcome.time,
    Instant.earliest ≤ time ∧ time ≤ Instant.latest
  room : (outcomes history).length < UInt32.size

theorem outcomes_append (before rest : List Operation) :
    outcomes (before ++ rest) = outcomes before ++ outcomes rest :=
  List.filterMap_append

theorem outcomes_concat (history : List Operation) (operation : Operation) :
    outcomes (history ++ [operation]) = outcomes history ++ operation.outcome?.toList := by
  rw [outcomes_append]
  cases operation <;> rfl

/-- What comes before in a steady history is steady. -/
theorem Steady.of_append_left {window : Duration} {threshold : Binary64} {created : Instant}
    {before rest : List Operation} (steady : Steady window threshold created (before ++ rest)) :
    Steady window threshold created before := by
  obtain ⟨uniform, ordered, inCalendar, room⟩ := steady
  rw [outcomes_append] at ordered inCalendar room
  rw [List.map_append, ← List.cons_append] at ordered inCalendar
  rw [List.length_append] at room
  exact {
    uniform := fun success now policy member =>
      uniform success now policy (List.mem_append_left _ member)
    ordered := (List.pairwise_append.mp ordered).1
    inCalendar := fun time member => inCalendar time (List.mem_append_left _ member)
    room := Nat.lt_of_le_of_lt (Nat.le_add_right _ _) room }

end Operation

open Operation (outcomes unmarked Steady)

namespace Status

/-- What a status counts depends on the recordings alone: without the marks of probes they count
the same and open the circuit at the same calls. -/
theorem calls_unmarked {status other : Status} (same : status.window = other.window)
    (history : List Operation) :
    (status.after history).window = (other.after (unmarked history)).window ∧
      (status.calls history).filter (fun call => !call.operation.isMark) =
        other.calls (unmarked history) := by
  induction history generalizing status other with
  | nil => exact ⟨same, rfl⟩
  | cons operation rest inductionHypothesis =>
      cases operation with
      | markHealthy now =>
          exact @inductionHypothesis (status.markHealthy now) other same
      | markUnhealthy now error =>
          exact @inductionHypothesis (status.markUnhealthy now error) other same
      | recordResult success now policy =>
          have counted : (status.recordResult success now policy).1.window =
              (other.recordResult success now policy).1.window := by
            rw [window_recordResult, window_recordResult, same]
          have opened : (status.recordResult success now policy).2 =
              (other.recordResult success now policy).2 := by
            rw [opens_recordResult, opens_recordResult, same]
          obtain ⟨windows, calls⟩ := inductionHypothesis counted
          refine ⟨windows, ?_⟩
          have kept : unmarked (.recordResult success now policy :: rest) =
              .recordResult success now policy :: unmarked rest := rfl
          rw [kept, Status.calls, Status.calls, List.filter_cons_of_pos rfl]
          simp only [Operation.apply, opened, calls]

/-- What a recording leaves and returns is told by the epoch that the outcome counts for. -/
structure CountsEpoch (window : Duration) (threshold : Binary64) (outcome : Outcome)
    (epoch : Epoch) (result : Status × Bool) : Prop where
  latest : epoch.outcomes.getLast? = some outcome
  within : ∀ other ∈ epoch.outcomes,
    epoch.start ≤ other.time ∧ other.time ≤ epoch.start + window
  requests : result.1.requestsInWindow.toNat = epoch.outcomes.length
  failures : result.1.failuresInWindow.toNat = epoch.failures
  /-- The circuit opens at a failure that is at least the third outcome, if the share of failures
  is at least the threshold. -/
  opens : result.2 = true ↔ outcome.success = false ∧ 3 ≤ epoch.outcomes.length ∧
    threshold.le (.ofRatio false epoch.failures epoch.outcomes.length) = true

/-- The result of a recording counts an epoch if the window does, and it opens as the window
says. -/
theorem countsEpoch_of_window {policy : CircuitPolicy} {outcome : Outcome} {epoch : Epoch}
    {result : Status × Bool} (counted : result.1.window = epoch.window)
    (opens : result.2 = (!outcome.success && epoch.window.trips policy))
    (room : epoch.outcomes.length < UInt32.size)
    (latest : epoch.outcomes.getLast? = some outcome)
    (within : ∀ other ∈ epoch.outcomes,
      epoch.start ≤ other.time ∧ other.time ≤ epoch.start + policy.effectiveWindow) :
    CountsEpoch policy.effectiveWindow policy.effectiveThreshold outcome epoch result := by
  obtain ⟨requests, failures⟩ := Epoch.toNat_window room
  refine { latest, within, requests := ?_, failures := ?_, opens := ?_ }
  · rw [← requests, ← counted]
    rfl
  · rw [← failures, ← counted]
    rfl
  · have enough : minSamples ≤ epoch.window.requests ↔ 3 ≤ epoch.outcomes.length := by
      rw [UInt32.le_iff_toNat_le, requests]
      rfl
    rw [opens, Window.trips, CircuitPolicy.reached, requests, failures]
    simp [enough]

section Epochs

variable {window : Duration} {threshold : Binary64} {created : Instant}
  {history : List Operation} (steady : Steady window threshold created history)
include steady

/-- A status counts the current epoch. -/
theorem window_after : ((new created).after history).window =
    (Epoch.current (if window = 0 then .ofSeconds 30 else window) created
      (outcomes history)).window := by
  induction history using List.reverseRecOn with
  | nil => rfl
  | append_singleton history operation inductionHypothesis =>
      have before := inductionHypothesis steady.of_append_left
      rw [after_concat, Operation.outcomes_concat]
      cases operation with
      | markHealthy now =>
          rw [Operation.outcome?, Option.toList_none, List.append_nil]
          exact before
      | markUnhealthy now error =>
          rw [Operation.outcome?, Option.toList_none, List.append_nil]
          exact before
      | recordResult success now policy =>
          obtain ⟨rfl, -⟩ := steady.uniform success now policy (by simp)
          have inCalendar := steady.inCalendar
          rw [Operation.outcomes_concat, List.map_append, ← List.cons_append] at inCalendar
          have fromStart : Instant.earliest ≤ (Epoch.current policy.effectiveWindow created
              (outcomes history)).start :=
            (inCalendar _ (List.mem_append_left _ Epoch.start_mem_current)).1
          have toEnd := (inCalendar now (List.mem_append_right _ List.mem_cons_self)).2
          rw [Operation.apply, window_recordResult, before]
          exact (Epoch.record_window fromStart toEnd).trans
            (congrArg Epoch.window (Epoch.current_concat _).symm)

end Epochs

/-- The counts after a recording are those of the current epoch, and it opens the circuit as that
epoch says; the marks of probes change neither the counts nor the openings. -/
theorem counts_current_epoch {window : Duration} {threshold : Binary64} {created : Instant}
    {history : List Operation} (steady : Steady window threshold created history) :
    (∀ before success now policy rest,
      history = before ++ .recordResult success now policy :: rest →
        CountsEpoch (if window = 0 then .ofSeconds 30 else window)
          (if threshold.le (.zero false) then CircuitPolicy.half else threshold)
          ⟨success, now⟩
          (.current (if window = 0 then .ofSeconds 30 else window) created
            (outcomes before ++ [⟨success, now⟩]))
          (((new created).after before).recordResult success now policy)) ∧
      ((new created).after history).window =
        ((new created).after (unmarked history)).window ∧
      ((new created).calls history).filter (fun call => !call.operation.isMark) =
        (new created).calls (unmarked history) := by
  refine ⟨?_, calls_unmarked rfl history⟩
  intro before success now policy rest split
  rw [split, List.append_cons] at steady
  obtain ⟨rfl, rfl⟩ := steady.of_append_left.uniform success now policy (by simp)
  have counted := window_after steady.of_append_left
  obtain ⟨-, ordered, -, room⟩ := steady.of_append_left
  rw [after_concat, Operation.apply] at counted
  rw [Operation.outcomes_concat, Operation.outcome?, Option.toList_some] at counted ordered room
  refine countsEpoch_of_window counted ?_ ?_ ?_ (Epoch.within_current ordered)
  · rw [opens_recordResult, ← window_recordResult, counted]
  · exact Nat.lt_of_le_of_lt Epoch.length_current_le room
  · rw [Epoch.current_concat, Epoch.getLast?_add]

/-- Recordings without a window and a threshold of their own, and a probe between them. The fourth
comes as thirty seconds are over, the last one a nanosecond later. -/
def edgeHistory : List Operation :=
  let policy : CircuitPolicy := ⟨0, .zero false, .ofSeconds 30⟩
  [.recordResult false 1000000000 policy, .recordResult false 2000000000 policy,
    .markHealthy 3000000000, .recordResult true 30000000000 policy,
    .recordResult false 30000000000 policy, .recordResult false 30000000001 policy]

theorem steady_edgeHistory : Steady 0 (.zero false) 0 edgeHistory where
  uniform success now policy member := by
    simp only [edgeHistory, List.mem_cons, List.not_mem_nil, or_false, reduceCtorEq,
      Operation.recordResult.injEq, false_or] at member
    rcases member with ⟨-, -, rfl⟩ | ⟨-, -, rfl⟩ | ⟨-, -, rfl⟩ | ⟨-, -, rfl⟩ | ⟨-, -, rfl⟩ <;>
      exact ⟨rfl, rfl⟩
  ordered := by decide
  inCalendar := by decide
  room := by decide

/-- The outcome at the edge is the fourth of its epoch, three of which failed, and opens the
circuit; the one after it is the first of another epoch. -/
theorem opened_at_edge : Steady 0 (.zero false) 0 edgeHistory ∧
    (((new 0).after (edgeHistory.take 4)).recordResult false 30000000000
      ⟨0, .zero false, .ofSeconds 30⟩).2 = true ∧
    (((new 0).after (edgeHistory.take 5)).recordResult false 30000000001
      ⟨0, .zero false, .ofSeconds 30⟩).1.requestsInWindow.toNat = 1 := by
  have counts := (counts_current_epoch steady_edgeHistory).1
  refine ⟨steady_edgeHistory, ?_, ?_⟩
  · exact (counts _ _ _ _ _ rfl).opens.mpr (by decide)
  · exact (counts _ _ _ _ [] rfl).requests

end Status

end Backend

end ApiGateway
