import ApiGateway.Proofs.Backend.Epoch

/-!
# Openings of a circuit and their reports

A status keeps one end of its circuit: that of the last opening, unless a successful probe
came after it (`circuitOpenUntil_after`, at whatever times the operations take place). A
recording that opens the circuit says so, but it says so as well when it only puts off
the end of a circuit that is open (`reportsOpening_after`). In the order of time the last
opening with one cooldown ends last, so that an open circuit is one that some opening
holds open (`keepsCircuit_after`). The reason that an open circuit is refused with is a text,
which a failed probe may leave as well (`failedWith_after`).
-/

namespace ApiGateway.Backend

/-! ## Ends of openings -/

namespace Call

/-- The end of the opening that a call reports. -/
def closing? (call : Call) : Option Instant :=
  match call.operation with
  | .recordResult _ now policy =>
    if call.opened then some (now.saturatingAdd policy.cooldown) else none
  | _ => none

theorem opened_of_closing? {call : Call} {closing : Instant}
    (ends : call.closing? = some closing) : call.opened = true := by
  simp only [closing?] at ends
  split at ends
  · split at ends
    · next opened => exact opened
    · cases ends
  · cases ends

/-- A call leaves an opening with this end alone: it reports none itself, and it is no successful
probe after the end. -/
def Leaves (closing : Instant) (call : Call) : Prop :=
  call.closing? = none ∧ ∀ now, call.operation = .markHealthy now → now ≤ closing

end Call

/-- The last opening of some calls has this end, and the calls after it leave it alone. -/
def ClosesAt (closing : Instant) (calls : List Call) : Prop :=
  ∃ before opening later, calls = before ++ opening :: later ∧
    opening.closing? = some closing ∧ ∀ call ∈ later, call.Leaves closing

/-- The last one of some calls is the one that is looked for, or it does not matter to an earlier
one. -/
theorem exists_last_concat_iff {found unmoved : Call → Prop} {calls : List Call} {call : Call} :
    (∃ before last later, calls ++ [call] = before ++ last :: later ∧ found last ∧
        ∀ other ∈ later, unmoved other) ↔
      found call ∨ (∃ before last later, calls = before ++ last :: later ∧ found last ∧
        ∀ other ∈ later, unmoved other) ∧ unmoved call := by
  constructor
  · rintro ⟨before, last, later, split, isFound, left⟩
    rcases List.eq_nil_or_concat later with rfl | ⟨rest, final, rfl⟩
    · obtain ⟨-, same⟩ := List.append_inj' split rfl
      cases same
      exact .inl isFound
    · rw [List.concat_eq_append] at split left
      rw [← List.cons_append, ← List.append_assoc] at split
      obtain ⟨front, same⟩ := List.append_inj' split rfl
      cases same
      refine .inr ⟨⟨before, last, rest, front, isFound, ?_⟩, left call (by simp)⟩
      exact fun other member => left other (List.mem_append_left _ member)
  · rintro (isFound | ⟨⟨before, last, later, rfl, isFound, left⟩, unmovedCall⟩)
    · exact ⟨calls, call, [], rfl, isFound, nofun⟩
    · refine ⟨before, last, later ++ [call], by simp, isFound, ?_⟩
      intro other member
      rcases List.mem_append.mp member with earlier | same
      · exact left other earlier
      · rw [List.mem_singleton.mp same]
        exact unmovedCall

theorem closesAt_concat_iff {closing : Instant} {calls : List Call} {call : Call} :
    ClosesAt closing (calls ++ [call]) ↔
      call.closing? = some closing ∨ ClosesAt closing calls ∧ call.Leaves closing :=
  exists_last_concat_iff

/-- A failed probe left this error, and no later call left another one. -/
def FailedWith (error : String) (calls : List Call) : Prop :=
  ∃ before probe later, calls = before ++ probe :: later ∧
    (∃ now, probe.operation = .markUnhealthy now error) ∧
    ∀ call ∈ later, call.operation.isMark = false ∧ call.opened = false

theorem failedWith_concat_iff {error : String} {calls : List Call} {call : Call} :
    FailedWith error (calls ++ [call]) ↔
      (∃ now, call.operation = .markUnhealthy now error) ∨
        FailedWith error calls ∧ call.operation.isMark = false ∧ call.opened = false :=
  exists_last_concat_iff

namespace Status

variable (created : Instant) (history : List Operation)

/-- The end of a circuit is that of the last opening, unless a successful probe cleared it. -/
theorem circuitOpenUntil_after {closing : Instant} :
    ((new created).after history).circuitOpenUntil = some closing ↔
      ClosesAt closing ((new created).calls history) := by
  induction history using List.reverseRecOn with
  | nil => simp [after, new, calls, ClosesAt]
  | append_singleton history operation inductionHypothesis =>
      rw [after_concat, calls_concat, closesAt_concat_iff, ← inductionHypothesis]
      cases operation with
      | markHealthy now =>
          simp [Operation.apply, markHealthy, Option.filter_eq_some_iff, Call.closing?,
            Call.Leaves]
      | markUnhealthy now error =>
          simp [Operation.apply, markUnhealthy, Call.closing?, Call.Leaves]
      | recordResult success now policy =>
          rw [Operation.apply, circuitOpenUntil_recordResult]
          cases (((new created).after history).recordResult success now policy).2 with
          | true => simp [Call.closing?, Call.Leaves]
          | false => simp [Call.closing?, Call.Leaves]

theorem isCircuitOpen_after_iff {now : Instant} :
    ((new created).after history).isCircuitOpen now = true ↔
      ∃ closing, ClosesAt closing ((new created).calls history) ∧ now < closing := by
  simp only [isCircuitOpen_eq_true_iff, circuitOpenUntil_after]

/-- Any error but that of an opening is found in an unhealthy backend exactly as long as a failed
probe has left it. -/
theorem failedWith_after {error : String} (other : error ≠ circuitOpenedError) :
    ((new created).after history).healthy = false ∧
        ((new created).after history).lastError = error ↔
      FailedWith error ((new created).calls history) := by
  induction history using List.reverseRecOn with
  | nil => simp [after, new, calls, FailedWith]
  | append_singleton history operation inductionHypothesis =>
      rw [after_concat, calls_concat, failedWith_concat_iff, ← inductionHypothesis]
      cases operation with
      | markHealthy now => simp [Operation.apply, markHealthy, Operation.isMark]
      | markUnhealthy now left => simp [Operation.apply, markUnhealthy, Operation.isMark]
      | recordResult success now policy =>
          simp only [Operation.apply, healthy_recordResult, lastError_recordResult]
          cases (((new created).after history).recordResult success now policy).2 with
          | true => simp [other.symm]
          | false => simp [Operation.isMark]

/-! ## Reports -/

/-- What the flag of a recording tells about the circuit, given the calls before it. -/
structure ReportsOpening (calls : List Call) (success : Bool) (now : Instant)
    (policy : CircuitPolicy) (status : Status) : Prop where
  /-- No opening of a closed circuit goes unreported. -/
  reported : status.isCircuitOpen now = false →
    (status.recordResult success now policy).1.isCircuitOpen now = true →
    (status.recordResult success now policy).2 = true
  /-- The counts alone decide on a report, whether the circuit is open or not. -/
  decided : (status.recordResult success now policy).2 =
    (!success && (status.window.record policy ⟨success, now⟩).trips policy)
  /-- The end of the circuit is set anew. -/
  renewed : (status.recordResult success now policy).2 = true →
    (status.recordResult success now policy).1.circuitOpenUntil =
      some (now.saturatingAdd policy.cooldown)
  /-- A report is one of a closed circuit exactly if no earlier opening lasts. -/
  closed_iff : (status.recordResult success now policy).2 = true →
    (status.isCircuitOpen now = false ↔ ∀ closing, ClosesAt closing calls → closing ≤ now)

/-- Whatever a status has been through, a recording reports every opening of its circuit. It
reports an opening as well when an earlier one lasts, and puts off its end. -/
theorem reportsOpening_after (success : Bool) (now : Instant) (policy : CircuitPolicy) :
    ((new created).after history).ReportsOpening ((new created).calls history) success now
      policy where
  reported closed opened := by
    by_contra unreported
    have kept : (((new created).after history).recordResult success now policy).1.circuitOpenUntil
        = ((new created).after history).circuitOpenUntil := by
      rw [circuitOpenUntil_recordResult, if_neg unreported]
    rw [isCircuitOpen, kept, ← isCircuitOpen, closed] at opened
    cases opened
  decided := opens_recordResult ..
  renewed reported := by rw [circuitOpenUntil_recordResult, if_pos reported]
  closed_iff _ := by simp only [isCircuitOpen_eq_false_iff, circuitOpenUntil_after]

/-- A failure opens the circuit for half a minute if it is one of three within a minute. -/
def minutePolicy : CircuitPolicy := ⟨.ofSeconds 60, CircuitPolicy.half, .ofSeconds 30⟩

/-- Three failures that open the circuit. -/
def threeFailures : List Operation :=
  [.recordResult false 1 minutePolicy, .recordResult false 2 minutePolicy,
    .recordResult false 3 minutePolicy]

/-- Another failure is reported as an opening although the circuit is open. -/
theorem reported_while_open :
    ((new 0).after threeFailures).isCircuitOpen 4 = true ∧
      (((new 0).after threeFailures).recordResult false 4 minutePolicy).2 = true := by
  decide

/-- A failure at the end of the first opening opens the circuit again. -/
theorem reopened_after_threeFailures :
    (((new 0).after threeFailures).recordResult false 30000000003 minutePolicy).2 = true ∧
      (((new 0).after threeFailures).recordResult false 30000000003
        minutePolicy).1.circuitOpenUntil = some 60000000003 ∧
      ∀ closing, ClosesAt closing ((new 0).calls threeFailures) → closing ≤ 30000000003 := by
  have reports := reportsOpening_after 0 threeFailures false 30000000003 minutePolicy
  have reported : (((new 0).after threeFailures).recordResult false 30000000003
      minutePolicy).2 = true := by
    decide
  exact ⟨reported, reports.renewed reported, (reports.closed_iff reported).mp (by decide)⟩

end Status

/-! ## In the order of time -/

namespace Operation

/-- A history in the order of time and within the calendar, as the creation of the status is, whose
recordings have one cooldown. -/
structure Timely (cooldown : Duration) (created : Instant) (history : List Operation) : Prop where
  uniform : ∀ success now policy, .recordResult success now policy ∈ history →
    policy.cooldown = cooldown
  ordered : (history.map time).Pairwise (· ≤ ·)
  inCalendar : ∀ instant ∈ created :: history.map time,
    Instant.earliest ≤ instant ∧ instant ≤ Instant.latest

end Operation

open Operation (Timely)

/-- The operation of a call is in the history. -/
theorem Status.mem_of_mem_calls {status : Status} {history : List Operation} {call : Call}
    (member : call ∈ status.calls history) : call.operation ∈ history := by
  rw [← status.map_operation_calls history]
  exact List.mem_map_of_mem member

/-- Only recordings report an opening. -/
theorem Status.isRecording_of_opened {status : Status} {history : List Operation} {call : Call}
    (member : call ∈ status.calls history) (opened : call.opened = true) :
    ∃ success now policy, call.operation = .recordResult success now policy := by
  induction history generalizing status with
  | nil => cases member
  | cons operation rest inductionHypothesis =>
      rcases List.mem_cons.mp member with rfl | later
      · cases operation with
        | markHealthy now => cases opened
        | markUnhealthy now error => cases opened
        | recordResult success now policy => exact ⟨success, now, policy, rfl⟩
      · exact inductionHypothesis later

/-- Of some calls that report an opening one is the last. -/
theorem exists_last_opening {calls : List Call} {call : Call} (member : call ∈ calls)
    (opened : call.opened = true) :
    ∃ before opening later, calls = before ++ opening :: later ∧ opening.opened = true ∧
      ∀ other ∈ later, other.opened = false := by
  have present : (calls.reverse.find? Call.opened).isSome = true := by
    rw [List.find?_isSome]
    exact ⟨call, List.mem_reverse.mpr member, opened⟩
  obtain ⟨opening, found⟩ := Option.isSome_iff_exists.mp present
  obtain ⟨opens, later, before, split, none⟩ := List.find?_eq_some_iff_append.mp found
  refine ⟨before.reverse, opening, later.reverse, ?_, opens, ?_⟩
  · rw [← List.reverse_reverse calls, split]
    simp
  · intro other known
    simpa using none other (List.mem_reverse.mp known)

namespace Status

/-- A window starts with the backend or at the time of an operation. -/
theorem windowStartedAt_after (created : Instant) (history : List Operation) :
    ((new created).after history).windowStartedAt ∈ created :: history.map Operation.time := by
  induction history using List.reverseRecOn with
  | nil => exact List.mem_cons_self
  | append_singleton history operation inductionHypothesis =>
      rw [after_concat, List.map_append, ← List.cons_append]
      cases operation with
      | markHealthy now => exact List.mem_append_left _ inductionHypothesis
      | markUnhealthy now error => exact List.mem_append_left _ inductionHypothesis
      | recordResult success now policy =>
          have started : (((new created).after history).recordResult success now
              policy).1.windowStartedAt =
                (((new created).after history).window.record policy ⟨success, now⟩).startedAt :=
            congrArg Window.startedAt (window_recordResult ..)
          rw [Operation.apply, started]
          simp only [Window.record]
          split
          · exact List.mem_append_right _ List.mem_cons_self
          · exact List.mem_append_left _ inductionHypothesis

section Timely

variable {cooldown : Duration} {created : Instant} {history : List Operation}
  (timely : Timely cooldown created history)
include timely

/-- The end of an opening is a cooldown after its time, cut to the calendar. -/
theorem closing_of_opened {call : Call} (member : call ∈ (new created).calls history)
    (opened : call.opened = true) :
    call.closing? = some (call.operation.time.saturatingAdd cooldown) ∧
      call.operation.time.saturatingAdd cooldown =
        min (call.operation.time + cooldown) Instant.latest := by
  have known := mem_of_mem_calls member
  have inCalendar := timely.inCalendar call.operation.time
    (List.mem_cons_of_mem _ (List.mem_map_of_mem known))
  obtain ⟨success, now, policy, recording⟩ := isRecording_of_opened member opened
  rw [recording] at known
  obtain rfl := timely.uniform success now policy known
  refine ⟨?_, Instant.saturatingAdd_eq_min inCalendar.1 _⟩
  simp only [Call.closing?, recording, opened, if_true, Operation.time]

/-- The end of a circuit is that of an opening. -/
theorem opened_of_closesAt {closing : Instant}
    (closes : ClosesAt closing ((new created).calls history)) :
    ∃ call ∈ (new created).calls history, call.opened = true ∧
      closing = min (call.operation.time + cooldown) Instant.latest := by
  obtain ⟨before, opening, later, split, ends, -⟩ := closes
  have member : opening ∈ (new created).calls history := by simp [split]
  have opened := Call.opened_of_closing? ends
  obtain ⟨same, cut⟩ := closing_of_opened timely member opened
  rw [ends, cut] at same
  exact ⟨opening, member, opened, Option.some.inj same⟩

/-- An opening that has not ended holds the circuit open. -/
theorem closesAt_of_opened {now : Instant} (notBefore : ∀ operation ∈ history, operation.time ≤ now)
    {call : Call} (member : call ∈ (new created).calls history) (opened : call.opened = true)
    (within : now < call.operation.time.saturatingAdd cooldown) :
    ∃ closing, ClosesAt closing ((new created).calls history) ∧ now < closing := by
  obtain ⟨before, opening, later, split, opens, none⟩ := exists_last_opening member opened
  have last : opening ∈ (new created).calls history := by simp [split]
  -- The last opening is not before the other ones, so that it does not end before them.
  have notEarlier : call.operation.time ≤ opening.operation.time := by
    have ordered := timely.ordered
    rw [← map_operation_calls (new created) history, List.map_map, split, List.map_append,
      List.map_cons, List.pairwise_append] at ordered
    rw [split] at member
    rcases List.mem_append.mp member with earlier | rest
    · exact ordered.2.2 _ (List.mem_map_of_mem earlier) _ List.mem_cons_self
    · rcases List.mem_cons.mp rest with rfl | after
      · exact Int.le_refl _
      · rw [none call after] at opened
        cases opened
  have inTime : now < opening.operation.time.saturatingAdd cooldown :=
    Int.lt_of_lt_of_le within (Instant.saturatingAdd_mono notEarlier cooldown)
  refine ⟨_, ⟨before, opening, later, split, (closing_of_opened timely last opens).1, ?_⟩,
    inTime⟩
  intro other after
  have inside : other ∈ (new created).calls history := by simp [split, after]
  refine ⟨?_, ?_⟩
  · simp only [Call.closing?, none other after]
    split <;> rfl
  · intro probed healthy
    have early := notBefore _ (mem_of_mem_calls inside)
    rw [healthy] at early
    exact Int.le_of_lt (Int.lt_of_le_of_lt early inTime)

end Timely

/-- The circuit of a status at an instant is told by the openings of its history. -/
structure KeepsCircuit (cooldown : Duration) (calls : List Call) (now : Instant)
    (status : Status) : Prop where
  /-- It is open exactly during the cooldown of an opening. -/
  isOpen : status.isCircuitOpen now = true ↔
    ∃ call ∈ calls, call.opened = true ∧
      now < min (call.operation.time + cooldown) Instant.latest
  /-- Requests are refused with its reason then, and as long as a failed probe has left the same
  text. -/
  circuitOpen : status.availability now = .error "circuit_open" ↔
    (∃ call ∈ calls, call.opened = true ∧
      now < min (call.operation.time + cooldown) Instant.latest) ∨
    FailedWith "circuit_open" calls
  available : status.healthy = true →
    (∀ call ∈ calls, call.opened = true →
      min (call.operation.time + cooldown) Instant.latest ≤ now) →
    status.availability now = .ok ()
  /-- An end never leaves the calendar, however long the cooldown is. -/
  inCalendar : ∀ closing, status.circuitOpenUntil = some closing →
    Instant.earliest ≤ closing ∧ closing ≤ Instant.latest
  /-- Nor is a window cut that is compared with the calendar. -/
  rolls : ∀ policy : CircuitPolicy, now ≤ Instant.latest →
    (Instant.delta policy.effectiveWindow < now - status.windowStartedAt ↔
      status.windowStartedAt + policy.effectiveWindow < now)

theorem keepsCircuit_after {cooldown : Duration} {created : Instant} {history : List Operation}
    (timely : Timely cooldown created history) {now : Instant}
    (notBefore : ∀ operation ∈ history, operation.time ≤ now) :
    ((new created).after history).KeepsCircuit cooldown ((new created).calls history) now := by
  have opened_iff : ((new created).after history).isCircuitOpen now = true ↔
      ∃ call ∈ (new created).calls history, call.opened = true ∧
        now < min (call.operation.time + cooldown) Instant.latest := by
    rw [isCircuitOpen_after_iff]
    constructor
    · rintro ⟨closing, closes, within⟩
      obtain ⟨call, member, opened, rfl⟩ := opened_of_closesAt timely closes
      exact ⟨call, member, opened, within⟩
    · rintro ⟨call, member, opened, within⟩
      rw [← (closing_of_opened timely member opened).2] at within
      exact closesAt_of_opened timely notBefore member opened within
  refine { isOpen := opened_iff, circuitOpen := ?_, available := ?_, inCalendar := ?_, rolls := ?_ }
  · have failed_iff := failedWith_after created history (show circuitOpenReason ≠ _ by decide)
    exact availability_eq_circuitOpen_iff.trans (or_congr opened_iff failed_iff)
  · intro healthy ended
    have closed : ((new created).after history).isCircuitOpen now = false := by
      rw [← Bool.not_eq_true, opened_iff]
      rintro ⟨call, member, opened, within⟩
      exact Int.not_lt.mpr (ended call member opened) within
    rw [isCircuitOpen_eq_false_iff] at closed
    exact availability_eq_ok_iff.mpr ⟨healthy, closed⟩
  · intro closing ends
    obtain ⟨call, member, opened, rfl⟩ :=
      opened_of_closesAt timely ((circuitOpenUntil_after created history).mp ends)
    obtain ⟨fromStart, toEnd⟩ := timely.inCalendar call.operation.time
      (List.mem_cons_of_mem _ (List.mem_map_of_mem (mem_of_mem_calls member)))
    refine ⟨?_, Int.min_le_right _ _⟩
    have notEarlier : call.operation.time ≤ call.operation.time + cooldown :=
      Int.le_add_of_nonneg_right (Int.natCast_nonneg _)
    exact Int.le_min.mpr ⟨Int.le_trans fromStart notEarlier, Int.le_trans fromStart toEnd⟩
  · intro policy toEnd
    have started := timely.inCalendar _ (windowStartedAt_after created history)
    exact Instant.delta_lt_sub_iff started.1 toEnd _

/-- Three failures open the circuit for as long as a number of seconds can say, after a failed
probe. A successful probe comes later. -/
def longHistory : List Operation :=
  let policy : CircuitPolicy := ⟨0, .zero false, .ofSeconds 18446744073709551615⟩
  [.markUnhealthy 1 "refused", .recordResult false 2 policy, .recordResult false 3 policy,
    .recordResult false 4 policy, .markHealthy 5]

theorem timely_longHistory : Timely (.ofSeconds 18446744073709551615) 0 longHistory where
  uniform success now policy member := by
    simp only [longHistory, List.mem_cons, List.not_mem_nil, or_false, reduceCtorEq,
      Operation.recordResult.injEq, false_or] at member
    rcases member with ⟨-, -, rfl⟩ | ⟨-, -, rfl⟩ | ⟨-, -, rfl⟩ <;> rfl
  ordered := by decide
  inCalendar := by decide

/-- The circuit is open up to the last instant of the calendar, and not at this instant. -/
theorem open_to_the_last :
    Timely (.ofSeconds 18446744073709551615) 0 longHistory ∧
      ((new 0).after longHistory).availability (Instant.latest - 1) = .error "circuit_open" ∧
      ((new 0).after longHistory).availability Instant.latest = .ok () := by
  have past : ∀ operation ∈ longHistory, operation.time ≤ Instant.latest - 1 := by decide
  have all : ∀ operation ∈ longHistory, operation.time ≤ Instant.latest := by decide
  refine ⟨timely_longHistory, ?_, ?_⟩
  · exact (keepsCircuit_after timely_longHistory past).circuitOpen.mpr (.inl (by decide))
  · exact (keepsCircuit_after timely_longHistory all).available (by decide) (by decide)

/-- A failed probe whose error reads like the reason for an open circuit. -/
def namesakeHistory : List Operation := [.markUnhealthy 1 "circuit_open"]

theorem timely_namesakeHistory : Timely (.ofSeconds 30) 0 namesakeHistory where
  uniform success now policy member := by simp [namesakeHistory] at member
  ordered := by decide
  inCalendar := by decide

/-- Requests are refused with this reason although nothing has opened the circuit. -/
theorem refused_without_opening :
    Timely (.ofSeconds 30) 0 namesakeHistory ∧
      (∀ operation ∈ namesakeHistory, operation.time ≤ 1) ∧
      ((new 0).after namesakeHistory).availability 1 = .error "circuit_open" ∧
      ∀ call ∈ (new 0).calls namesakeHistory, call.opened = false :=
  ⟨timely_namesakeHistory, by decide, rfl, by decide⟩

end Status

end ApiGateway.Backend
