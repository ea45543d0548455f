import ApiGateway.Proofs.Backend.FailedEpoch
import ApiGateway.Proofs.Engine.StatusEvent
import ApiGateway.Proofs.Engine.Trace
import ApiGateway.Proofs.Routing.Built

/-!
# A checked configuration keeps circuits effective

The status of a backend counts the outcomes that an execution has recorded for it, whatever
probes and reports have come between (`window_through`). So what a further recording does is told
by these outcomes, and a configuration that passes the check leaves no backend without a circuit
that opens (`guards_of_valid`).
-/

namespace ApiGateway.Engine

open Backend (Epoch Outcome Status Window)

/-! ## Recorded outcomes -/

/-- The outcome that an event records for a backend at an instant. -/
def StatusEvent.outcome? (key : String) (now : Instant) : StatusEvent → Option Outcome
  | recorded other success => if other = key then some ⟨success, now⟩ else none
  | noted .. => none

/-- The outcomes that are recorded for a backend at a moment. -/
def Moment.outcomes (engine : Engine) (key : String) (moment : Moment) : List Outcome :=
  moment.happening.move?.toList.flatMap fun move =>
    (moment.world.events engine move).filterMap (StatusEvent.outcome? key moment.world.now)

/-- The outcomes that an execution records for a backend. -/
def World.outcomes (engine : Engine) (key : String) (world : World)
    (happenings : List Happening) : List Outcome :=
  (world.moments engine happenings).flatMap (Moment.outcomes engine key)

theorem StatusEvent.time_of_outcome? {key : String} {now : Instant} {event : StatusEvent}
    {outcome : Outcome} (records : event.outcome? key now = some outcome) : outcome.time = now := by
  cases event with
  | recorded other success =>
      simp only [outcome?] at records
      split at records
      · cases records
        rfl
      · cases records
  | noted other finding => cases records

theorem Moment.time_of_mem_outcomes {engine : Engine} {key : String} {moment : Moment}
    {outcome : Outcome} (member : outcome ∈ moment.outcomes engine key) :
    outcome.time = moment.world.now := by
  obtain ⟨move, -, recorded⟩ := List.mem_flatMap.mp member
  obtain ⟨event, -, records⟩ := List.mem_filterMap.mp recorded
  exact event.time_of_outcome? records

/-- Outcomes are recorded between the start of an execution and its end. -/
theorem World.within_of_mem_outcomes {engine : Engine} {key : String} {world : World}
    {happenings : List Happening} {outcome : Outcome}
    (member : outcome ∈ world.outcomes engine key happenings) :
    world.now ≤ outcome.time ∧ outcome.time ≤ (world.through engine happenings).now := by
  obtain ⟨moment, happened, recorded⟩ := List.mem_flatMap.mp member
  obtain ⟨before, rest, -, reached⟩ := world.exists_append_of_mem_moments engine happened
  rw [moment.time_of_mem_outcomes recorded]
  refine ⟨?_, now_le_of_mem_moments happened⟩
  rw [← reached]
  exact (Steps.refl.through before).now_le

/-! ## What a status counts -/

section Counting

variable {policy : Backend.CircuitPolicy} {key : String} {now : Instant}

/-- An event about a backend counts what it records. -/
theorem StatusEvent.window_change {event : StatusEvent} (about : event.key = key)
    (status : Status) :
    (event.change policy now status).window =
      (event.outcome? key now).toList.foldl (fun window outcome => window.record policy outcome)
        status.window := by
  subst about
  cases event with
  | recorded key success => simp [change, outcome?, StatusEvent.key, Status.window_recordResult]
  | noted key finding =>
      simp only [change, outcome?, Option.toList_none, List.foldl_nil, Health.Finding.apply]
      split <;> rfl

/-- Some events count what they record for a backend. -/
theorem StatusEvent.window_foldl (events : List StatusEvent) (statuses : Backend.StatusBook) :
    ((events.foldl (StatusEvent.apply policy now) statuses).get? key).map Status.window =
      ((statuses.get? key).map Status.window).map fun window =>
        (events.filterMap (StatusEvent.outcome? key now)).foldl
          (fun window outcome => window.record policy outcome) window := by
  induction events generalizing statuses with
  | nil => simp [Function.comp_def]
  | cons event rest inductionHypothesis =>
      rw [List.foldl_cons, inductionHypothesis, apply_eq_update]
      by_cases about : event.key = key
      · subst about
        cases present : statuses.get? event.key with
        | none => simp [present]
        | some status =>
            simp only [Backend.StatusBook.get?_update_self, present, Option.map_some,
              window_change rfl]
            cases records : event.outcome? event.key now with
            | none => simp [List.filterMap_cons_none records]
            | some outcome => simp [List.filterMap_cons_some records]
      · have silent : event.outcome? key now = none := by
          cases event with
          | recorded other success => exact if_neg about
          | noted other finding => rfl
        rw [Backend.StatusBook.get?_update_of_ne (Ne.symm about), List.filterMap_cons_none silent]

end Counting

/-- What happens counts what it records. -/
theorem World.window_after (engine : Engine) (key : String) (world : World)
    (happening : Happening) :
    ((world.after engine happening).statuses.get? key).map Status.window =
      ((world.statuses.get? key).map Status.window).map fun window =>
        (Moment.outcomes engine key ⟨world, happening⟩).foldl
          (fun window outcome => window.record engine.circuitPolicy outcome) window := by
  cases happening with
  | move move =>
      simp only [after, statuses_move, StatusEvent.window_foldl, Moment.outcomes,
        Happening.move?, Option.toList_some, List.flatMap_singleton]
  | delay instant =>
      simp only [after]
      split <;> cases world.statuses.get? key <;> rfl
  | report other finding =>
      have noted := @StatusEvent.window_foldl engine.circuitPolicy key world.now
        [.noted other finding] world.statuses
      exact noted

/-- An execution counts what it records. -/
theorem World.window_through (engine : Engine) (key : String) (world : World)
    (happenings : List Happening) :
    ((world.through engine happenings).statuses.get? key).map Status.window =
      ((world.statuses.get? key).map Status.window).map fun window =>
        (world.outcomes engine key happenings).foldl
          (fun window outcome => window.record engine.circuitPolicy outcome) window := by
  induction happenings using List.reverseRecOn with
  | nil => cases present : world.statuses.get? key <;> simp [through, outcomes, moments, present]
  | append_singleton before happening inductionHypothesis =>
      rw [through_concat, window_after, inductionHypothesis, outcomes, outcomes, moments_concat,
        List.flatMap_append, List.flatMap_singleton]
      simp only [Option.map_map, Function.comp_def, List.foldl_append]

/-- A backend that the gateway starts with is new at the start. -/
theorem get?_initial {engine : Engine} {network : Network} {start : Instant} {key : String}
    {status : Status}
    (present : (World.initial engine network start).statuses.get? key = some status) :
    status = .new start := by
  simp only [World.initial, Backend.StatusBook.new, Backend.StatusBook.get?] at present
  obtain ⟨front, back, split, -⟩ := List.lookup_eq_some_iff.mp present
  have member : (key, status) ∈ (engine.table.backends.map Backend.key).map
      fun key => (key, Status.new start) := by
    rw [split]
    simp
  obtain ⟨other, -, same⟩ := List.mem_map.mp member
  cases same
  rfl

section Reached

variable {engine : Engine} {network : Network} {start : Instant} {happenings : List Happening}
  {world : World} {key : String}
  (reached : (World.initial engine network start).through engine happenings = world)
  (fromStart : Instant.earliest ≤ start) (toEnd : world.now ≤ Instant.latest)
include reached fromStart toEnd

/-- An execution between the ends of the calendar records its outcomes there. -/
theorem inCalendar_outcomes :
    ∀ time ∈ start :: ((World.initial engine network start).outcomes engine key happenings).map
        Outcome.time,
      Instant.earliest ≤ time ∧ time ≤ Instant.latest := by
  subst reached
  rw [List.forall_mem_cons, List.forall_mem_map]
  constructor
  · exact ⟨fromStart, Int.le_trans (Steps.refl.through happenings).now_le toEnd⟩
  · intro outcome recorded
    obtain ⟨notBefore, notAfter⟩ := World.within_of_mem_outcomes recorded
    exact ⟨Int.le_trans fromStart notBefore, Int.le_trans notAfter toEnd⟩

/-- In the calendar the status of a backend counts the epoch that is current after all outcomes
recorded for it. -/
theorem window_of_reached {status : Status} (present : world.statuses.get? key = some status) :
    status.window = (Epoch.current engine.circuitPolicy.effectiveWindow start
      ((World.initial engine network start).outcomes engine key happenings)).window := by
  let first := World.initial engine network start
  have counted := first.window_through engine key happenings
  rw [reached, present] at counted
  cases initially : first.statuses.get? key with
  | none => simp [initially] at counted
  | some fresh =>
      cases get?_initial initially
      simp only [initially, Option.map_some, Option.some.injEq] at counted
      rw [counted]
      exact Epoch.window_current (inCalendar_outcomes reached fromStart toEnd)

end Reached

/-! ## The circuits of a configuration -/

section Configured

variable {config : Config} {transport : Transport} {built : Built}

theorem circuitPolicy_of_ofDefinitions {definitions : List Routing.Definition}
    (made : ofDefinitions config definitions transport = .ok built) :
    built.engine.circuitPolicy = config.circuitPolicy := by
  simp only [ofDefinitions] at made
  split at made
  · cases made
  · cases made
    rfl

/-- Every engine has the circuits of its configuration. -/
theorem circuitPolicy_of_ofLoaded {loaded : Except GatewayError (List Routing.Definition)}
    (made : ofLoaded config loaded transport = .ok built) :
    built.engine.circuitPolicy = config.circuitPolicy := by
  simp only [ofLoaded] at made
  split at made
  · exact circuitPolicy_of_ofDefinitions made
  · cases made
  · split at made
    · next bare withoutRoutes =>
        have same := circuitPolicy_of_ofDefinitions withoutRoutes
        cases made
        exact same
    · cases made

end Configured

/-- Under a configuration that passes the check no circuit fails to open. In whatever state an
execution has left a backend, a recording at any time of the calendar opens its circuit if it is
at least the third of its epoch and all outcomes of that epoch are failures; before the third none
does. -/
theorem guards_of_valid {config : Config} {check : PathCheck}
    (valid : (config.validate check).isValid = true)
    {loaded : Except GatewayError (List Routing.Definition)} {transport : Transport}
    {engine : Engine} {lines : List Log.Line}
    (configured : ofLoaded config loaded transport = .ok ⟨engine, lines⟩) {network : Network}
    {start : Instant} {happenings : List Happening} {world : World} {key : String}
    {status : Status}
    (reached : (World.initial engine network start).through engine happenings = world)
    (present : world.statuses.get? key = some status) (fromStart : Instant.earliest ≤ start)
    (toEnd : world.now ≤ Instant.latest) {now : Instant}
    (inCalendar : Instant.earliest ≤ now ∧ now ≤ Instant.latest) (success : Bool) :
    let window := if config.circuitWindowSeconds = 0 then 30 else config.circuitWindowSeconds
    let outcomes := (World.initial engine network start).outcomes engine key happenings
    Status.Guards (.ofSeconds config.circuitCooldownSeconds) now
      (.current (.ofSeconds window) start (outcomes ++ [⟨success, now⟩]))
      (status.recordResult success now engine.circuitPolicy) := by
  intro window outcomes
  have policy : engine.circuitPolicy = config.circuitPolicy := circuitPolicy_of_ofLoaded configured
  have bounded : engine.circuitPolicy.effectiveThreshold.le .one = true := by
    rw [policy]
    exact Config.effectiveThreshold_le_one valid
  have inForce : engine.circuitPolicy.effectiveWindow = .ofSeconds window := by
    rw [policy, Config.effectiveWindow_circuitPolicy]
  have cooldown : engine.circuitPolicy.cooldown = .ofSeconds config.circuitCooldownSeconds := by
    rw [policy]
    rfl
  have since : Instant.earliest ≤ (Epoch.current (.ofSeconds window) start outcomes).start :=
    (inCalendar_outcomes reached fromStart toEnd _ Epoch.start_mem_current).1
  have counted := window_of_reached reached fromStart toEnd present
  rw [← inForce] at since ⊢
  rw [← cooldown, Epoch.current_concat]
  exact Status.guards_recordResult bounded counted since inCalendar

/-! ### One gateway -/

/-- A configuration with a window and a threshold that both give way to their defaults. -/
def lenientConfig : Config :=
  { Config.standard with
    mode := .proxyAll
    routesFile := some "routes.yml"
    circuitWindowSeconds := 0
    circuitThreshold := .zero true
    maxBodyBytes := 1024 }

/-- The gateway of this configuration in front of `rootRoute`. -/
def lenientEngine : Engine :=
  { ofRoute rootRoute with circuitPolicy := lenientConfig.circuitPolicy }

theorem ofLoaded_lenientConfig :
    ∃ lines, ofLoaded lenientConfig
      (.ok [{ name := "all", pathPrefix := "/", target := "http://h" }]) ⟨.direct, none⟩ =
        .ok ⟨lenientEngine, lines⟩ := by
  have built : Routing.Table.build [{ name := "all", pathPrefix := "/", target := "http://h" }]
      lenientConfig.backendTimeout = .ok (lenientEngine.table, []) :=
    Routing.Table.build_of_toOption (by decide +kernel)
  simp only [ofLoaded, ofDefinitions, built]
  exact ⟨_, rfl⟩

/-- A backend that answers every request with an overload. -/
def busyNetwork : Network :=
  ⟨[("h", ⟨.accepted, some [⟨0, .response ⟨503, .empty, .empty⟩⟩], none⟩)]⟩

/-- Two requests are forwarded at once. -/
def twoForwarded : List Happening :=
  [.move (.serve 0 (.get "/a") []), .move (.serve 1 (.get "/b") []),
    .move (.run 0), .move (.run 0), .move (.run 0), .move (.run 0)]

/-- A third failure as the window of thirty seconds ends opens the circuit, a nanosecond later it
is the first of another epoch. -/
theorem guards_thirdFailure :
    (lenientConfig.validate fun _ => .ok ()).isValid = true ∧
      ∃ status, ((World.initial lenientEngine busyNetwork 0).through lenientEngine
          twoForwarded).statuses.get? "http://h/" = some status ∧
        (status.recordResult false 30000000000 lenientEngine.circuitPolicy).2 = true ∧
        (status.recordResult false 30000000000 lenientEngine.circuitPolicy).1.availability
          30000000000 = .error "circuit_open" ∧
        (status.recordResult false 30000000001 lenientEngine.circuitPolicy).2 = false := by
  have valid : (lenientConfig.validate fun _ => .ok ()).isValid = true := by decide +kernel
  obtain ⟨lines, configured⟩ := ofLoaded_lenientConfig
  obtain ⟨status, present⟩ : ∃ status, ((World.initial lenientEngine busyNetwork 0).through
      lenientEngine twoForwarded).statuses.get? "http://h/" = some status :=
    Option.isSome_iff_exists.mp (by decide +kernel)
  have guards (now : Instant) (inCalendar : Instant.earliest ≤ now ∧ now ≤ Instant.latest) :=
    guards_of_valid valid configured rfl present (by decide) (by decide +kernel) inCalendar false
  obtain ⟨opens, -, holdsOff⟩ := (guards 30000000000 (by decide)).opens (by decide +kernel)
    (by decide +kernel) (by decide +kernel)
  exact ⟨valid, status, present, opens, (holdsOff (by decide)).mpr (by decide),
    (guards 30000000001 (by decide)).waits (by decide +kernel)⟩

end ApiGateway.Engine
