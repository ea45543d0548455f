import ApiGateway.Engine.Waiting
import ApiGateway.Proofs.Backend.Recording
import ApiGateway.Proofs.Engine.HealthRound
import ApiGateway.Proofs.Engine.StatusKeys

/-!
# Readiness means probed

The gate closes at the end of the first round of the health loop, or at once where there
is nothing to probe. `Turn` says all that a move can do to the gate and to the loop; what
the first round still awaits is handed on from task to task until every backend has been
probed (`World.Prepared`). `gates_readiness` collects what follows for any execution.
-/

namespace ApiGateway.Engine

open Backend (CircuitPolicy StatusBook)

/-! ## Backends that have been probed -/

/-- The backend of a key has been probed. -/
def Probed (key : String) (statuses : StatusBook) : Prop :=
  ∃ status instant, statuses.get? key = some status ∧ status.lastChecked = some instant

theorem lastChecked_apply (finding : Health.Finding) (now : Instant) (status : Backend.Status) :
    (finding.apply now status).lastChecked = some now := by
  simp only [Health.Finding.apply]
  split <;> rfl

/-- What has been probed stays so. -/
theorem Probed.apply {key : String} {statuses : StatusBook} (probed : Probed key statuses)
    (policy : CircuitPolicy) (now : Instant) (event : StatusEvent) :
    Probed key (event.apply policy now statuses) := by
  obtain ⟨status, instant, found, checked⟩ := probed
  rw [StatusEvent.apply_eq_update]
  by_cases about : key = event.key
  · subst about
    have changed : (statuses.update event.key (event.change policy now)).get? event.key =
        some (event.change policy now status) := by
      rw [StatusBook.get?_update_self, found]
      rfl
    cases event with
    | recorded other success =>
        exact ⟨_, instant, changed, by simp [StatusEvent.change, checked]⟩
    | noted other finding => exact ⟨_, now, changed, lastChecked_apply ..⟩
  · exact ⟨status, instant, by rw [StatusBook.get?_update_of_ne about, found], checked⟩

theorem Probed.foldl {key : String} {statuses : StatusBook} (probed : Probed key statuses)
    (policy : CircuitPolicy) (now : Instant) (events : List StatusEvent) :
    Probed key (events.foldl (StatusEvent.apply policy now) statuses) := by
  induction events generalizing statuses with
  | nil => exact probed
  | cons event rest inductionHypothesis => exact inductionHypothesis (probed.apply policy now event)

/-- A finding that is noted makes its backend a probed one. -/
theorem probed_of_noted {key : String} {statuses : StatusBook} (known : key ∈ statuses.keys)
    (policy : CircuitPolicy) (now : Instant) {events : List StatusEvent}
    (noted : ∃ finding, .noted key finding ∈ events) :
    Probed key (events.foldl (StatusEvent.apply policy now) statuses) := by
  obtain ⟨finding, member⟩ := noted
  induction events generalizing statuses with
  | nil => cases member
  | cons event rest inductionHypothesis =>
      rcases List.mem_cons.mp member with rfl | later
      · obtain ⟨status, found⟩ := StatusBook.exists_get?_of_mem_keys known
        have changed : (statuses.update key (finding.apply now)).get? key =
            some (finding.apply now status) := by
          rw [StatusBook.get?_update_self, found]
          rfl
        exact Probed.foldl ⟨_, now, changed, lastChecked_apply ..⟩ policy now rest
      · exact inductionHypothesis (by rwa [StatusEvent.keys_apply]) later

/-! ## The health loop -/

namespace Task

/-- A backend that a task of the loop has yet to probe before the gate closes. -/
def Awaits (backend : Backend) : Task → Prop
  | loopStart => True
  | round .initial checks => ∃ check ∈ checks, check.backend = backend
  | _ => False

/-- What a task awaits has been probed, or its successor awaits it. -/
def HandsOn (engine : Engine) (after : World) (task : Task) (successor : Option Task) : Prop :=
  ∀ backend ∈ engine.table.backends, backend.IsProbeable → task.Awaits backend →
    Probed backend.key after.statuses ∨ ∃ next, successor = some next ∧ next.Awaits backend

end Task

namespace World

variable (engine : Engine) (world : World)

/-! ## Rounds of probes -/

/-- A round starts a probe of every backend whose health address can be requested. -/
theorem exists_check_of_launchAll {backends : List Backend} {backend : Backend}
    (member : backend ∈ backends) (probeable : backend.IsProbeable) :
    ∃ check ∈ (launchAll backends world).2, check.backend = backend :=
  List.mem_map.mp ((mem_backends_launchAll_iff ..).mpr ⟨member, probeable⟩)

/-- When a round goes on, each of its probes is settled or left for later. -/
theorem probed_or_pending (policy : CircuitPolicy) {backend : Backend}
    (known : backend.key ∈ world.statuses.keys) {checks : List Health.Check}
    (awaited : ∃ check ∈ checks, check.backend = backend) :
    Probed backend.key
        ((checks.filter fun check => check.due ≤ world.now).foldl settleCheck world).statuses ∨
      ∃ check ∈ checks.filter fun check => !(check.due ≤ world.now), check.backend = backend := by
  obtain ⟨check, member, rfl⟩ := awaited
  by_cases due : check.due ≤ world.now
  · left
    rw [statuses_settleChecks policy]
    refine probed_of_noted known _ _ ⟨check.finding, List.mem_map.mpr ⟨check, ?_, rfl⟩⟩
    exact List.mem_filter.mpr ⟨member, by simpa using due⟩
  · exact .inr ⟨check, List.mem_filter.mpr ⟨member, by simpa using due⟩, rfl⟩

/-! ## Turns -/

/-- All that may become of the gate and of the health loop when something happens. -/
inductive Turn (engine : Engine) (world : World) (happening : Happening) (next : World) : Prop where
  | aside (same : world.KeepsLoop next)
  /-- The first start finds nothing to probe. -/
  | startsReady (start : happening = .move .start) (unstarted : world.started = false)
      (nothing : engine.table.backends = []) (started : next.started = true)
      (ready : next.ready = true) (loops : next.loops = world.loops)
  /-- The first start starts the loop. -/
  | startsLoop (start : happening = .move .start) (unstarted : world.started = false)
      (started : next.started = true) (ready : next.ready = world.ready)
      (loops : next.loops = world.loops ++ [.loopStart])
  /-- A task of the loop goes on. The gate closes when nothing is left that it awaits. -/
  | goesOn {index : Nat} {task : Task} {successor : Option Task}
      (found : world.tasks[index]? = some task) (isLoop : task.isLoop = true)
      (started : next.started = world.started)
      (loops : next.loops = (world.without index).loops ++ successor.toList)
      (hands : task.HandsOn engine next successor)
      (ready : next.ready = world.ready ∨ next.ready = true ∧ task.HandsOn engine next none)

variable {engine world} {happening : Happening}

theorem Turn.of_push {index : Nat} {task next : Task} {after : World}
    (found : world.tasks[index]? = some task) (isLoop : task.isLoop = true)
    (same : (world.without index).Aside after) (nextLoop : next.isLoop = true)
    (hands : task.HandsOn engine after (some next)) :
    Turn engine world happening (after.push next) := by
  refine .goesOn found isLoop same.started ?_ hands (.inl same.ready)
  rw [loops_push _ nextLoop, same.loops]
  rfl

theorem turn_startRound {index : Nat} {task : Task} {purpose : RoundPurpose}
    (found : world.tasks[index]? = some task) (isLoop : task.isLoop = true)
    (nextLoop : ∀ checks, (Task.round purpose checks).isLoop = true)
    (first : purpose = .initial ∨ ∀ backend, ¬ task.Awaits backend) :
    Turn engine world happening ((world.without index).startRound engine purpose) := by
  refine Turn.of_push found isLoop (aside_launchAll ..) (nextLoop _) ?_
  intro backend member probeable awaited
  rcases first with rfl | nothing
  · exact .inr ⟨_, rfl, exists_check_of_launchAll _ member probeable⟩
  · exact absurd awaited (nothing backend)

/-- The gate closes after a first round that probed everything it had to. -/
theorem Turn.of_closed {index : Nat} {checks : List Health.Check} {after : World}
    (found : world.tasks[index]? = some (.round .initial checks))
    (same : (world.without index).Aside after)
    (probed : (Task.round .initial checks).HandsOn engine after none) :
    Turn engine world happening (after.endRound engine .initial) := by
  have waiting : (after.endRound engine .initial).loops = (world.without index).loops ++
      (some (Task.loopWaiting (after.now + interval engine))).toList := by
    rw [← same.loops]
    simp [endRound, log, push, loops, Task.isLoop]
  refine .goesOn found rfl same.started waiting (fun backend member probeable awaited => ?_)
    (.inr ⟨rfl, probed⟩)
  rcases probed backend member probeable awaited with probed | ⟨next, isNone, -⟩
  · exact .inl probed
  · cases isNone

theorem turn_resumeRound {index : Nat} {purpose : RoundPurpose} {checks : List Health.Check}
    (known : ∀ backend ∈ engine.table.backends, backend.key ∈ world.statuses.keys)
    (found : world.tasks[index]? = some (.round purpose checks))
    (isLoop : (Task.round purpose checks).isLoop = true) :
    Turn engine world happening ((world.without index).resumeRound engine purpose checks) := by
  have settled := (world.without index).aside_settleChecks
    (checks.filter fun check => check.due ≤ world.now)
  have handed (backend : Backend) (member : backend ∈ engine.table.backends)
      (awaited : ∃ check ∈ checks, check.backend = backend) :=
    (world.without index).probed_or_pending engine.circuitPolicy (known backend member) awaited
  simp only [resumeRound]
  cases purpose with
  | initial =>
      split
      · next none =>
          refine Turn.of_closed found settled fun backend member _ awaited => ?_
          rcases handed backend member awaited with probed | ⟨check, pending, -⟩
          · exact .inl probed
          · rw [List.isEmpty_iff.mp none] at pending
            cases pending
      · refine Turn.of_push found rfl settled rfl fun backend member _ awaited => ?_
        rcases handed backend member awaited with probed | pending
        · exact .inl probed
        · exact .inr ⟨_, rfl, pending⟩
  | periodic next =>
      split
      · exact Turn.of_push found rfl settled rfl fun _ _ _ => False.elim
      · exact Turn.of_push found rfl settled rfl fun _ _ _ => False.elim
  | requested ticket => cases isLoop

/-- A task of the loop that goes on takes its turn. -/
theorem turn_resume {index : Nat} {task : Task}
    (known : ∀ backend ∈ engine.table.backends, backend.key ∈ world.statuses.keys)
    (found : world.tasks[index]? = some task) (isLoop : task.isLoop = true) :
    Turn engine world happening ((world.without index).resume engine task) := by
  cases task with
  | loopStart => exact turn_startRound found rfl (fun _ => rfl) (.inl rfl)
  | round purpose checks => exact turn_resumeRound known found isLoop
  | loopWaiting next =>
      simp only [resume, resumeLoop]
      split
      · have ended : (world.without index).loops =
            (world.without index).loops ++ (none : Option Task).toList :=
          (List.append_nil _).symm
        exact .goesOn found rfl rfl ended (fun _ _ _ => False.elim) (.inl rfl)
      · exact turn_startRound found rfl (fun _ => rfl) (.inr fun _ => id)
  | _ => cases isLoop

theorem turn_start (unstarted : world.started = false) :
    Turn engine world (.move .start) (world.start engine) := by
  simp only [start, unstarted, Bool.false_eq_true, if_false]
  split
  · next nothing => exact .startsReady rfl unstarted (List.isEmpty_iff.mp nothing) rfl rfl rfl
  · exact .startsLoop rfl unstarted rfl rfl (loops_push _ rfl)

theorem turn_after (known : ∀ backend ∈ engine.table.backends, backend.key ∈ world.statuses.keys)
    (happening : Happening) : Turn engine world happening (world.after engine happening) := by
  have turn : LoopTurn engine world happening (world.after engine happening) :=
    loopTurn_after happening
  generalize world.after engine happening = next at turn
  cases turn with
  | aside same => exact .aside same.toKeepsLoop
  | shutsDown => exact .aside ⟨rfl, rfl, rfl⟩
  | starts unstarted => exact turn_start unstarted
  | goesOn found isLoop ready => exact turn_resume known found isLoop

/-- What has been probed stays so, whatever happens. -/
theorem probed_after {key : String} (probed : Probed key world.statuses) (happening : Happening) :
    Probed key (world.after engine happening).statuses := by
  cases happening with
  | move move =>
      rw [after, statuses_move]
      exact probed.foldl ..
  | delay instant =>
      simp only [after]
      split <;> exact probed
  | report key finding => exact probed.apply engine.circuitPolicy world.now (.noted key finding)

/-! ## The invariant -/

variable (engine world) in
/-- The gate is closed only after a start and only when everything has been probed; and until
something is probed, the only task of the loop awaits it. -/
structure Prepared : Prop where
  known : ∀ backend ∈ engine.table.backends, backend.key ∈ world.statuses.keys
  started : world.ready = true → world.started = true
  loopStarted : world.loops ≠ [] → world.started = true
  alone : world.loops.length ≤ 1
  probed : world.ready = true → ∀ backend ∈ engine.table.backends, backend.IsProbeable →
    Probed backend.key world.statuses
  awaited : ∀ task ∈ world.loops, ∀ backend ∈ engine.table.backends, backend.IsProbeable →
    Probed backend.key world.statuses ∨ task.Awaits backend

theorem prepared_initial (engine : Engine) (network : Network) (start : Instant) :
    (World.initial engine network start).Prepared engine := by
  have idle : (World.initial engine network start).loops = [] := rfl
  have unready : (World.initial engine network start).ready = false := rfl
  refine ⟨fun backend member => ?_, ?_, ?_, ?_, ?_, ?_⟩
  · rw [keys_initial]
    exact List.mem_map_of_mem member
  · simp [unready]
  · simp [idle]
  · simp [idle]
  · simp [unready]
  · simp [idle]

theorem Prepared.loops_of_unstarted (prepared : world.Prepared engine)
    (unstarted : world.started = false) : world.loops = [] := by
  by_contra loops
  rw [prepared.loopStarted loops] at unstarted
  cases unstarted

theorem Prepared.after (prepared : world.Prepared engine) (happening : Happening) :
    (world.after engine happening).Prepared engine := by
  have stays {key : String} (probed : Probed key world.statuses) :
      Probed key (world.after engine happening).statuses := probed_after probed happening
  have steps : Steps engine world (world.after engine happening) := Steps.refl.through [happening]
  have known : ∀ backend ∈ engine.table.backends,
      backend.key ∈ (world.after engine happening).statuses.keys := by
    intro backend member
    exact steps.keys ▸ prepared.known backend member
  have turn := turn_after prepared.known happening
  generalize world.after engine happening = next at *
  cases turn with
  | aside same =>
      refine ⟨known, ?_, ?_, ?_, ?_, ?_⟩
      · rw [same.ready, same.started]
        exact prepared.started
      · rw [same.loops, same.started]
        exact prepared.loopStarted
      · rw [same.loops]
        exact prepared.alone
      · intro ready backend member probeable
        exact stays (prepared.probed (same.ready ▸ ready) backend member probeable)
      · rw [same.loops]
        intro task member backend configured probeable
        exact (prepared.awaited task member backend configured probeable).imp_left stays
  | startsReady _ unstarted nothing started ready loops =>
      rw [prepared.loops_of_unstarted unstarted] at loops
      refine ⟨known, fun _ => started, fun _ => started, ?_, ?_, ?_⟩
      · simp [loops]
      · simp [nothing]
      · simp [loops]
  | startsLoop _ unstarted started ready loops =>
      rw [prepared.loops_of_unstarted unstarted, List.nil_append] at loops
      have unready : next.ready ≠ true := by
        intro isReady
        rw [prepared.started (ready ▸ isReady)] at unstarted
        cases unstarted
      refine ⟨known, fun _ => started, fun _ => started, ?_, fun isReady => absurd isReady unready,
        ?_⟩
      · simp [loops]
      · intro task member backend _ _
        rw [loops, List.mem_singleton] at member
        rw [member]
        exact .inr trivial
  | @goesOn index task successor found isLoop started loops hands ready =>
      have member := mem_loops found isLoop
      have isStarted : next.started = true :=
        started.trans (prepared.loopStarted (List.ne_nil_of_mem member))
      rw [loops_without found isLoop prepared.alone, List.nil_append] at loops
      -- What this task awaited is probed by now or awaited by its successor.
      have handed {backend : Backend} (configured : backend ∈ engine.table.backends)
          (probeable : backend.IsProbeable) {successor : Option Task}
          (hands : task.HandsOn engine next successor) :
          Probed backend.key next.statuses ∨
            ∃ other, successor = some other ∧ other.Awaits backend := by
        rcases prepared.awaited task member backend configured probeable with probed | awaits
        · exact .inl (stays probed)
        · exact hands backend configured probeable awaits
      refine ⟨known, fun _ => isStarted, fun _ => isStarted, ?_, ?_, ?_⟩
      · rw [loops]
        exact Option.length_toList_le
      · intro isReady backend configured probeable
        rcases ready with same | ⟨-, complete⟩
        · exact stays (prepared.probed (same ▸ isReady) backend configured probeable)
        · rcases handed configured probeable complete with probed | ⟨other, isNone, -⟩
          · exact probed
          · cases isNone
      · intro other isNext backend configured probeable
        rw [loops, Option.mem_toList] at isNext
        rcases handed configured probeable hands with probed | ⟨awaiting, same, awaits⟩
        · exact .inl probed
        · rw [isNext] at same
          cases same
          exact .inr awaits

theorem Prepared.through (prepared : world.Prepared engine) (happenings : List Happening) :
    (world.through engine happenings).Prepared engine := by
  induction happenings generalizing world with
  | nil => exact prepared
  | cons happening rest inductionHypothesis => exact inductionHypothesis (prepared.after happening)

/-! ## The way to the closed gate -/

/-- The first start begins the loop, or closes the gate of a gateway without backends. -/
theorem Prepared.begins (prepared : world.Prepared engine) (unstarted : world.started = false) :
    (engine.table.backends ≠ [] → (world.move engine .start).loops = [.loopStart]) ∧
      (engine.table.backends = [] → (world.move engine .start).ready = true) := by
  have none := prepared.loops_of_unstarted unstarted
  constructor
  · intro some
    have listed : engine.table.backends.isEmpty = false := List.isEmpty_eq_false_iff.mpr some
    simp only [move, start, unstarted, listed, Bool.false_eq_true, if_false]
    rw [loops_push _ rfl]
    exact congrArg (· ++ [Task.loopStart]) none
  · intro nothing
    simp [move, start, unstarted, nothing, log]

/-- The loop goes on with a round whose probes are all settled within their time. -/
theorem Prepared.probes (prepared : world.Prepared engine) {index : Nat}
    (found : world.tasks[index]? = some .loopStart) :
    ∃ checks, (world.move engine (.run index)).loops = [.round .initial checks] ∧
      ∀ check ∈ checks, check.due ≤ world.now + Health.probeTimeout := by
  have ready : world.isReady .loopStart = true := by simp [isReady, wakeOf]
  have gone := loops_without found rfl prepared.alone
  have same := ((world.without index).aside_launchAll engine.table.backends).loops
  refine ⟨(launchAll engine.table.backends (world.without index)).2, ?_,
    within_launchAll _ (world.without index)⟩
  simp only [move, runTask, found, ready, if_true, resume, startRound]
  rw [loops_push _ rfl]
  exact congrArg (· ++ _) (same.trans gone)

/-- A first round that has nothing left to wait for closes the gate. -/
theorem ready_of_settled {index : Nat} {checks : List Health.Check}
    (found : world.tasks[index]? = some (.round .initial checks))
    (settled : ∀ check ∈ checks, check.due ≤ world.now) :
    (world.move engine (.run index)).ready = true := by
  have ready : world.isReady (.round .initial checks) = true := by
    refine decide_eq_true (earliest_le (Int.le_refl _) fun instant member => ?_)
    obtain ⟨check, known, rfl⟩ := List.mem_map.mp member
    exact settled check known
  have nothing : (checks.filter fun check => !(check.due ≤ world.now)) = [] := by
    rw [List.filter_eq_nil_iff]
    intro check member
    simp [settled check member]
  simp only [move, runTask, found, ready, if_true, resume, resumeRound, nothing]
  rfl

/-! ## Executions -/

theorem Prepared.ready_after (prepared : world.Prepared engine) (ready : world.ready = true)
    (happening : Happening) : (world.after engine happening).ready = true := by
  cases turn_after prepared.known happening with
  | aside same => exact same.ready.trans ready
  | startsReady _ _ _ _ isReady _ => exact isReady
  | startsLoop _ _ _ same _ => exact same.trans ready
  | goesOn _ _ _ _ _ change =>
      rcases change with same | ⟨isReady, -⟩
      · exact same.trans ready
      · exact isReady

/-- A closed gate stays closed. -/
theorem Prepared.ready_through (prepared : world.Prepared engine) (ready : world.ready = true)
    (happenings : List Happening) : (world.through engine happenings).ready = true := by
  induction happenings generalizing world with
  | nil => exact ready
  | cons happening rest inductionHypothesis =>
      exact inductionHypothesis (prepared.after happening) (prepared.ready_after ready happening)

theorem Prepared.started_after_iff (prepared : world.Prepared engine) (happening : Happening) :
    (world.after engine happening).started = true ↔
      world.started = true ∨ happening = .move .start := by
  constructor
  · intro started
    cases turn_after prepared.known happening with
    | aside same => exact .inl (same.started ▸ started)
    | startsReady isStart => exact .inr isStart
    | startsLoop isStart => exact .inr isStart
    | goesOn _ _ same => exact .inl (same ▸ started)
  · rintro (already | rfl)
    · cases turn_after prepared.known happening with
      | aside same => exact same.started.trans already
      | startsReady _ _ _ started => exact started
      | startsLoop _ _ started => exact started
      | goesOn _ _ same => exact same.trans already
    · exact started_start ..

/-- A gateway counts as started from the first start on. -/
theorem Prepared.started_through_iff (prepared : world.Prepared engine)
    (happenings : List Happening) :
    (world.through engine happenings).started = true ↔
      world.started = true ∨ .move .start ∈ happenings := by
  induction happenings generalizing world with
  | nil => simp [World.through]
  | cons happening rest inductionHypothesis =>
      refine (inductionHypothesis (prepared.after happening)).trans ?_
      rw [prepared.started_after_iff, or_assoc, List.mem_cons, @eq_comm _ happening]

/-- A health loop that is over does not come back. -/
theorem Prepared.loops_through (prepared : world.Prepared engine) (started : world.started = true)
    (gone : world.loops = []) (happenings : List Happening) :
    (world.through engine happenings).loops = [] := by
  induction happenings generalizing world with
  | nil => exact gone
  | cons happening rest inductionHypothesis =>
      refine inductionHypothesis (prepared.after happening)
        ((prepared.started_after_iff happening).mpr (.inl started)) ?_
      cases turn_after prepared.known happening with
      | aside same => exact same.loops.trans gone
      | startsReady _ unstarted => exact absurd (started.symm.trans unstarted) nofun
      | startsLoop _ unstarted => exact absurd (started.symm.trans unstarted) nofun
      | goesOn found isLoop =>
          have member := mem_loops found isLoop
          rw [gone] at member
          cases member

end World

/-- Who waits until the gateway is ready is told so by a look at a closed gate. -/
theorem ready_of_waitUntilReady {looks : List Look} {look : Look}
    (ended : waitUntilReady looks = some (look, .ok ())) :
    look ∈ looks ∧ look.world.ready = true := by
  induction looks with
  | nil => cases ended
  | cons first rest inductionHypothesis =>
      simp only [waitUntilReady] at ended
      split at ended
      · next result decided =>
          cases ended
          refine ⟨List.mem_cons_self, ?_⟩
          by_contra isOpen
          simp [Look.end?, Look.gate?, Look.cancellation?, isOpen] at decided
      · obtain ⟨later, ready⟩ := inductionHypothesis ended
        exact ⟨List.mem_cons_of_mem _ later, ready⟩

/-- Who is not cancelled has waited enough when the gate is closed. -/
theorem exists_waitUntilReady {looks : List Look}
    (uncancelled : ∀ look ∈ looks, look.cancelled = false)
    (closed : ∃ look ∈ looks, look.world.ready = true) :
    ∃ look, waitUntilReady looks = some (look, .ok ()) := by
  induction looks with
  | nil => simp at closed
  | cons first rest inductionHypothesis =>
      obtain ⟨goesOn, others⟩ := List.forall_mem_cons.mp uncancelled
      cases ready : first.world.ready with
      | true =>
          have ends : first.end? = some (.ok ()) := by
            simp [Look.end?, Look.gate?, Look.cancellation?, ready, goesOn]
          exact ⟨first, by simp only [waitUntilReady, ends]⟩
      | false =>
          have waits : first.end? = none := by
            simp [Look.end?, Look.gate?, Look.cancellation?, ready, goesOn]
          simp only [List.exists_mem_cons_iff, ready, Bool.false_eq_true, false_or] at closed
          obtain ⟨look, told⟩ := inductionHypothesis others closed
          exact ⟨look, by simp only [waitUntilReady, waits, told]⟩

/-- What the ready gate of a gateway stands for after some happenings. -/
structure GatesReadiness (engine : Engine) (first : World) (happenings : List Happening) :
    Prop where
  /-- The gate never opens again. -/
  stays : ∀ before, before <+: happenings → (first.through engine before).ready = true →
    (first.through engine happenings).ready = true
  /-- Without a start the gate is open. -/
  started : (first.through engine happenings).ready = true → .move .start ∈ happenings
  /-- Behind a closed gate every backend that can be probed has been. -/
  probed : (first.through engine happenings).ready = true →
    ∀ backend ∈ engine.table.backends, backend.IsProbeable →
      Probed backend.key (first.through engine happenings).statuses
  /-- Another start has no effect. -/
  startsOnce : .move .start ∈ happenings →
    (first.through engine happenings).move engine .start = first.through engine happenings
  /-- The first start begins the health loop, or closes the gate if there is nothing to probe. -/
  begins : .move .start ∉ happenings →
    (engine.table.backends ≠ [] →
      ((first.through engine happenings).move engine .start).loops = [.loopStart]) ∧
    (engine.table.backends = [] →
      ((first.through engine happenings).move engine .start).ready = true)
  /-- The loop goes on with a round of probes, all of which are settled within their time. -/
  probes : ∀ index, (first.through engine happenings).tasks[index]? = some .loopStart →
    ∃ checks, ((first.through engine happenings).move engine (.run index)).loops =
        [.round .initial checks] ∧
      ∀ check ∈ checks,
        check.due ≤ (first.through engine happenings).now + Health.probeTimeout
  /-- The gate closes when this round goes on with nothing left to wait for. -/
  closes : ∀ index checks,
    (first.through engine happenings).tasks[index]? = some (.round .initial checks) →
    (∀ check ∈ checks, check.due ≤ (first.through engine happenings).now) →
    ((first.through engine happenings).move engine (.run index)).ready = true
  /-- Before a start there is no health loop, and never more than one. -/
  unstarted : .move .start ∉ happenings → (first.through engine happenings).loops = []
  alone : (first.through engine happenings).loops.length ≤ 1
  /-- A loop that has ended is not followed by another one. -/
  gone : ∀ before, before <+: happenings → .move .start ∈ before →
    (first.through engine before).loops = [] → (first.through engine happenings).loops = []
  /-- Who waited, looking at any times, was told only behind the closed gate. -/
  waited : ∀ looks look, (∀ look ∈ looks, ∃ before, before <+: happenings ∧
      look.world = first.through engine before) →
    waitUntilReady looks = some (look, .ok ()) →
      look.world.ready = true ∧ (first.through engine happenings).ready = true
  /-- Who looks at a closed gate and is not cancelled need not wait any longer. -/
  told : (first.through engine happenings).ready = true → ∀ looks,
    (∀ look ∈ looks, look.cancelled = false) →
    (∃ look ∈ looks, look.world = first.through engine happenings) →
      ∃ look, waitUntilReady looks = some (look, .ok ())

/-- In every execution of every gateway the gate closes once, after a start, and behind it
everything has been probed; there is one health loop at most, which closes the gate. -/
theorem gates_readiness (engine : Engine) (network : Network) (start : Instant)
    (happenings : List Happening) :
    GatesReadiness engine (.initial engine network start) happenings := by
  have initial := World.prepared_initial engine network start
  have prepared := initial.through happenings
  have started_iff (happenings : List Happening) :
      ((World.initial engine network start).through engine happenings).started = true ↔
        .move .start ∈ happenings := by
    rw [initial.started_through_iff, or_iff_right]
    exact Bool.false_ne_true
  have stays (before : List Happening) (isPrefix : before <+: happenings)
      (ready : ((World.initial engine network start).through engine before).ready = true) :
      ((World.initial engine network start).through engine happenings).ready = true := by
    obtain ⟨rest, rfl⟩ := isPrefix
    rw [World.through_append]
    exact (initial.through before).ready_through ready rest
  refine ⟨stays, ?_, prepared.probed, ?_, ?_, ?_, ?_, ?_, prepared.alone, ?_, ?_, ?_⟩
  · exact fun ready => (started_iff happenings).mp (prepared.started ready)
  · intro starts
    simp [World.move, World.start, (started_iff happenings).mpr starts]
  · intro none
    exact prepared.begins
      (Bool.eq_false_iff.mpr fun started => none ((started_iff happenings).mp started))
  · exact fun index found => prepared.probes found
  · exact fun index checks found settled => World.ready_of_settled found settled
  · intro none
    exact prepared.loops_of_unstarted
      (Bool.eq_false_iff.mpr fun started => none ((started_iff happenings).mp started))
  · rintro before ⟨rest, rfl⟩ starts gone
    rw [World.through_append]
    exact (initial.through before).loops_through ((started_iff before).mpr starts) gone rest
  · intro looks look seen ended
    obtain ⟨member, ready⟩ := ready_of_waitUntilReady ended
    obtain ⟨before, isPrefix, same⟩ := seen look member
    exact ⟨ready, stays before isPrefix (same ▸ ready)⟩
  · rintro ready looks uncancelled ⟨look, member, same⟩
    exact exists_waitUntilReady uncancelled ⟨look, member, same ▸ ready⟩

/-- A backend that nobody can reach has been probed after the first round as well. -/
theorem ready_after_first_round : ((World.initial (ofRoute rootRoute) .empty 0).through
    (ofRoute rootRoute) [.move .start, .move (.run 0), .move (.run 0)]).ready = true := by
  decide +kernel

end ApiGateway.Engine
