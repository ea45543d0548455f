import ApiGateway.Proofs.Engine.Following
import ApiGateway.Proofs.Engine.HealthRound
import ApiGateway.Proofs.Routing.Backends

/-!
# The timetable of the health loop

The rounds of the loop follow one another. The end of the first one sets the beat: a round
is due one interval after another, whatever the rounds take, and one that is due while
the round before it is under way begins as soon as that is over. `World.Stands` ties the
task of the loop to the rounds so far, every step keeps it (`KeepsTime.after`), and
`keepsSchedule_of_punctual` reads the timetable of an execution off it.
-/

namespace ApiGateway.Engine

/-! ## Rounds as they are seen -/

/-- A round of the health loop under way. -/
def Task.isRound : Task → Bool
  | round .initial _ => true
  | round (.periodic _) _ => true
  | _ => false

/-- A round of the health loop is under way. -/
def World.isProbing (world : World) : Bool := world.loops.any Task.isRound

namespace World

/-- The instant of a step at which a round of the loop begins. -/
def begun? (world next : World) : Option Instant :=
  if !world.isProbing && next.isProbing then some world.now else none

/-- The instant of a step at which a round of the loop is over. -/
def ended? (world next : World) : Option Instant :=
  if world.isProbing && !next.isProbing then some world.now else none

variable {world next : World}

theorem isProbing_of_alone {task : Task} (alone : world.loops = [task]) :
    world.isProbing = task.isRound := by
  simp [isProbing, alone]

theorem isProbing_of_none (idle : world.loops = []) : world.isProbing = false := by
  simp [isProbing, idle]

theorem rounds_of_same (same : next.isProbing = world.isProbing) :
    world.begun? next = none ∧ world.ended? next = none := by
  simp [begun?, ended?, same]

theorem rounds_of_begin (before : world.isProbing = false) (after : next.isProbing = true) :
    world.begun? next = some world.now ∧ world.ended? next = none := by
  simp [begun?, ended?, before, after]

theorem rounds_of_end (before : world.isProbing = true) (after : next.isProbing = false) :
    world.begun? next = none ∧ world.ended? next = some world.now := by
  simp [begun?, ended?, before, after]

end World

namespace Moment

/-- The world that a moment leads to. -/
def next (engine : Engine) (moment : Moment) : World :=
  moment.world.after engine moment.happening

/-- The instant of a moment at which the gateway is started. -/
def start? (moment : Moment) : Option Instant :=
  match moment.happening with
  | .move .start => some moment.world.now
  | _ => none

theorem start?_eq_none {moment : Moment} (other : moment.happening ≠ .move .start) :
    moment.start? = none := by
  obtain ⟨world, happening⟩ := moment
  cases happening with
  | move move =>
      cases move with
      | start => exact absurd rfl other
      | _ => rfl
  | _ => rfl

end Moment

namespace World

/-- When the rounds of the health loop begin. -/
def roundStarts (engine : Engine) (world : World) (happenings : List Happening) : List Instant :=
  (world.moments engine happenings).filterMap fun moment => moment.world.begun? (moment.next engine)

/-- When the rounds of the health loop are over. -/
def roundEnds (engine : Engine) (world : World) (happenings : List Happening) : List Instant :=
  (world.moments engine happenings).filterMap fun moment => moment.world.ended? (moment.next engine)

/-- When the gateway is started first. -/
def startedAt? (engine : Engine) (world : World) (happenings : List Happening) : Option Instant :=
  (world.moments engine happenings).findSome? Moment.start?

variable (engine : Engine) (world : World) (before : List Happening) (happening : Happening)

theorem roundStarts_append (rest : List Happening) :
    world.roundStarts engine (before ++ rest) =
      world.roundStarts engine before ++ (world.through engine before).roundStarts engine rest := by
  simp only [roundStarts, moments_append, List.filterMap_append]

theorem roundStarts_cons (rest : List Happening) : world.roundStarts engine (happening :: rest) =
    (world.begun? (world.after engine happening)).toList ++
      (world.after engine happening).roundStarts engine rest := by
  have first : world.roundStarts engine [happening] =
      (world.begun? (world.after engine happening)).toList := rfl
  rw [← first]
  exact roundStarts_append engine world [happening] rest

theorem roundStarts_concat : world.roundStarts engine (before ++ [happening]) =
    world.roundStarts engine before ++ ((world.through engine before).begun?
      ((world.through engine before).after engine happening)).toList := by
  rw [roundStarts_append, roundStarts_cons]
  congr 1
  exact List.append_nil _

theorem roundEnds_concat : world.roundEnds engine (before ++ [happening]) =
    world.roundEnds engine before ++ ((world.through engine before).ended?
      ((world.through engine before).after engine happening)).toList := by
  simp only [roundEnds, moments_concat, List.filterMap_append]
  congr 1

theorem startedAt?_concat : world.startedAt? engine (before ++ [happening]) =
    (world.startedAt? engine before).or
      (Moment.start? ⟨world.through engine before, happening⟩) := by
  simp only [startedAt?, moments_concat, List.findSome?_append, List.findSome?_singleton]

end World

/-! ## Timetables -/

theorem getElem?_concat_eq_some_iff {α : Type} {items : List α} {last item : α} {position : Nat} :
    (items ++ [last])[position]? = some item ↔
      items[position]? = some item ∨ position = items.length ∧ last = item := by
  rcases Nat.lt_trichotomy position items.length with inside | rfl | outside
  · rw [List.getElem?_append_left inside]
    exact ⟨.inl, fun found => found.resolve_right fun atEnd => Nat.ne_of_lt inside atEnd.1⟩
  · simp
  · rw [List.getElem?_eq_none (by simpa using outside),
      List.getElem?_eq_none (Nat.le_of_lt outside)]
    simp [Nat.ne_of_gt outside]

/-- When rounds begin and when they are over: the first begins with the start, each later one when
it is due or when the one before it is over, and none takes longer than a probe may take. -/
structure Timetable (interval : Duration) (opened : Option Instant) (starts ends : List Instant) :
    Prop where
  opening : ∀ {begun : Instant}, starts[0]? = some begun → opened = some begun
  paced : ∀ {round : Nat} {first last begun : Instant}, ends[0]? = some first →
    ends[round]? = some last → starts[round + 1]? = some begun →
      begun = max (first + ((round + 1) * interval : Nat)) last
  brief : ∀ {round : Nat} {begun ended : Instant}, starts[round]? = some begun →
    ends[round]? = some ended → begun ≤ ended ∧ ended ≤ begun + Health.probeTimeout

namespace Timetable

variable {interval : Duration} {opened : Option Instant} {starts ends : List Instant}

theorem nil : Timetable interval opened [] [] := ⟨nofun, nofun, nofun⟩

theorem or (table : Timetable interval opened starts ends) (other : Option Instant) :
    Timetable interval (opened.or other) starts ends where
  opening atFirst := by rw [table.opening atFirst, Option.some_or]
  paced := table.paced
  brief := table.brief

/-- The first round begins with the start. -/
theorem opens {begun : Instant} (atStart : opened = some begun) :
    Timetable interval opened [begun] [] where
  opening atFirst := by
    cases atFirst
    exact atStart
  paced := nofun
  brief := nofun

/-- A later round begins after the one before it is over. -/
theorem begins (table : Timetable interval opened starts ends)
    (count : starts.length = ends.length) {first last begun : Instant}
    (isFirst : ends.head? = some first) (isLast : ends.getLast? = some last)
    (due : begun = max (first + (ends.length * interval : Nat)) last) :
    Timetable interval opened (starts ++ [begun]) ends where
  opening := by
    intro instant atFirst
    rcases getElem?_concat_eq_some_iff.mp atFirst with earlier | ⟨atEnd, -⟩
    · exact table.opening earlier
    · rw [← atEnd, eq_comm, List.length_eq_zero_iff] at count
      rw [count] at isFirst
      cases isFirst
  paced := by
    intro round first' last' instant isFirst' isLast' begins
    rcases getElem?_concat_eq_some_iff.mp begins with earlier | ⟨atEnd, rfl⟩
    · exact table.paced isFirst' isLast' earlier
    · rw [List.getLast?_eq_getElem?, show ends.length - 1 = round by omega, isLast'] at isLast
      rw [List.head?_eq_getElem?, isFirst'] at isFirst
      cases isFirst
      cases isLast
      rw [due, ← count, ← atEnd]
  brief := by
    intro round instant ended begins ends'
    rcases getElem?_concat_eq_some_iff.mp begins with earlier | ⟨atEnd, -⟩
    · exact table.brief earlier ends'
    · rw [atEnd, count, List.getElem?_eq_none (Nat.le_refl _)] at ends'
      cases ends'

/-- A round that is under way is over in time. -/
theorem finishes (table : Timetable interval opened starts ends)
    (count : starts.length = ends.length + 1) {begun ended : Instant}
    (isLatest : starts.getLast? = some begun) (since : begun ≤ ended)
    (inTime : ended ≤ begun + Health.probeTimeout) :
    Timetable interval opened starts (ends ++ [ended]) where
  opening := table.opening
  paced := by
    intro round first last instant isFirst isLast begins
    have inRange := (List.getElem?_eq_some_iff.mp begins).1
    have roundBefore : round < ends.length := by omega
    rw [List.getElem?_append_left (by omega)] at isFirst
    rw [List.getElem?_append_left roundBefore] at isLast
    exact table.paced isFirst isLast begins
  brief := by
    intro round instant instant' begins ends'
    rcases getElem?_concat_eq_some_iff.mp ends' with earlier | ⟨rfl, rfl⟩
    · exact table.brief begins earlier
    · rw [List.getLast?_eq_getElem?, show starts.length - 1 = ends.length by omega, begins]
        at isLatest
      cases isLatest
      exact ⟨since, inTime⟩

end Timetable

/-! ## Where the loop stands -/

/-- A round is the one that is due after the rounds so far. -/
def RoundPurpose.Aims (interval : Duration) (ends : List Instant) : RoundPurpose → Prop
  | initial => ends = []
  | periodic next => ∃ first, ends.head? = some first ∧
      next = first + ((ends.length + 1) * interval : Nat)
  | requested _ => False

theorem RoundPurpose.Aims.isLoop {interval : Duration} {ends : List Instant}
    {purpose : RoundPurpose} (aims : purpose.Aims interval ends) (checks : List Health.Check) :
    (Task.round purpose checks).isLoop = true ∧ (Task.round purpose checks).isRound = true := by
  cases purpose with
  | requested ticket => exact aims.elim
  | _ => exact ⟨rfl, rfl⟩

/-- After a round the loop waits for the one that is due next. -/
theorem RoundPurpose.Aims.successor {engine : Engine} {ends : List Instant}
    {purpose : RoundPurpose} (aims : purpose.Aims (World.interval engine) ends) (now : Instant) :
    ∃ next first, purpose.successor? engine now = some (.loopWaiting next) ∧
      (ends ++ [now]).head? = some first ∧
      next = first + ((ends ++ [now]).length * World.interval engine : Nat) := by
  cases purpose with
  | initial =>
      obtain rfl : ends = [] := aims
      exact ⟨_, now, rfl, rfl, by simp⟩
  | periodic next =>
      obtain ⟨first, isFirst, due⟩ := aims
      exact ⟨next, first, rfl, by simp [List.head?_append, isFirst], by simpa using due⟩
  | requested ticket => exact aims.elim

namespace World

/-- The task of the health loop stands where the rounds so far have led it, and the clock has not
passed it over. -/
inductive Stands (interval : Duration) (world : World) (opened : Option Instant)
    (starts ends : List Instant) : Prop where
  | unstarted (idle : world.loops = []) (fresh : world.started = false)
      (noStarts : starts = []) (noEnds : ends = [])
  | starting (alone : world.loops = [.loopStart]) (started : world.started = true)
      (now : opened = some world.now) (noStarts : starts = []) (noEnds : ends = [])
  | probing {purpose : RoundPurpose} {checks : List Health.Check} {begun : Instant}
      (alone : world.loops = [.round purpose checks]) (started : world.started = true)
      (count : starts.length = ends.length + 1) (aims : purpose.Aims interval ends)
      (isLatest : starts.getLast? = some begun) (since : begun ≤ world.now)
      (inTime : world.now ≤ begun + Health.probeTimeout)
      (due : ∀ check ∈ checks, check.due ≤ begun + Health.probeTimeout)
  | resting {next first last : Instant} (alone : world.loops = [.loopWaiting next])
      (started : world.started = true) (count : starts.length = ends.length)
      (isFirst : ends.head? = some first) (isLast : ends.getLast? = some last)
      (aims : next = first + (ends.length * interval : Nat)) (since : last ≤ world.now)
      (inTime : world.now ≤ max next last)
  | stopped (idle : world.loops = []) (started : world.started = true)
      (count : starts.length = ends.length) (nonempty : ends ≠ [])
      (shutdown : world.shutdown = true)

/-- The rounds so far keep the timetable, and the loop stands where they lead it. -/
structure KeepsTime (engine : Engine) (world : World) (opened : Option Instant)
    (starts ends : List Instant) : Prop where
  table : Timetable (interval engine) opened starts ends
  stands : world.Stands (interval engine) opened starts ends
  opened : opened.isSome = world.started

variable {engine : Engine} {world next : World} {happening : Happening} {opened : Option Instant}
  {starts ends : List Instant}

/-- Where nobody is passed over the clock stands still or goes on to a wake at most. -/
theorem now_after_le_wakeOf (engine : Engine) (punctual : Punctual [happening]) {task : Task}
    (waits : task ∈ world.tasks) : (world.after engine happening).now = world.now ∨
      (world.after engine happening).now ≤ world.wakeOf task := by
  cases happening with
  | move move => exact now_move_le_wakeOf engine waits move
  | delay instant => exact absurd List.mem_cons_self (punctual instant)
  | report key finding => exact .inl rfl

theorem mem_tasks_of_loops {task : Task} (alone : world.loops = [task]) : task ∈ world.tasks :=
  (List.mem_filter.mp (alone ▸ List.mem_cons_self : task ∈ world.loops)).1

theorem Stands.or {interval : Duration} (stands : world.Stands interval opened starts ends)
    (other : Option Instant) : world.Stands interval (opened.or other) starts ends := by
  cases stands with
  | unstarted idle fresh noStarts noEnds => exact .unstarted idle fresh noStarts noEnds
  | starting alone started now noStarts noEnds =>
      exact .starting alone started (by rw [now, Option.some_or]) noStarts noEnds
  | probing alone started count aims isLatest since inTime due =>
      exact .probing alone started count aims isLatest since inTime due
  | resting alone started count isFirst isLast aims since inTime =>
      exact .resting alone started count isFirst isLast aims since inTime
  | stopped idle started count nonempty shutdown =>
      exact .stopped idle started count nonempty shutdown

/-- The loop stands where it stood while others go on and time passes. -/
theorem Stands.aside {interval : Duration} (stands : world.Stands interval opened starts ends)
    (loops : next.loops = world.loops) (started : next.started = world.started)
    (shutdown : world.shutdown = true → next.shutdown = true) (later : world.now ≤ next.now)
    (reach : ∀ task ∈ world.tasks, next.now = world.now ∨ next.now ≤ world.wakeOf task) :
    next.Stands interval opened starts ends := by
  cases stands with
  | unstarted idle fresh noStarts noEnds =>
      exact .unstarted (loops.trans idle) (started.trans fresh) noStarts noEnds
  | starting alone isStarted now noStarts noEnds =>
      have still : next.now = world.now := by
        rcases reach _ (mem_tasks_of_loops alone) with same | upTo
        · exact same
        · exact Int.le_antisymm upTo later
      exact .starting (loops.trans alone) (started.trans isStarted) (still ▸ now) noStarts noEnds
  | probing alone isStarted count aims isLatest since inTime due =>
      refine .probing (loops.trans alone) (started.trans isStarted) count aims isLatest
        (Int.le_trans since later) ?_ due
      rcases reach _ (mem_tasks_of_loops alone) with same | upTo
      · rw [same]
        exact inTime
      · refine Int.le_trans upTo (earliest_le inTime fun instant member => ?_)
        obtain ⟨check, isCheck, rfl⟩ := List.mem_map.mp member
        exact due check isCheck
  | @resting wake first last alone isStarted count isFirst isLast aims since inTime =>
      refine .resting (loops.trans alone) (started.trans isStarted) count isFirst isLast aims
        (Int.le_trans since later) ?_
      rcases reach _ (mem_tasks_of_loops alone) with same | upTo
      · rw [same]
        exact inTime
      · refine Int.le_trans upTo ?_
        simp only [wakeOf]
        split
        · exact inTime
        · exact Int.le_max_left ..
  | stopped idle isStarted count nonempty isDown =>
      exact .stopped (loops.trans idle) (started.trans isStarted) count nonempty (shutdown isDown)

/-- A task of the loop goes on: a round begins, goes on or is over, or the loop stops. -/
theorem KeepsTime.goesOn {index : Nat} {task : Task}
    (keeps : world.KeepsTime engine opened starts ends)
    (found : world.tasks[index]? = some task) (isLoop : task.isLoop = true)
    (ready : world.isReady task = true) (goesOn : (world.without index).resume engine task = next) :
    next.KeepsTime engine opened (starts ++ (world.begun? next).toList)
      (ends ++ (world.ended? next).toList) := by
  have member := mem_loops found isLoop
  have now : next.now = world.now := goesOn ▸ now_resume ..
  obtain ⟨sameStarted, sameToken⟩ : next.started = world.started ∧
      next.shutdown = world.shutdown :=
    goesOn ▸ started_resume engine (world.without index) isLoop
  have opens := keeps.opened.trans sameStarted.symm
  have within := within_launchAll engine.table.backends (world.without index)
  have fresh : next.now ≤ world.now + Health.probeTimeout := by
    rw [now]
    exact Int.le_add_of_nonneg_right (Int.natCast_nonneg _)
  have leaves (alone : world.loops = [task]) :
      next.loops = (task.successor? engine (world.without index)).toList := by
    rw [← goesOn, loops_resume _ _ isLoop, loops_without found isLoop (by simp [alone]),
      List.nil_append]
  cases keeps.stands with
  | unstarted idle => cases idle ▸ member
  | stopped idle => cases idle ▸ member
  | starting alone started atStart noStarts noEnds =>
      obtain rfl : task = .loopStart := List.mem_singleton.mp (alone ▸ member)
      obtain ⟨begun, ended⟩ : world.begun? next = some world.now ∧ world.ended? next = none :=
        rounds_of_begin (isProbing_of_alone alone) (isProbing_of_alone (leaves alone))
      rw [begun, ended, noStarts, noEnds]
      exact ⟨.opens atStart, .probing (leaves alone) (sameStarted.trans started) rfl rfl rfl
        (Int.le_of_eq now.symm) fresh within, opens⟩
  | @probing purpose checks begun alone started count aims isLatest since inTime due =>
      obtain rfl : task = .round purpose checks := List.mem_singleton.mp (alone ▸ member)
      have isRound : world.isProbing = true :=
        (isProbing_of_alone alone).trans (aims.isLoop checks).2
      have left := leaves alone
      rw [Task.successor?] at left
      by_cases allDue : ((world.without index).pending checks).isEmpty = true
      · obtain ⟨wake, first, isNext, isFirst, dueNext⟩ := aims.successor world.now
        rw [if_pos allDue, show (world.without index).now = world.now from rfl, isNext] at left
        obtain ⟨begins, ended⟩ : world.begun? next = none ∧ world.ended? next = some world.now :=
          rounds_of_end isRound (isProbing_of_alone left)
        rw [begins, ended, Option.toList_none, List.append_nil]
        refine ⟨keeps.table.finishes count isLatest since inTime, ?_, opens⟩
        exact .resting left (sameStarted.trans started) (by simp [count]) isFirst
          (by simp) dueNext (Int.le_of_eq now.symm) (now ▸ Int.le_max_right ..)
      · rw [if_neg allDue] at left
        obtain ⟨begins, ended⟩ : world.begun? next = none ∧ world.ended? next = none :=
          rounds_of_same ((isProbing_of_alone left).trans ((aims.isLoop _).2.trans isRound.symm))
        rw [begins, ended, Option.toList_none, List.append_nil, List.append_nil]
        refine ⟨keeps.table, ?_, opens⟩
        exact .probing left (sameStarted.trans started) count aims isLatest (now ▸ since)
          (now ▸ inTime) fun check pending => due check (List.mem_filter.mp pending).1
  | @resting wake first last alone started count isFirst isLast aims since inTime =>
      obtain rfl : task = .loopWaiting wake := List.mem_singleton.mp (alone ▸ member)
      have idle : world.isProbing = false := isProbing_of_alone alone
      have left := leaves alone
      rw [Task.successor?] at left
      cases down : world.shutdown with
      | true =>
          rw [show (world.without index).shutdown = true from down, if_pos rfl] at left
          obtain ⟨begins, ended⟩ : world.begun? next = none ∧ world.ended? next = none :=
            rounds_of_same ((isProbing_of_none left).trans idle.symm)
          rw [begins, ended, Option.toList_none, List.append_nil, List.append_nil]
          have nonempty : ends ≠ [] := by
            rintro rfl
            cases isFirst
          exact ⟨keeps.table, .stopped left (sameStarted.trans started) count nonempty
            (sameToken.trans down), opens⟩
      | false =>
          rw [show (world.without index).shutdown = false from down, if_neg Bool.false_ne_true]
            at left
          -- The clock is neither before the wake nor after the later of the wake and the last end.
          have notEarly : wake ≤ world.now := by
            simpa [isReady, wakeOf, down] using ready
          have atWake : world.now = max wake last :=
            Int.le_antisymm inTime (Int.max_le.mpr ⟨notEarly, since⟩)
          obtain ⟨begins, ended⟩ : world.begun? next = some world.now ∧
              world.ended? next = none := rounds_of_begin idle (isProbing_of_alone left)
          rw [begins, ended, Option.toList_none, List.append_nil]
          refine ⟨keeps.table.begins count isFirst isLast (aims ▸ atWake), ?_, opens⟩
          refine .probing left (sameStarted.trans started) (by simp [count])
            ⟨first, isFirst, ?_⟩ (by simp) (Int.le_of_eq now.symm) fresh within
          rw [aims, Int.add_assoc, ← Int.natCast_add, Nat.succ_mul]

theorem KeepsTime.or (keeps : world.KeepsTime engine opened starts ends) {other : Option Instant}
    (silent : world.started = false → other = none) :
    world.KeepsTime engine (opened.or other) starts ends := by
  refine ⟨keeps.table.or other, keeps.stands.or other, ?_⟩
  rw [← keeps.opened] at silent ⊢
  cases opened with
  | none => rw [silent rfl, Option.or_none]
  | some instant => rfl

/-- The first start starts the loop. -/
theorem KeepsTime.start (configured : engine.table.backends ≠ [])
    (keeps : world.KeepsTime engine opened starts ends) (fresh : world.started = false) :
    (world.start engine).KeepsTime engine (opened.or (some world.now))
      (starts ++ (world.begun? (world.start engine)).toList)
      (ends ++ (world.ended? (world.start engine)).toList) := by
  have nonempty : engine.table.backends.isEmpty = false := List.isEmpty_eq_false_iff.mpr configured
  have pushes : world.start engine = ({ world with started := true } : World).push .loopStart := by
    simp [World.start, fresh, nonempty]
  have unopened : opened = none := by
    cases opened with
    | none => rfl
    | some instant => cases keeps.opened.trans fresh
  cases keeps.stands with
  | unstarted idle _ noStarts noEnds =>
      have alone : (world.start engine).loops = [.loopStart] := by
        rw [pushes, loops_push _ rfl, List.append_left_eq_self]
        exact idle
      obtain ⟨begins, ended⟩ : world.begun? (world.start engine) = none ∧
          world.ended? (world.start engine) = none :=
        rounds_of_same ((isProbing_of_alone alone).trans (isProbing_of_none idle).symm)
      rw [begins, ended, Option.toList_none, List.append_nil, List.append_nil, unopened,
        Option.none_or]
      refine ⟨?_, .starting alone (started_start engine world) (by rw [now_start]) noStarts noEnds,
        (started_start engine world).symm⟩
      rw [noStarts, noEnds]
      exact .nil
  | starting _ started => cases started.symm.trans fresh
  | probing _ started => cases started.symm.trans fresh
  | resting _ started => cases started.symm.trans fresh
  | stopped _ started => cases started.symm.trans fresh

/-- Everything that happens keeps the timetable. -/
theorem KeepsTime.after (configured : engine.table.backends ≠ [])
    (punctual : Punctual [happening]) (keeps : world.KeepsTime engine opened starts ends) :
    (world.after engine happening).KeepsTime engine
      (opened.or (Moment.start? ⟨world, happening⟩))
      (starts ++ (world.begun? (world.after engine happening)).toList)
      (ends ++ (world.ended? (world.after engine happening)).toList) := by
  have turn : LoopTurn engine world happening (world.after engine happening) :=
    loopTurn_after happening
  have later := world.now_le_now_after engine happening
  have reach (task : Task) (waits : task ∈ world.tasks) :=
    now_after_le_wakeOf engine punctual waits
  have startsIt : happening = .move .start → (world.after engine happening).started = true := by
    rintro rfl
    exact started_start engine world
  generalize world.after engine happening = next at *
  cases turn with
  | aside same =>
      obtain ⟨begins, ended⟩ : world.begun? next = none ∧ world.ended? next = none :=
        rounds_of_same (congrArg (List.any · Task.isRound) same.loops)
      rw [begins, ended, Option.toList_none, List.append_nil, List.append_nil]
      have stands := keeps.stands.aside same.loops same.started
        (fun down => same.shutdown.trans down) later reach
      have still : next.KeepsTime engine opened _ _ :=
        ⟨keeps.table, stands, keeps.opened.trans same.started.symm⟩
      refine still.or fun fresh => Moment.start?_eq_none fun isStart => ?_
      rw [startsIt isStart] at fresh
      cases fresh
  | shutsDown =>
      let down : World := { world with shutdown := true }
      obtain ⟨begins, ended⟩ : world.begun? down = none ∧ world.ended? down = none :=
        rounds_of_same rfl
      rw [begins, ended, Option.toList_none, List.append_nil, List.append_nil]
      have still : down.KeepsTime engine opened starts ends :=
        ⟨keeps.table, keeps.stands.aside rfl rfl (fun _ => rfl) later reach, keeps.opened⟩
      exact still.or fun _ => rfl
  | starts fresh => exact keeps.start configured fresh
  | goesOn found isLoop ready => exact (keeps.goesOn found isLoop ready rfl).or fun _ => rfl

/-- The health loop keeps its timetable in every execution in which nobody is passed over. -/
theorem keepsTime_through (configured : engine.table.backends ≠ []) (network : Network)
    (start : Instant) {happenings : List Happening} (punctual : Punctual happenings) :
    ((World.initial engine network start).through engine happenings).KeepsTime engine
      ((World.initial engine network start).startedAt? engine happenings)
      ((World.initial engine network start).roundStarts engine happenings)
      ((World.initial engine network start).roundEnds engine happenings) := by
  induction happenings using List.reverseRecOn with
  | nil => exact ⟨.nil, .unstarted rfl rfl rfl rfl, rfl⟩
  | append_singleton before happening inductionHypothesis =>
      have keeps := inductionHypothesis fun instant member =>
        punctual instant (List.mem_append_left _ member)
      have last : Punctual [happening] := fun instant member =>
        punctual instant (List.mem_append_right _ member)
      rw [through_concat, roundStarts_concat, roundEnds_concat, startedAt?_concat]
      exact keeps.after configured last

/-! ## What a round does -/

/-- As many rounds are over as have begun, but for the one under way. -/
theorem Stands.count {interval : Duration} (stands : world.Stands interval opened starts ends) :
    starts.length = ends.length + (if world.isProbing then 1 else 0) := by
  cases stands with
  | unstarted idle _ noStarts noEnds => simp [isProbing_of_none idle, noStarts, noEnds]
  | starting alone _ _ noStarts noEnds =>
      simp [isProbing_of_alone alone, Task.isRound, noStarts, noEnds]
  | probing alone _ count aims => simp [isProbing_of_alone alone, (aims.isLoop _).2, count]
  | resting alone _ count => simp [isProbing_of_alone alone, Task.isRound, count]
  | stopped idle _ count => simp [isProbing_of_none idle, count]

/-- Soon after the start the first round has begun. -/
theorem KeepsTime.begun_of_started (keeps : world.KeepsTime engine opened starts ends)
    {instant : Instant} (isOpened : opened = some instant) (passed : instant < world.now) :
    starts ≠ [] := by
  cases keeps.stands with
  | unstarted _ fresh =>
      have opens := keeps.opened
      rw [isOpened, fresh] at opens
      cases opens
  | starting _ _ now =>
      rw [isOpened] at now
      cases now
      exact absurd passed (Int.lt_irrefl _)
  | probing _ _ count =>
      rintro rfl
      cases count
  | resting _ _ count isFirst =>
      rintro rfl
      obtain rfl := List.length_eq_zero_iff.mp count.symm
      cases isFirst
  | stopped _ _ count nonempty =>
      rintro rfl
      exact nonempty (List.length_eq_zero_iff.mp count.symm)

/-- While the loop is not stopped no round is missing. -/
theorem Stands.begun_of_due {interval : Duration}
    (stands : world.Stands interval opened starts ends) {round : Nat}
    {firstEnd lastEnd : Instant} (isFirst : ends[0]? = some firstEnd)
    (isLast : ends[round]? = some lastEnd) (running : world.shutdown = false)
    (passed : max (firstEnd + ((round + 1) * interval : Nat)) lastEnd < world.now) :
    round + 1 < starts.length := by
  have inRange := (List.getElem?_eq_some_iff.mp isLast).1
  by_contra missing
  cases stands with
  | unstarted _ _ _ noEnds => simp [noEnds] at inRange
  | starting _ _ _ _ noEnds => simp [noEnds] at inRange
  | probing _ _ count => omega
  | resting _ _ count isHead isTail aims _ inTime =>
      obtain rfl : round = ends.length - 1 := by omega
      rw [List.head?_eq_getElem?, isFirst] at isHead
      rw [List.getLast?_eq_getElem?, isLast] at isTail
      cases isHead
      cases isTail
      rw [aims, ← Nat.sub_add_cancel (Nat.one_le_of_lt inRange)] at inTime
      exact absurd passed (Int.not_lt.mpr inTime)
  | stopped _ _ _ _ shutdown => exact Bool.false_ne_true (running.symm.trans shutdown)

/-- Soon after it has begun a round is over. -/
theorem Stands.over_of_begun {interval : Duration}
    (stands : world.Stands interval opened starts ends) {round : Nat} {begun : Instant}
    (begins : starts[round]? = some begun) (passed : begun + Health.probeTimeout < world.now) :
    round < ends.length := by
  have inRange := (List.getElem?_eq_some_iff.mp begins).1
  by_contra missing
  cases stands with
  | unstarted _ _ noStarts => simp [noStarts] at inRange
  | starting _ _ _ noStarts => simp [noStarts] at inRange
  | probing _ _ count _ isLatest _ inTime =>
      obtain rfl : round = starts.length - 1 := by omega
      rw [List.getLast?_eq_getElem?, begins] at isLatest
      cases isLatest
      exact absurd passed (Int.not_lt.mpr inTime)
  | resting _ _ count => omega
  | stopped _ _ count => omega

theorem Stands.length_loops_le {interval : Duration}
    (stands : world.Stands interval opened starts ends) : world.loops.length ≤ 1 := by
  cases stands with
  | unstarted idle => simp [idle]
  | starting alone => simp [alone]
  | probing alone => simp [alone]
  | resting alone => simp [alone]
  | stopped idle => simp [idle]

/-- A loop that waits does nothing else. -/
theorem Stands.alone_of_waits {interval : Duration}
    (stands : world.Stands interval opened starts ends) {wake : Instant}
    (waits : .loopWaiting wake ∈ world.tasks) :
    world.started = true ∧ world.loops = [.loopWaiting wake] := by
  have member : .loopWaiting wake ∈ world.loops := List.mem_filter.mpr ⟨waits, rfl⟩
  cases stands with
  | unstarted idle => cases idle ▸ member
  | starting alone => cases List.mem_singleton.mp (alone ▸ member)
  | probing alone => cases List.mem_singleton.mp (alone ▸ member)
  | resting alone started =>
      rw [alone] at member
      rw [List.mem_singleton.mp member]
      exact ⟨started, alone⟩
  | stopped idle => cases idle ▸ member

/-- A round of the loop begins by starting the probes. -/
theorem exists_startRound_of_begun (atMostOne : world.loops.length ≤ 1)
    (turn : LoopTurn engine world happening next) (begins : world.begun? next ≠ none) :
    ∃ index purpose, next = (world.without index).startRound engine purpose ∧
      (world.without index).loops = [] ∧
      ∀ checks, (Task.round purpose checks).isLoop = true := by
  obtain ⟨idle, probing⟩ : world.isProbing = false ∧ next.isProbing = true := by
    simpa [begun?] using begins
  have changes : next.isProbing ≠ world.isProbing := by simp [idle, probing]
  cases turn with
  | aside same => exact absurd (congrArg (List.any · Task.isRound) same.loops) changes
  | shutsDown => exact absurd rfl changes
  | starts fresh =>
      refine absurd ?_ changes
      simp only [start, fresh, Bool.false_eq_true, if_false]
      split
      · rfl
      · simp [isProbing, loops, push, Task.isLoop, Task.isRound]
  | @goesOn index task found isLoop ready =>
      have others := loops_without found isLoop atMostOne
      cases task with
      | loopStart => exact ⟨index, .initial, rfl, others, fun _ => rfl⟩
      | round purpose checks =>
          have isRound : (Task.round purpose checks).isRound = true := by
            cases purpose with
            | requested ticket => cases isLoop
            | _ => rfl
          have busy : world.isProbing = true :=
            List.any_eq_true.mpr ⟨_, mem_loops found isLoop, isRound⟩
          exact absurd (idle.symm.trans busy) Bool.false_ne_true
      | loopWaiting wake =>
          simp only [resume, resumeLoop] at probing ⊢
          split at probing
          · exact absurd ((isProbing_of_none others).symm.trans probing) Bool.false_ne_true
          · next running =>
              rw [if_neg running]
              exact ⟨index, _, rfl, others, fun _ => rfl⟩
      | _ => cases isLoop

/-- A round that begins is the only task of the loop, with a probe of each backend that can be
probed; what is sent then are the probes of those that take connections. -/
theorem round_of_begun (atMostOne : world.loops.length ≤ 1)
    (turn : LoopTurn engine world happening next) (begins : world.begun? next ≠ none) :
    ∃ purpose checks, next.loops = [.round purpose checks] ∧
      (checks.map (·.backend) = engine.table.backends.filter fun backend =>
        backend.probe?.isSome) ∧
      next.sent = world.sent ++ (engine.table.backends.filterMap Backend.probe?).filter
        (fun sent => world.network.accepts sent.authority) := by
  obtain ⟨index, purpose, rfl, idle, isLoop⟩ := exists_startRound_of_begun atMostOne turn begins
  refine ⟨purpose, (launchAll engine.table.backends (world.without index)).2, ?_,
    backends_launchAll .., sent_launchAll ..⟩
  rw [loops_startRound _ _ isLoop, idle, List.nil_append]

/-! ## The end of the loop -/

/-- The loop has ended, or it waits and will end when it goes on. -/
structure Halted (world : World) : Prop where
  started : world.started = true
  shutdown : world.shutdown = true
  loops : world.loops = [] ∨ ∃ next, world.loops = [.loopWaiting next]

theorem Halted.isProbing (halted : world.Halted) : world.isProbing = false := by
  rcases halted.loops with idle | ⟨next, alone⟩
  · exact isProbing_of_none idle
  · exact isProbing_of_alone alone

theorem Halted.after (halted : world.Halted) (engine : Engine) (happening : Happening) :
    (world.after engine happening).Halted := by
  have turn : LoopTurn engine world happening (world.after engine happening) :=
    loopTurn_after happening
  generalize world.after engine happening = next at turn
  obtain ⟨started, shutdown, loops⟩ := halted
  cases turn with
  | aside same =>
      refine ⟨same.started.trans started, same.shutdown.trans shutdown, ?_⟩
      rw [same.loops]
      exact loops
  | shutsDown => exact ⟨started, rfl, loops⟩
  | starts fresh => cases started.symm.trans fresh
  | @goesOn index task found isLoop ready =>
      have member := mem_loops found isLoop
      rcases loops with idle | ⟨wake, alone⟩
      · cases idle ▸ member
      · obtain rfl : task = .loopWaiting wake := List.mem_singleton.mp (alone ▸ member)
        have others := loops_without found isLoop (by simp [alone])
        have ends : (world.without index).resume engine (.loopWaiting wake) =
            world.without index := if_pos shutdown
        rw [ends]
        exact ⟨started, shutdown, .inl others⟩

/-- No round begins any more. -/
theorem Halted.roundStarts (halted : world.Halted) (engine : Engine)
    (happenings : List Happening) : world.roundStarts engine happenings = [] := by
  induction happenings generalizing world with
  | nil => rfl
  | cons happening rest inductionHypothesis =>
      have after := halted.after engine happening
      have silent : world.begun? (world.after engine happening) = none :=
        (rounds_of_same (after.isProbing.trans halted.isProbing.symm)).1
      rw [roundStarts_cons, silent, inductionHypothesis after]
      rfl

end World

/-! ## Schedules -/

/-- The rounds of the health loop in an execution keep to a schedule. -/
structure KeepsSchedule (engine : Engine) (first : World) (happenings : List Happening) :
    Prop where
  /-- The first round begins when the gateway is started. -/
  opening : ∀ {instant : Instant}, first.startedAt? engine happenings = some instant →
    (∀ begun, (first.roundStarts engine happenings)[0]? = some begun → begun = instant) ∧
    (instant < (first.through engine happenings).now →
      first.roundStarts engine happenings ≠ [])
  /-- The end of the first round sets the beat. Every later round begins when it is due or when the
  round before it is over, whichever is later. -/
  paced : ∀ {round : Nat} {firstEnd lastEnd begun : Instant},
    (first.roundEnds engine happenings)[0]? = some firstEnd →
    (first.roundEnds engine happenings)[round]? = some lastEnd →
    (first.roundStarts engine happenings)[round + 1]? = some begun →
      begun = max (firstEnd + ((round + 1) * World.interval engine : Nat)) lastEnd
  /-- No round is left out: when that instant is over the round has begun, unless the token is
  cancelled. -/
  unskipped : ∀ {round : Nat} {firstEnd lastEnd : Instant},
    (first.roundEnds engine happenings)[0]? = some firstEnd →
    (first.roundEnds engine happenings)[round]? = some lastEnd →
    (first.through engine happenings).shutdown = false →
    max (firstEnd + ((round + 1) * World.interval engine : Nat)) lastEnd <
        (first.through engine happenings).now →
      round + 1 < (first.roundStarts engine happenings).length
  /-- There is one round at a time: as many are over as have begun, but for the one under way, and
  no round begins before the one before it is over. -/
  apart : (first.roundStarts engine happenings).length =
      (first.roundEnds engine happenings).length +
        (if (first.through engine happenings).isProbing then 1 else 0) ∧
    ∀ {round : Nat} {ended begun : Instant},
      (first.roundEnds engine happenings)[round]? = some ended →
      (first.roundStarts engine happenings)[round + 1]? = some begun → ended ≤ begun
  /-- A round is over when the time of its probes is. -/
  brief : ∀ {round : Nat} {begun : Instant},
    (first.roundStarts engine happenings)[round]? = some begun →
    (∀ ended, (first.roundEnds engine happenings)[round]? = some ended →
      begun ≤ ended ∧ ended ≤ begun + Health.probeTimeout) ∧
    (begun + Health.probeTimeout < (first.through engine happenings).now →
      round < (first.roundEnds engine happenings).length)
  /-- A round that begins is made of one probe of each backend that can be probed, and these are
  sent to whoever takes connections then. -/
  probes : ∀ moment ∈ first.moments engine happenings,
    moment.world.begun? (moment.next engine) ≠ none →
    ∃ purpose checks, (moment.next engine).loops = [.round purpose checks] ∧
      (checks.map (·.backend.key)).Nodup ∧
      (∀ backend, backend ∈ checks.map (·.backend) ↔
        backend ∈ engine.table.backends ∧ backend.IsProbeable) ∧
      (moment.next engine).sent = moment.world.sent ++
        (engine.table.backends.filterMap Backend.probe?).filter
          (fun sent => moment.world.network.accepts sent.authority)
  /-- The backends are the canonical locators of the routes. -/
  backends : ∀ text, text ∈ engine.table.backends.map Backend.key ↔
    ∃ route ∈ engine.table.routes, route.target.text = text
  /-- When the token is cancelled while the loop waits for a round that is not due, no round begins
  any more, whatever happens. The loop waits for both then, and the token comes first; if the round
  is due as well, either may come first (`World.resumeLoop`), and nothing is claimed. -/
  stops : ∀ {before later : List Happening} {next : Instant},
    happenings = before ++ .move .shutdown :: later →
    .loopWaiting next ∈ (first.through engine before).tasks →
    (first.through engine before).now < next →
      first.roundStarts engine happenings = first.roundStarts engine before

/-- In every execution in which nobody is passed over the health loop of a gateway with backends
keeps to its schedule, whatever the probes come to. -/
theorem keepsSchedule_of_punctual {definitions : List Routing.Definition}
    {defaultTimeout : Duration} {engine : Engine} {shadowings : List Routing.Shadowing}
    (built : Routing.Table.build definitions defaultTimeout = .ok (engine.table, shadowings))
    (configured : engine.table.backends ≠ []) (network : Network) (start : Instant)
    {happenings : List Happening} (punctual : Punctual happenings) :
    KeepsSchedule engine (.initial engine network start) happenings := by
  have keeps := World.keepsTime_through configured network start punctual
  have table := keeps.table
  have punctualBefore {before later : List Happening} (split : happenings = before ++ later) :
      Punctual before := fun instant member =>
    punctual instant (split ▸ List.mem_append_left _ member)
  refine ⟨?_, table.paced, ?_, ⟨keeps.stands.count, ?_⟩, ?_, ?_, ?_, ?_⟩
  · intro instant opened
    refine ⟨fun begun begins => ?_, fun passed => keeps.begun_of_started opened passed⟩
    exact Option.some_inj.mp ((table.opening begins).symm.trans opened)
  · exact fun isFirst isLast running passed =>
      keeps.stands.begun_of_due isFirst isLast running passed
  · intro round ended begun ends begins
    have inRange := (List.getElem?_eq_some_iff.mp ends).1
    have isFirst := List.getElem?_eq_getElem (Nat.zero_lt_of_lt inRange)
    rw [table.paced isFirst ends begins]
    exact Int.le_max_right ..
  · exact fun begins => ⟨fun ended ends => table.brief begins ends,
      fun passed => keeps.stands.over_of_begun begins passed⟩
  · intro moment member begins
    obtain ⟨before, later, split, reached⟩ := World.exists_append_of_mem_moments _ _ member
    have atMostOne := (World.keepsTime_through configured network start
      (punctualBefore split)).stands.length_loops_le
    rw [reached] at atMostOne
    obtain ⟨purpose, checks, alone, probed, sent⟩ :=
      World.round_of_begun atMostOne (World.loopTurn_after moment.happening) begins
    refine ⟨purpose, checks, alone, ?_, fun backend => ?_, sent⟩
    · have keys : checks.map (·.backend.key) = (checks.map (·.backend)).map Backend.key := by
        rw [List.map_map]
        rfl
      rw [keys, probed]
      exact (Routing.Table.nodup_keys_build built).sublist (List.filter_sublist.map _)
    · rw [probed, List.mem_filter, Backend.isSome_probe?_iff]
  · exact fun text => Routing.Table.mem_keys_build_iff built
  · intro before later next split waits _
    obtain ⟨started, alone⟩ := (World.keepsTime_through configured network start
      (punctualBefore split)).stands.alone_of_waits waits
    have halted : (((World.initial engine network start).through engine before).after engine
      (.move .shutdown)).Halted := ⟨started, rfl, .inr ⟨next, alone⟩⟩
    have silent := (World.rounds_of_same (halted.isProbing.trans
      (World.isProbing_of_alone alone).symm)).1
    rw [split, World.roundStarts_append, World.roundStarts_cons, silent, halted.roundStarts,
      Option.toList_none, List.append_nil, List.append_nil]

/-- The gateway in front of one route that probes every second. -/
def hastyGateway : Engine := { ofRoute rootRoute with healthInterval := .ofSeconds 1 }

/-- The host neither takes nor refuses connections. -/
def hangingNetwork : Network := ⟨[("h", ⟨.pending, none, none⟩)]⟩

/-- Three rounds begin and two of them are over, each after three seconds. -/
def hangingRounds : List Happening :=
  [.move .start, .move (.run 0),
    .move (.advance (Duration.ofSeconds 3)), .move (.run 0),
    .move (.advance (Duration.ofSeconds 4)), .move (.run 0),
    .move (.advance (Duration.ofSeconds 7)), .move (.run 0), .move (.run 0)]

/-- The second round after the first one is due after five seconds, but begins after seven. -/
theorem keepsSchedule_hangingRounds :
    Routing.Table.build [{ name := "all", pathPrefix := "/", target := "http://h" }]
        (.ofSeconds 10) = .ok (hastyGateway.table, []) ∧
      hastyGateway.table.backends ≠ [] ∧ Punctual hangingRounds ∧
      ((World.initial hastyGateway hangingNetwork 0).roundStarts hastyGateway
        hangingRounds)[2]? = some ((Duration.ofSeconds 7 : Nat) : Int) := by
  have built : Routing.Table.build [{ name := "all", pathPrefix := "/", target := "http://h" }]
      (.ofSeconds 10) = .ok (hastyGateway.table, []) :=
    Routing.Table.build_of_draft (by decide +kernel) (by decide +kernel)
  have configured : hastyGateway.table.backends ≠ [] := nofun
  have punctual : Punctual hangingRounds := by simp [Punctual, hangingRounds]
  have schedule := keepsSchedule_of_punctual built configured hangingNetwork 0 punctual
  refine ⟨built, configured, punctual, ?_⟩
  have three : ((World.initial hastyGateway hangingNetwork 0).roundStarts hastyGateway
      hangingRounds).length = 3 := by decide +kernel
  have firstEnd : ((World.initial hastyGateway hangingNetwork 0).roundEnds hastyGateway
      hangingRounds)[0]? = some ((Duration.ofSeconds 3 : Nat) : Int) := by decide +kernel
  have lastEnd : ((World.initial hastyGateway hangingNetwork 0).roundEnds hastyGateway
      hangingRounds)[1]? = some ((Duration.ofSeconds 7 : Nat) : Int) := by decide +kernel
  have begins := List.getElem?_eq_getElem (three ▸ (by decide : 2 < 3))
  rw [begins, schedule.paced firstEnd lastEnd begins]
  decide

end ApiGateway.Engine
