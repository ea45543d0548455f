import ApiGateway.Proofs.Engine.Lane
import ApiGateway.Proofs.Engine.Trace

/-!
# The health loop

Among the tasks of the gateway those of the health loop stand apart. The first start adds
one, and when it goes on it leaves at most one behind (`Task.successor?`). `LoopTurn` is
all that may become of the loop, of the gate that it closes and of the token that stops
it when something happens.
-/

namespace ApiGateway.Engine

namespace Task

/-- A task of the health loop. -/
def isLoop : Task → Bool
  | loopStart => true
  | round .initial _ => true
  | round (.periodic _) _ => true
  | loopWaiting _ => true
  | _ => false

end Task

/-- What the loop waits for after a round that ends now. -/
def RoundPurpose.successor? (engine : Engine) (now : Instant) : RoundPurpose → Option Task
  | initial => some (.loopWaiting (now + World.interval engine))
  | periodic next => some (.loopWaiting next)
  | requested _ => none

/-- The probes of a round that are still awaited. -/
def World.pending (world : World) (checks : List Health.Check) : List Health.Check :=
  checks.filter fun check => !(check.due ≤ world.now)

/-- The task that a task of the loop leaves behind when it goes on. -/
def Task.successor? (engine : Engine) (world : World) : Task → Option Task
  | loopStart => some (.round .initial (World.launchAll engine.table.backends world).2)
  | round purpose checks =>
    if (world.pending checks).isEmpty then purpose.successor? engine world.now
    else some (.round purpose (world.pending checks))
  | loopWaiting next =>
    if world.shutdown then none
    else some (.round (.periodic (next + World.interval engine))
      (World.launchAll engine.table.backends world).2)
  | _ => none

namespace World

/-- The tasks of the health loop. -/
def loops (world : World) : List Task := world.tasks.filter Task.isLoop

/-- Neither the gate nor the health loop has changed. -/
structure KeepsLoop (before after : World) : Prop where
  ready : after.ready = before.ready
  started : after.started = before.started
  loops : after.loops = before.loops

/-- What has happened has nothing to do with the gate, the health loop or its token. -/
structure Aside (before after : World) : Prop extends KeepsLoop before after where
  shutdown : after.shutdown = before.shutdown

namespace Aside

theorem of_eq {before after : World} (ready : after.ready = before.ready)
    (started : after.started = before.started) (shutdown : after.shutdown = before.shutdown)
    (tasks : after.tasks = before.tasks) : before.Aside after :=
  ⟨⟨ready, started, congrArg (List.filter Task.isLoop) tasks⟩, shutdown⟩

theorem refl (world : World) : world.Aside world := .of_eq rfl rfl rfl rfl

theorem trans {first middle last : World} (prior : first.Aside middle)
    (next : middle.Aside last) : first.Aside last :=
  ⟨⟨next.ready.trans prior.ready, next.started.trans prior.started, next.loops.trans prior.loops⟩,
    next.shutdown.trans prior.shutdown⟩

theorem push {before after : World} (prior : before.Aside after) {task : Task}
    (other : task.isLoop = false) : before.Aside (after.push task) :=
  prior.trans ⟨⟨rfl, rfl, by simp [World.push, World.loops, other]⟩, rfl⟩

end Aside

variable (engine : Engine) (world : World)

theorem loops_push {task : Task} (isLoop : task.isLoop = true) :
    (world.push task).loops = world.loops ++ [task] := by
  simp [push, loops, isLoop]

/-! ## What stands aside -/

theorem aside_refuse (ticket : Nat) (route : Option Routing.Route) (error : Http.ApiError) :
    world.Aside (world.refuse ticket route error) := by
  cases route <;> exact .of_eq rfl rfl rfl rfl

theorem aside_recordOutcome (route : Routing.Route) (success : Bool) :
    world.Aside (world.recordOutcome engine route success) := by
  simp only [recordOutcome]
  split
  · split
    · refine Aside.push ?_ rfl
      exact .of_eq rfl rfl rfl rfl
    · exact .of_eq rfl rfl rfl rfl
  · exact .of_eq rfl rfl rfl rfl

theorem aside_perform (job : Job) (action : Action) :
    world.Aside (world.perform engine job action) := by
  cases action with
  | reject fault => exact .of_eq rfl rfl rfl rfl
  | send exchange =>
      simp only [perform, attempt]
      split
      · refine Aside.push ?_ rfl
        exact .of_eq rfl rfl rfl rfl
      · refine Aside.push ?_ rfl
        exact .of_eq rfl rfl rfl rfl
  | pause exchange length =>
      simp only [perform, pauseFor]
      split <;> exact Aside.push (.refl world) rfl
  | finish startedAt outcome =>
      -- A logged failure, the observation, the access line and the answer are no tasks.
      have ends (observed : World) (same : world.Aside observed) (success : Bool)
          (line : Log.Line) (response : Http.Response) :
          world.Aside (((observed.recordOutcome engine job.route success).log line).answer
            job.ticket (some job.route.name) (some response)) :=
        (same.trans (observed.aside_recordOutcome engine job.route success)).trans
          (.of_eq rfl rfl rfl rfl)
      cases outcome with
      | ok response => exact ends (world.observe ..) (.of_eq rfl rfl rfl rfl) ..
      | error error =>
          exact ends ((world.log (failedLine job error)).observe ..) (.of_eq rfl rfl rfl rfl) ..

theorem aside_serve (ticket : Nat) (head : Head) (pieces : List BodyPiece) :
    world.Aside (world.serve engine ticket head pieces) := by
  simp only [serve]
  split
  · exact aside_refuse ..
  · exact Aside.push (.refl world) rfl

theorem aside_launchAll (backends : List Backend) : world.Aside (launchAll backends world).1 := by
  induction backends generalizing world with
  | nil => exact .refl world
  | cons backend rest inductionHypothesis =>
      have launched : world.Aside (world.launchProbe backend).1 := .of_eq rfl rfl rfl rfl
      exact launched.trans (inductionHypothesis _)

theorem aside_settleChecks (checks : List Health.Check) :
    world.Aside (checks.foldl settleCheck world) := by
  induction checks generalizing world with
  | nil => exact .refl world
  | cons check rest inductionHypothesis =>
      have settled : world.Aside (world.settleCheck check) := .of_eq rfl rfl rfl rfl
      exact settled.trans (inductionHypothesis _)

variable {world} in
theorem aside_without {index : Nat} {task : Task} (found : world.tasks[index]? = some task)
    (other : task.isLoop = false) : world.Aside (world.without index) :=
  ⟨⟨rfl, rfl, List.filter_eraseIdx_of_not_keep found other⟩, rfl⟩

/-- A task that is none of the loop's goes on without it. -/
theorem aside_resume {task : Task} (other : task.isLoop = false) :
    world.Aside (world.resume engine task) := by
  cases task with
  | request job phase wake =>
      rw [resume, resumeRequest_eq_perform]
      exact aside_perform ..
  | openedCircuit backend =>
      have launched : world.Aside (world.launchProbe backend).1 := .of_eq rfl rfl rfl rfl
      simp only [resume]
      split
      · exact launched.push rfl
      · exact launched
  | probe check => exact .of_eq rfl rfl rfl rfl
  | round purpose checks =>
      cases purpose with
      | requested ticket =>
          have settled :=
            world.aside_settleChecks (checks.filter fun check => check.due ≤ world.now)
          simp only [resume, resumeRound]
          split
          · exact settled.trans (.of_eq rfl rfl rfl rfl)
          · exact settled.push rfl
      | _ => cases other
  | _ => cases other

/-! ## The loop itself -/

theorem loops_startRound {purpose : RoundPurpose}
    (isLoop : ∀ checks, (Task.round purpose checks).isLoop = true) :
    (world.startRound engine purpose).loops =
      world.loops ++ [.round purpose (launchAll engine.table.backends world).2] := by
  rw [startRound, loops_push _ (isLoop _), (world.aside_launchAll engine.table.backends).loops]

theorem loops_endRound {purpose : RoundPurpose}
    (isLoop : ∀ checks, (Task.round purpose checks).isLoop = true) :
    (world.endRound engine purpose).loops =
      world.loops ++ (purpose.successor? engine world.now).toList := by
  cases purpose with
  | requested ticket => cases isLoop []
  | _ => exact loops_push _ rfl

/-- A round goes on for the probes that are pending after those that are due are settled. -/
theorem resumeRound_eq (purpose : RoundPurpose) (checks : List Health.Check) :
    world.resumeRound engine purpose checks =
      if (world.pending checks).isEmpty then
        ((checks.filter fun check => check.due ≤ world.now).foldl settleCheck world).endRound
          engine purpose
      else ((checks.filter fun check => check.due ≤ world.now).foldl settleCheck world).push
        (.round purpose (world.pending checks)) := rfl

/-- A task of the loop leaves its successor behind. -/
theorem loops_resume {task : Task} (isLoop : task.isLoop = true) :
    (world.resume engine task).loops =
      world.loops ++ (task.successor? engine world).toList := by
  cases task with
  | loopStart => exact loops_startRound engine world fun _ => rfl
  | round purpose checks =>
      have settled := world.aside_settleChecks (checks.filter fun check => check.due ≤ world.now)
      have clock := world.now_settleChecks (checks.filter fun check => check.due ≤ world.now)
      have always (checks : List Health.Check) : (Task.round purpose checks).isLoop = true := by
        cases purpose with
        | requested ticket => cases isLoop
        | _ => rfl
      rw [resume, resumeRound_eq, Task.successor?]
      by_cases allDue : (world.pending checks).isEmpty = true
      · rw [if_pos allDue, if_pos allDue, loops_endRound _ _ always, settled.loops, clock]
      · rw [if_neg allDue, if_neg allDue, loops_push _ (always _), settled.loops]
        rfl
  | loopWaiting next =>
      simp only [resume, resumeLoop, Task.successor?]
      split
      · exact (List.append_nil _).symm
      · exact loops_startRound engine world fun _ => rfl
  | _ => cases isLoop

theorem started_resume {task : Task} (isLoop : task.isLoop = true) :
    (world.resume engine task).started = world.started ∧
      (world.resume engine task).shutdown = world.shutdown := by
  have launched := world.aside_launchAll engine.table.backends
  cases task with
  | loopStart => exact ⟨launched.started, launched.shutdown⟩
  | round purpose checks =>
      have settled := world.aside_settleChecks (checks.filter fun check => check.due ≤ world.now)
      simp only [resume, resumeRound]
      split
      · cases purpose <;> exact ⟨settled.started, settled.shutdown⟩
      · exact ⟨settled.started, settled.shutdown⟩
  | loopWaiting next =>
      simp only [resume, resumeLoop]
      split
      · exact ⟨rfl, rfl⟩
      · exact ⟨launched.started, launched.shutdown⟩
  | _ => cases isLoop

theorem started_start : (world.start engine).started = true := by
  simp only [start]
  split
  · next already => exact already
  · split <;> rfl

variable {engine world}

theorem mem_loops {index : Nat} {task : Task} (found : world.tasks[index]? = some task)
    (isLoop : task.isLoop = true) : task ∈ world.loops :=
  List.mem_filter.mpr ⟨List.mem_of_getElem? found, isLoop⟩

/-- When the only task of the loop goes on, none is left. -/
theorem loops_without {index : Nat} {task : Task} (found : world.tasks[index]? = some task)
    (isLoop : task.isLoop = true) (alone : world.loops.length ≤ 1) :
    (world.without index).loops = [] := by
  obtain ⟨inRange, rfl⟩ := List.getElem?_eq_some_iff.mp found
  have parted := ((List.getElem_cons_eraseIdx_perm inRange).filter Task.isLoop).length_eq
  rw [List.filter_cons_of_pos isLoop, List.length_cons] at parted
  have bounded : (world.tasks.filter Task.isLoop).length ≤ 1 := alone
  exact List.length_eq_zero_iff.mp (by simp only [loops, without]; omega)

/-! ## Turns -/

/-- All that may become of the health loop when something happens. -/
inductive LoopTurn (engine : Engine) (world : World) : Happening → World → Prop where
  | aside {happening : Happening} {next : World} (same : world.Aside next) :
      LoopTurn engine world happening next
  | shutsDown : LoopTurn engine world (.move .shutdown) { world with shutdown := true }
  | starts (unstarted : world.started = false) :
      LoopTurn engine world (.move .start) (world.start engine)
  /-- A task of the loop that is ready goes on. -/
  | goesOn {index : Nat} {task : Task} (found : world.tasks[index]? = some task)
      (isLoop : task.isLoop = true) (ready : world.isReady task = true) :
      LoopTurn engine world (.move (.run index)) ((world.without index).resume engine task)

theorem loopTurn_move (move : Move) :
    LoopTurn engine world (.move move) (world.move engine move) := by
  cases move with
  | arrive ticket head pieces =>
      simp only [World.move, handle]
      split
      · exact .aside (.of_eq rfl rfl rfl rfl)
      · exact .aside (aside_serve ..)
  | serve ticket head pieces => exact .aside (aside_serve ..)
  | run index =>
      cases going : world.resumed? (.run index) with
      | none =>
          rw [move_run_eq_self engine going]
          exact .aside (.refl world)
      | some task =>
          obtain ⟨position, same, found, resumes⟩ := move_eq_resume engine going
          cases same
          have ready := (Option.filter_eq_some_iff.mp going).2
          rw [resumes]
          cases isLoop : task.isLoop with
          | true => exact .goesOn found isLoop ready
          | false => exact .aside ((aside_without found isLoop).trans (aside_resume _ _ isLoop))
  | advance instant =>
      simp only [World.move, advance]
      split
      · exact .aside (.of_eq rfl rfl rfl rfl)
      · exact .aside (.refl world)
  | start =>
      cases started : world.started with
      | true =>
          simp only [World.move, start, started, if_true]
          exact .aside (.refl world)
      | false => exact .starts started
  | shutdown => exact .shutsDown
  | probeAll ticket => exact .aside ((aside_launchAll ..).push rfl)
  | network network => exact .aside (.of_eq rfl rfl rfl rfl)

theorem loopTurn_after (happening : Happening) :
    LoopTurn engine world happening (world.after engine happening) := by
  cases happening with
  | move move => exact loopTurn_move move
  | delay instant =>
      simp only [after]
      split
      · exact .aside (.of_eq rfl rfl rfl rfl)
      · exact .aside (.refl world)
  | report key finding => exact .aside (.of_eq rfl rfl rfl rfl)

end World

end ApiGateway.Engine
