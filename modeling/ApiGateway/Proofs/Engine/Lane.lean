import ApiGateway.Proofs.Engine.Ledger
import ApiGateway.Proofs.Engine.StatusEvent
import Mathlib

/-!
# The lane of a backend

Of all that the gateway holds, its requests to one backend meet little: the status of
the backend and one another. `World.lane` is this part of a world, with the requests of
some tickets. It is driven by what happens to it (`Lane.Input`), and it is seen by
what it does (`Lane.Effect`). `drives_through` is the law of every execution: inputs alone make the
lane and its effects, and nothing else of the world enters.
-/

namespace List

variable {α : Type} {items : List α} {position : Nat} {item : α} {keep : α → Bool}

/-- An item parts the list into what comes before it and what comes after it. -/
theorem exists_append_of_getElem? (found : items[position]? = some item) :
    ∃ before rest, items = before ++ item :: rest ∧ before.length = position := by
  obtain ⟨inRange, rfl⟩ := getElem?_eq_some_iff.mp found
  refine ⟨items.take position, items.drop (position + 1), ?_, ?_⟩
  · rw [← drop_eq_getElem_cons inRange, take_append_drop]
  · exact length_take_of_le (Nat.le_of_lt inRange)

/-- An item that is not kept may as well be taken off before. -/
theorem filter_eraseIdx_of_not_keep (found : items[position]? = some item)
    (leaves : keep item = false) : (items.eraseIdx position).filter keep = items.filter keep := by
  obtain ⟨before, rest, rfl, rfl⟩ := exists_append_of_getElem? found
  simp [eraseIdx_append_of_length_le, leaves]

/-- An item that is kept has a position among those that are kept. -/
theorem getElem?_filter_countP (found : items[position]? = some item) (keeps : keep item = true) :
    (items.filter keep)[(items.take position).countP keep]? = some item := by
  obtain ⟨before, rest, rfl, rfl⟩ := exists_append_of_getElem? found
  simp [keeps, countP_eq_length_filter]

/-- An item that is kept may be taken off afterwards. -/
theorem filter_eraseIdx_of_keep (found : items[position]? = some item)
    (keeps : keep item = true) : (items.eraseIdx position).filter keep =
      (items.filter keep).eraseIdx ((items.take position).countP keep) := by
  obtain ⟨before, rest, rfl, rfl⟩ := exists_append_of_getElem? found
  simp [eraseIdx_append_of_length_le, keeps, countP_eq_length_filter]

/-- Every position among those that are kept comes from one in the list. -/
theorem exists_getElem?_of_filter {kept : Nat} (found : (items.filter keep)[kept]? = some item) :
    ∃ position, items[position]? = some item ∧ (items.take position).countP keep = kept := by
  induction items generalizing kept with
  | nil => cases found
  | cons first rest inductionHypothesis =>
      cases keeps : keep first with
      | false =>
          rw [filter_cons_of_neg (by simp [keeps])] at found
          obtain ⟨position, same, counts⟩ := inductionHypothesis found
          exact ⟨position + 1, same, by simp [keeps, counts]⟩
      | true =>
          rw [filter_cons_of_pos keeps] at found
          cases kept with
          | zero => exact ⟨0, found, rfl⟩
          | succ kept =>
              obtain ⟨position, same, counts⟩ := inductionHypothesis found
              exact ⟨position + 1, same, by simp [keeps, counts]⟩

end List

namespace ApiGateway.Engine

open Backend (StatusBook)
open Http (Response)

/-- The requests to one backend whose tickets pass. -/
structure Scope where
  key : String
  mine : Nat → Bool

namespace Scope

/-- All requests to a backend. -/
def all (key : String) : Scope := ⟨key, fun _ => true⟩

/-- The request of a ticket, if it is one to the backend. -/
def one (key : String) (ticket : Nat) : Scope := ⟨key, (· == ticket)⟩

/-- A ticket and a route are those of a request in the scope. -/
def has (scope : Scope) (ticket : Nat) (route : Routing.Route) : Bool :=
  scope.mine ticket && route.backendKey == scope.key

/-- A request in the scope arrives: its path is that of a route to the backend. -/
def hasRequest (engine : Engine) (scope : Scope) (ticket : Nat) (head : Head) : Bool :=
  (engine.table.match? head.uri.path).any (scope.has ticket)

/-- A request in the scope is under way. -/
def hasTask (scope : Scope) : Task → Bool
  | .request job _ _ => scope.has job.ticket job.route
  | _ => false

/-- An answer is owed to a request in the scope. -/
def hasDuty (scope : Scope) (duty : Duty) : Bool := duty.route.any (scope.has duty.ticket)

end Scope

/-- What the requests of a scope meet: the status of their backend and one another. -/
structure Lane where
  status : Option Backend.Status
  requests : List Task

def World.lane (scope : Scope) (world : World) : Lane :=
  ⟨world.statuses.get? scope.key, world.tasks.filter scope.hasTask⟩

deriving instance DecidableEq for Head, BodyPiece, Http.Response, Health.Finding, StatusEvent

/-- What happens to a lane. -/
inductive Lane.Input where
  | arrival (ticket : Nat) (head : Head) (pieces : List BodyPiece)
  /-- The request at a position goes on, with the reply if it makes an attempt. -/
  | turn (position : Nat) (reply : AttemptEnd)
  /-- Something else changes the status of the backend. -/
  | told (event : StatusEvent)
deriving DecidableEq

/-- What the requests of a lane do. -/
inductive Lane.Effect where
  | attempted (ticket : Nat) (outbound : Http.Request)
  | answered (ticket : Nat) (response : Response)

namespace Lane

variable (engine : Engine) (scope : Scope)

/-- The statuses as far as a lane knows them. -/
def statuses (lane : Lane) : StatusBook := ⟨lane.status.toList.map (scope.key, ·)⟩

/-- The lane after an input at an instant. -/
def after (now : Instant) (lane : Lane) : Input → Lane
  | .arrival ticket head pieces =>
    match engine.dispatch (lane.statuses scope) now head with
    | .error _ => lane
    | .ok route =>
      { lane with
        requests := lane.requests ++ [readingTask engine now ticket head pieces route] }
  | .turn position reply =>
    match lane.requests[position]? with
    | some (.request job phase _) =>
      let action := job.action engine now phase
      { status := (action.events job).foldl
          (fun status event => status.map (event.change engine.circuitPolicy now)) lane.status
        requests := lane.requests.eraseIdx position ++ (action.nextTask? now job reply).toList }
    | _ => lane
  | .told event => { lane with status := lane.status.map (event.change engine.circuitPolicy now) }

/-- What a lane does upon an input at an instant. -/
def effects (now : Instant) (lane : Lane) : Input → List Effect
  | .arrival ticket head _ =>
    match engine.dispatch (lane.statuses scope) now head with
    | .error refusal => [.answered ticket (.ofError refusal.error)]
    | .ok _ => []
  | .turn position _ =>
    match lane.requests[position]? with
    | some (.request job phase _) =>
      match job.action engine now phase with
      | .send exchange => [.attempted job.ticket exchange.outbound]
      | action => ((action.response? engine job).map (.answered job.ticket)).toList
    | _ => []
  | .told _ => []

/-- The lane after some inputs. -/
def through (lane : Lane) (inputs : List (Instant × Input)) : Lane :=
  inputs.foldl (fun lane (now, input) => lane.after engine scope now input) lane

/-- What a lane does upon some inputs. -/
def effectsOf : Lane → List (Instant × Input) → List (Instant × Effect)
  | _, [] => []
  | lane, (now, input) :: rest =>
    (lane.effects engine scope now input).map (now, ·) ++
      effectsOf (lane.after engine scope now input) rest

/-- Inputs make one lane of another, with some effects. -/
structure Drives (first : Lane) (inputs : List (Instant × Input))
    (effects : List (Instant × Effect)) (last : Lane) : Prop where
  lane : last = first.through engine scope inputs
  effects : effects = first.effectsOf engine scope inputs

variable {engine scope} {first middle last : Lane}

theorem Drives.refl (lane : Lane) : Drives engine scope lane [] [] lane := ⟨rfl, rfl⟩

theorem effectsOf_append (lane : Lane) (early late : List (Instant × Input)) :
    lane.effectsOf engine scope (early ++ late) = lane.effectsOf engine scope early ++
      (lane.through engine scope early).effectsOf engine scope late := by
  induction early generalizing lane with
  | nil => rfl
  | cons timed rest inductionHypothesis =>
      rw [List.cons_append, effectsOf, inductionHypothesis, effectsOf, List.append_assoc]
      rfl

theorem Drives.trans {early late : List (Instant × Input)} {sooner later : List (Instant × Effect)}
    (prior : Drives engine scope first early sooner middle)
    (next : Drives engine scope middle late later last) :
    Drives engine scope first (early ++ late) (sooner ++ later) last where
  lane := by
    rw [next.lane, prior.lane, through, through, through, List.foldl_append]
  effects := by rw [effectsOf_append, next.effects, prior.effects, prior.lane]

/-- Inputs determine the lane and its effects. -/
theorem Drives.unique {inputs : List (Instant × Input)} {effects others : List (Instant × Effect)}
    {other : Lane} (drives : Drives engine scope first inputs effects last)
    (also : Drives engine scope first inputs others other) : effects = others ∧ last = other :=
  ⟨drives.effects.trans also.effects.symm, drives.lane.trans also.lane.symm⟩

theorem Drives.single {now : Instant} {input : Input} {effects : List Effect}
    (lane : last = first.after engine scope now input)
    (same : effects = first.effects engine scope now input) :
    Drives engine scope first [(now, input)] (effects.map (now, ·)) last where
  lane := lane
  effects := by rw [same, effectsOf, effectsOf, List.append_nil]

/-- Events change the status and nothing else. -/
theorem Drives.told (now : Instant) (lane : Lane) (events : List StatusEvent) :
    Drives engine scope lane (events.map fun event => (now, .told event)) []
      { lane with
        status := events.foldl
          (fun status event => status.map (event.change engine.circuitPolicy now))
          lane.status } := by
  induction events generalizing lane with
  | nil => exact .refl lane
  | cons event rest inductionHypothesis =>
      have silent : [] = lane.effects engine scope now (.told event) := rfl
      have first : Drives engine scope lane [(now, .told event)] [] (lane.after engine scope now
          (.told event)) := .single rfl silent
      exact first.trans (inductionHypothesis _)

/-- Of the statuses a lane knows the one of its backend. -/
theorem get?_statuses (lane : Lane) : (lane.statuses scope).get? scope.key = lane.status := by
  cases status : lane.status <;> simp [statuses, StatusBook.get?, status]

end Lane

/-- A request is checked by the status of its own backend alone. -/
theorem dispatch_congr {engine : Engine} {statuses others : StatusBook} {head : Head}
    (same : ∀ route, engine.table.match? head.uri.path = some route →
      statuses.get? route.backendKey = others.get? route.backendKey) (now : Instant) :
    engine.dispatch statuses now head = engine.dispatch others now head := by
  simp only [dispatch]
  cases matched : engine.table.match? head.uri.path with
  | none => rfl
  | some route =>
      have available : statuses.availability route.backendKey now =
          others.availability route.backendKey now := by
        rw [StatusBook.availability, StatusBook.availability, same route matched]
      simp only [available]

theorem Scope.dispatch_lane {engine : Engine} {scope : Scope} {ticket : Nat} {head : Head}
    (arrives : scope.hasRequest engine ticket head = true) (world : World) :
    engine.dispatch ((world.lane scope).statuses scope) world.now head =
      engine.dispatch world.statuses world.now head := by
  refine dispatch_congr (fun route matched => ?_) world.now
  have ours : route.backendKey = scope.key := by
    simp only [hasRequest, matched, Option.any_some, has, Bool.and_eq_true, beq_iff_eq] at arrives
    exact arrives.2
  rw [ours, Lane.get?_statuses]
  rfl

namespace World

variable (engine : Engine) (scope : Scope) (world : World)

/-- The reply to the attempt of a task that goes on, if it makes one. -/
def turnReply (task : Task) : AttemptEnd :=
  match task with
  | .request job phase _ => world.reply? engine job (job.action engine world.now phase)
  | _ => none

/-- The position among the requests of a scope of the task that a move lets go on. -/
def positionOf : Move → Nat
  | .run index => (world.tasks.take index).countP scope.hasTask
  | _ => 0

/-- What happens to a lane by a move. -/
def moveInputs (move : Move) : List Lane.Input :=
  match served? move with
  | some (ticket, head, pieces) =>
    if scope.hasRequest engine ticket head then [.arrival ticket head pieces] else []
  | none =>
    match world.resumed? move with
    | some task =>
      if scope.hasTask task then [.turn (world.positionOf scope move) (world.turnReply engine task)]
      else ((task.events engine world.now).filter (·.key == scope.key)).map .told
    | none => []

/-- What the requests of a scope do by a move. -/
def moveEffects (move : Move) : List Lane.Effect :=
  ((world.attempted? engine move).filter fun (job, _) => scope.has job.ticket job.route).toList.map
      (fun (job, exchange) => .attempted job.ticket exchange.outbound) ++
    ((world.discharged engine move).filter fun discharge => scope.hasDuty discharge.duty).filterMap
      fun discharge => discharge.response.map (.answered discharge.duty.ticket)

variable {engine scope world}

theorem resumed?_of_served {move : Move} {served : Nat × Head × List BodyPiece}
    (arrives : served? move = some served) : world.resumed? move = none := by
  cases move with
  | run index => cases arrives
  | _ => rfl

theorem discharged_of_served {move : Move} {ticket : Nat} {head : Head} {pieces : List BodyPiece}
    (arrives : served? move = some (ticket, head, pieces)) :
    world.discharged engine move = Arrival.discharged engine ⟨ticket, head, pieces, world⟩ := by
  cases move with
  | serve => cases arrives; rfl
  | arrive other asked body =>
      simp only [served?] at arrives
      split at arrives
      · cases arrives
      · next noPage =>
          cases arrives
          simp only [discharged, noPage]
  | _ => cases arrives

theorem hasTask_of_background {task : Task} (own : task.IsBackground) :
    scope.hasTask task = false := by
  cases task with
  | request => exact own.elim
  | _ => rfl

/-- Tasks outside the scope are not seen. -/
theorem lane_of_extends {adds : Task → Prop} {after : World} (goesOn : world.Extends adds after)
    (outside : ∀ task, adds task → scope.hasTask task = false)
    (status : after.statuses.get? scope.key = world.statuses.get? scope.key) :
    after.lane scope = world.lane scope := by
  obtain ⟨added, tasks, kind⟩ := goesOn
  have unseen : added.filter scope.hasTask = [] := by
    rw [List.filter_eq_nil_iff]
    intro task member
    simp [outside task (kind task member)]
  rw [lane, lane, status, tasks, List.filter_append, unseen, List.append_nil]

theorem lane_refuse (ticket : Nat) (route : Option Routing.Route) (error : Http.ApiError) :
    (world.refuse ticket route error).lane scope = world.lane scope := by
  rw [lane, lane, tasks_refuse, statuses_refuse]

theorem lane_push {task : Task} (ours : scope.hasTask task = true) :
    (world.push task).lane scope =
      { world.lane scope with requests := (world.lane scope).requests ++ [task] } := by
  simp [lane, push, ours]

/-- Only requests in the scope do anything that is seen. -/
theorem moveEffects_eq_nil {move : Move}
    (noArrival : ∀ {ticket head pieces}, served? move = some (ticket, head, pieces) →
      scope.hasRequest engine ticket head = false)
    (noTurn : ∀ {task}, world.resumed? move = some task → scope.hasTask task = false) :
    world.moveEffects engine scope move = [] := by
  have unattempted : (world.attempted? engine move).filter
      (fun (job, _) => scope.has job.ticket job.route) = none := by
    rw [Option.filter_eq_none_iff]
    rintro ⟨job, exchange⟩ attempts
    obtain ⟨phase, wake, going, -⟩ := attempted?_eq_some_iff.mp attempts
    have outside : scope.has job.ticket job.route = false := noTurn going
    simp [outside]
  have unanswered : (world.discharged engine move).filter
      (fun discharge => scope.hasDuty discharge.duty) = [] := by
    rw [List.filter_eq_nil_iff]
    intro discharge given
    cases discharges_of_mem given with
    | @concluded job phase wake response going responds =>
        have outside : scope.has job.ticket job.route = false := noTurn going
        simp [Scope.hasDuty, Job.duty, outside]
    | @refused ticket head pieces refusal served refuses =>
        have outside : (engine.table.match? head.uri.path).any (scope.has ticket) = false :=
          noArrival served
        simp [Scope.hasDuty, Arrival.duty, outside]
    | page => simp [Scope.hasDuty, Duty.plain]
    | round => simp [Scope.hasDuty, Duty.plain]
  rw [moveEffects, unattempted, unanswered]
  rfl

/-- A request in the scope arrives. -/
theorem drives_arrival {move : Move} {ticket : Nat} {head : Head} {pieces : List BodyPiece}
    (served : served? move = some (ticket, head, pieces))
    (arrives : scope.hasRequest engine ticket head = true) :
    (world.lane scope).Drives engine scope [(world.now, .arrival ticket head pieces)]
      ((world.moveEffects engine scope move).map (world.now, ·))
      ((world.move engine move).lane scope) := by
  have known := scope.dispatch_lane arrives world
  have owes : scope.hasDuty (Arrival.duty engine ⟨ticket, head, pieces, world⟩) = true := arrives
  have unattempted : world.attempted? engine move = none := by
    rw [attempted?, resumed?_of_served served]
  rw [move_eq_serve engine world served]
  cases dispatched : engine.dispatch world.statuses world.now head with
  | error refusal =>
      have answer : world.discharged engine move =
          [⟨Arrival.duty engine ⟨ticket, head, pieces, world⟩, some (.ofError refusal.error),
            0⟩] := by
        rw [discharged_of_served served]
        simp only [Arrival.discharged, dispatched]
      refine .single ?_ ?_
      · rw [serve_of_refused dispatched, lane_refuse, Lane.after]
        simp only [known, dispatched]
      · rw [moveEffects, unattempted, answer, Lane.effects]
        simp only [known, dispatched, List.filter_cons, owes]
        rfl
  | ok route =>
      have bound := (dispatch_eq_ok_iff.mp dispatched).1
      have ours : scope.hasTask (readingTask engine world.now ticket head pieces route) = true := by
        simp only [Scope.hasRequest, bound.matched, Option.any_some] at arrives
        exact arrives
      have noAnswer : world.discharged engine move = [] := by
        rw [discharged_of_served served]
        simp only [Arrival.discharged, dispatched]
      refine .single ?_ ?_
      · have waits : world.serve engine ticket head pieces =
            world.push (readingTask engine world.now ticket head pieces route) :=
          serve_of_admitted dispatched ..
        rw [waits, lane_push ours, Lane.after]
        simp only [known, dispatched]
      · rw [moveEffects, unattempted, noAnswer, Lane.effects]
        simp only [known, dispatched]
        rfl

/-- A request in the scope that goes on changes the status by what is recorded for its backend. -/
theorem status_turn {move : Move} {job : Job} {phase : Phase} {wake : Instant}
    (going : world.resumed? move = some (.request job phase wake))
    (ours : scope.has job.ticket job.route = true) :
    (world.move engine move).statuses.get? scope.key =
      ((job.action engine world.now phase).events job).foldl
        (fun status event => status.map (event.change engine.circuitPolicy world.now))
        (world.statuses.get? scope.key) := by
  have about : ((job.action engine world.now phase).events job).filter (·.key == scope.key) =
      (job.action engine world.now phase).events job := by
    rw [List.filter_eq_self]
    intro event member
    simp only [Scope.has, Bool.and_eq_true] at ours
    cases acts : job.action engine world.now phase with
    | finish startedAt outcome =>
        rw [acts] at member
        rw [List.mem_singleton.mp member]
        exact ours.2
    | _ => rw [acts] at member; cases member
  rw [statuses_move, events, going, StatusEvent.get?_foldl_apply]
  simp only [Task.events, about]

/-- A request in the scope that goes on is taken off the list, and put behind it if it waits
again. -/
theorem requests_turn {index : Nat} {job : Job} {phase : Phase} {wake : Instant}
    (found : world.tasks[index]? = some (.request job phase wake))
    (ours : scope.has job.ticket job.route = true) :
    (((world.without index).resume engine (.request job phase wake)).lane scope).requests =
      (world.lane scope).requests.eraseIdx (world.positionOf scope (.run index)) ++
        ((job.action engine world.now phase).nextTask? world.now job
          (world.turnReply engine (.request job phase wake))).toList := by
  let action := job.action engine world.now phase
  let reply := world.turnReply engine (.request job phase wake)
  obtain ⟨opened, performed⟩ := (world.without index).tasks_perform engine job action
  have tasks : ((world.without index).resume engine (.request job phase wake)).tasks =
      world.tasks.eraseIdx index ++ (action.nextTask? world.now job reply).toList ++
        opened.map .openedCircuit := by
    rw [resume, resumeRequest_eq_perform]
    exact performed
  have own : (opened.map Task.openedCircuit).filter scope.hasTask = [] := by
    simp [List.filter_eq_nil_iff, Scope.hasTask]
  have next : (action.nextTask? world.now job reply).toList.filter scope.hasTask =
      (action.nextTask? world.now job reply).toList := by
    rw [List.filter_eq_self]
    intro task member
    obtain ⟨⟨phase, wake⟩, -, rfl⟩ := Option.map_eq_some_iff.mp (Option.mem_toList.mp member)
    exact ours
  simp only [lane, tasks, List.filter_append, own, List.append_nil, next]
  rw [List.filter_eraseIdx_of_keep found ours]
  rfl

/-- A request in the scope goes on. -/
theorem drives_turn {move : Move} {job : Job} {phase : Phase} {wake : Instant}
    (going : world.resumed? move = some (.request job phase wake))
    (ours : scope.has job.ticket job.route = true) :
    (world.lane scope).Drives engine scope
      [(world.now, .turn (world.positionOf scope move)
        (world.turnReply engine (.request job phase wake)))]
      ((world.moveEffects engine scope move).map (world.now, ·))
      ((world.move engine move).lane scope) := by
  obtain ⟨index, rfl, found, resumes⟩ := move_eq_resume engine going
  have position : (world.lane scope).requests[world.positionOf scope (.run index)]? =
      some (.request job phase wake) := List.getElem?_filter_countP found ours
  refine .single ?_ ?_
  · simp only [Lane.after, position]
    rw [lane, Lane.mk.injEq]
    refine ⟨status_turn going ours, ?_⟩
    rw [resumes]
    exact requests_turn found ours
  · simp only [moveEffects, attempted?, discharged, going, Lane.effects, position, Task.discharged]
    cases acts : job.action engine world.now phase with
    | send exchange => simp [ours, Action.discharged, Action.response?]
    | _ => simp [Action.discharged, Action.response?, Scope.hasDuty, Job.duty, ours]

/-- A task outside the scope leaves only tasks outside the scope behind. -/
theorem hasTask_of_spawns {task next : Task} {now : Instant} (outside : scope.hasTask task = false)
    (spawns : task.Spawns engine now next) : scope.hasTask next = false := by
  cases task with
  | request job phase wake =>
      rcases spawns with own | ⟨exchange, -, nextPhase, nextWake, rfl, -⟩
      · exact hasTask_of_background own
      · exact outside
  | _ => exact hasTask_of_background spawns

/-- A request outside the scope arrives. -/
theorem lane_serve {ticket : Nat} {head : Head}
    (elsewhere : scope.hasRequest engine ticket head = false) (pieces : List BodyPiece) :
    (world.serve engine ticket head pieces).lane scope = world.lane scope := by
  refine lane_of_extends (world.extends_serve engine ticket head pieces) ?_ (by simp)
  rintro task ⟨route, admitted, rfl⟩
  have matched := (dispatch_eq_ok_iff.mp admitted).1.matched
  simp only [Scope.hasRequest, matched, Option.any_some] at elsewhere
  exact elsewhere

/-- A task outside the scope goes on: it may change the status. -/
theorem lane_resume {move : Move} {task : Task} (going : world.resumed? move = some task)
    (outside : scope.hasTask task = false) :
    (world.move engine move).lane scope =
      { world.lane scope with
        status := ((task.events engine world.now).filter (·.key == scope.key)).foldl
          (fun status event => status.map (event.change engine.circuitPolicy world.now))
          (world.lane scope).status } := by
  obtain ⟨index, rfl, found, resumes⟩ := move_eq_resume engine going
  have status : (world.move engine (.run index)).statuses.get? scope.key =
      ((task.events engine world.now).filter (·.key == scope.key)).foldl
        (fun status event => status.map (event.change engine.circuitPolicy world.now))
        (world.statuses.get? scope.key) := by
    rw [statuses_move, events, going, StatusEvent.get?_foldl_apply]
  obtain ⟨added, tasks, kind⟩ := extends_resume engine (world.without index) task
  have unseen : added.filter scope.hasTask = [] := by
    rw [List.filter_eq_nil_iff]
    intro next member
    simp [hasTask_of_spawns outside (kind next member)]
  rw [lane, status, resumes, tasks, List.filter_append, unseen, List.append_nil, without,
    List.filter_eraseIdx_of_not_keep found outside]
  rfl

/-- Nothing happens to any request. -/
theorem lane_idle {move : Move} (noArrival : served? move = none)
    (idle : world.resumed? move = none) :
    (world.move engine move).lane scope = world.lane scope := by
  refine lane_of_extends (world.extends_move engine idle) ?_ ?_
  · intro task spawned
    cases spawned with
    | background own => exact hasTask_of_background own
    | arrival served => rw [noArrival] at served; cases served
    | resumption going => rw [idle] at going; cases going
  · rw [statuses_move, events, idle]
    rfl

/-- The law of a move. -/
theorem drives_move (engine : Engine) (scope : Scope) (world : World) (move : Move) :
    (world.lane scope).Drives engine scope
      ((world.moveInputs engine scope move).map (world.now, ·))
      ((world.moveEffects engine scope move).map (world.now, ·))
      ((world.move engine move).lane scope) := by
  cases arrives : served? move with
  | some served =>
      obtain ⟨ticket, head, pieces⟩ := served
      have idle : world.resumed? move = none := resumed?_of_served arrives
      cases inScope : scope.hasRequest engine ticket head with
      | true =>
          simp only [moveInputs, arrives, inScope, if_true]
          exact drives_arrival arrives inScope
      | false =>
          have silent : world.moveEffects engine scope move = [] :=
            moveEffects_eq_nil (by simp [arrives, inScope]) (by simp [idle])
          have same : (world.move engine move).lane scope = world.lane scope := by
            rw [move_eq_serve engine world arrives]
            exact lane_serve inScope pieces
          simp only [moveInputs, arrives, inScope, silent, same]
          exact .refl _
  | none =>
      cases going : world.resumed? move with
      | none =>
          have silent : world.moveEffects engine scope move = [] :=
            moveEffects_eq_nil (by simp [arrives]) (by simp [going])
          simp only [moveInputs, arrives, going, silent, lane_idle arrives going]
          exact .refl _
      | some task =>
          cases inScope : scope.hasTask task with
          | true =>
              simp only [moveInputs, arrives, going, inScope, if_true]
              cases task with
              | request job phase wake => exact drives_turn going inScope
              | _ => cases inScope
          | false =>
              have silent : world.moveEffects engine scope move = [] :=
                moveEffects_eq_nil (by simp [arrives]) (by simp [going, inScope])
              simp only [moveInputs, arrives, going, inScope, silent, lane_resume going inScope,
                Bool.false_eq_true, if_false, List.map_map, List.map_nil]
              exact .told _ _ _

/-! ## Executions -/

variable (engine scope world)

/-- What happens to a lane. -/
def inputs : Happening → List Lane.Input
  | .move move => world.moveInputs engine scope move
  | .delay _ => []
  | .report key finding => if key = scope.key then [.told (.noted key finding)] else []

/-- What the requests of a scope do. -/
def effects : Happening → List Lane.Effect
  | .move move => world.moveEffects engine scope move
  | _ => []

/-- What happens to a lane in an execution, with the instants. -/
def inputsOf (happenings : List Happening) : List (Instant × Lane.Input) :=
  (world.moments engine happenings).flatMap fun moment =>
    (moment.world.inputs engine scope moment.happening).map (moment.world.now, ·)

theorem inputsOf_cons (happening : Happening) (rest : List Happening) :
    world.inputsOf engine scope (happening :: rest) =
      (world.inputs engine scope happening).map (world.now, ·) ++
        (world.after engine happening).inputsOf engine scope rest := rfl

theorem inputsOf_append (before rest : List Happening) :
    world.inputsOf engine scope (before ++ rest) = world.inputsOf engine scope before ++
      (world.through engine before).inputsOf engine scope rest := by
  rw [inputsOf, moments_append, List.flatMap_append]
  rfl

/-- What the requests of a scope do in an execution, with the instants. -/
def effectsOf (happenings : List Happening) : List (Instant × Lane.Effect) :=
  (world.moments engine happenings).flatMap fun moment =>
    (moment.world.effects engine scope moment.happening).map (moment.world.now, ·)

theorem drives_after (happening : Happening) :
    (world.lane scope).Drives engine scope
      ((world.inputs engine scope happening).map (world.now, ·))
      ((world.effects engine scope happening).map (world.now, ·))
      ((world.after engine happening).lane scope) := by
  cases happening with
  | move move => exact drives_move engine scope world move
  | delay instant =>
      have same : (world.after engine (.delay instant)).lane scope = world.lane scope := by
        simp only [after]
        split <;> rfl
      rw [same]
      exact .refl _
  | report key finding =>
      by_cases about : key = scope.key
      · subst about
        simp only [inputs, if_true]
        refine .single ?_ rfl
        simp [after, lane, Lane.after, StatusEvent.change]
      · have same : (world.after engine (.report key finding)).lane scope = world.lane scope := by
          simp [after, lane, StatusBook.get?_update_of_ne (Ne.symm about)]
        simp only [inputs, about, if_false, same]
        exact .refl _

/-- In every execution the inputs of a lane make it and its effects. -/
theorem drives_through (happenings : List Happening) :
    (world.lane scope).Drives engine scope (world.inputsOf engine scope happenings)
      (world.effectsOf engine scope happenings) ((world.through engine happenings).lane scope) := by
  induction happenings generalizing world with
  | nil => exact .refl _
  | cons happening rest inductionHypothesis =>
      exact (world.drives_after engine scope happening).trans (inductionHypothesis _)

end World

/-- Executions that do the same to a lane leave it the same, and it does the same in them. -/
theorem lane_eq_of_inputs {engine : Engine} {scope : Scope} {met otherMet : World}
    {later otherLater : List Happening}
    (sameLane : met.lane scope = otherMet.lane scope)
    (sameInputs : met.inputsOf engine scope later = otherMet.inputsOf engine scope otherLater) :
    met.effectsOf engine scope later = otherMet.effectsOf engine scope otherLater ∧
      (met.through engine later).lane scope = (otherMet.through engine otherLater).lane scope := by
  have driven := otherMet.drives_through engine scope otherLater
  rw [← sameInputs, ← sameLane] at driven
  exact (met.drives_through engine scope later).unique driven

end ApiGateway.Engine
