import ApiGateway.Engine.Schedule
import ApiGateway.Proofs.Engine.BodyReading
import ApiGateway.Proofs.Engine.Continuation
import ApiGateway.Proofs.Engine.Trace
import Mathlib.Data.List.Nodup
import Mathlib.Data.List.Perm.Basic

/-!
# Who is owed an answer

Everybody who waits for an answer brings a `Duty`. A duty is taken up when somebody
arrives, it is open while a task of theirs is under way, and it is discharged by one
answer. `World.Settles` is the law of a part of a move: the duties that are open
afterwards and those that were discharged are, each once, the duties that were open
before and those that were taken up; nothing else answers anybody or observes
anything. `settles_move` proves it of every move and `settles_through` of every
execution.
-/

namespace ApiGateway.Engine

open Http (Response)

/-- The route whose backend a request is for: that of its path, if mode and method let it
through. -/
def boundRoute? (engine : Engine) (head : Head) : Option Routing.Route :=
  if engine.mode = .proxyAll then
    (engine.table.match? head.uri.path).filter fun route => route.allows head.method
  else none

theorem boundRoute?_eq_some_iff {engine : Engine} {head : Head} {route : Routing.Route} :
    engine.boundRoute? head = some route ↔ engine.Binds head route := by
  simp only [boundRoute?]
  constructor
  · intro bound
    split at bound
    · next forwarding =>
        obtain ⟨matched, allowed⟩ := Option.filter_eq_some_iff.mp bound
        exact ⟨forwarding, matched, allowed⟩
    · cases bound
  · intro bound
    rw [if_pos bound.forwarding]
    exact Option.filter_eq_some_iff.mpr ⟨bound.matched, bound.allowed⟩

/-- The answer to a refused request counts for the route that the request is bound to. -/
theorem countedRoute?_of_refused {engine : Engine} {statuses : Backend.StatusBook}
    {now : Instant} {head : Head} {refusal : Refusal}
    (refused : engine.dispatch statuses now head = .error refusal) :
    refusal.countedRoute? = engine.boundRoute? head := by
  simp only [dispatch] at refused
  split at refused
  · next off =>
      cases refused
      exact (if_neg off).symm
  · next forwarding =>
      rw [boundRoute?, if_pos (Decidable.not_not.mp forwarding)]
      split at refused
      · next unmatched =>
          cases refused
          rw [unmatched]
          rfl
      · next route matched =>
          rw [matched]
          split at refused
          · next excluded =>
              cases refused
              have notAllowed : route.allows head.method = false := by simpa using excluded
              simp [Option.filter, notAllowed, Refusal.countedRoute?]
          · next included =>
              have allowed : route.allows head.method = true := by simpa using included
              simp only [Option.filter, allowed, if_true]
              split at refused
              · cases refused
                rfl
              · split at refused
                · cases refused
                  rfl
                · cases refused

/-! ## Duties -/

/-- An answer that somebody is owed. -/
structure Duty where
  ticket : Nat
  /-- The route of a request's path. -/
  route : Option Routing.Route
  /-- The answer counts for the route. -/
  counts : Bool
  /-- The answer is recorded for the backend of the route. -/
  feeds : Bool

namespace Duty

/-- An answer that counts for no route. -/
def plain (ticket : Nat) : Duty := ⟨ticket, none, false, false⟩

/-- The name of the route that the answer counts for. -/
def counted (duty : Duty) : Option String :=
  if duty.counts then duty.route.map (·.name) else none

end Duty

/-- An answer that was owed and is given. -/
structure Discharge where
  duty : Duty
  response : Option Response
  latency : Duration

namespace Discharge

def answer (discharge : Discharge) : Answer :=
  ⟨discharge.duty.ticket, discharge.duty.counted, discharge.response⟩

/-- An answer that counts for a route is observed. -/
def observe (metrics : Metrics) (discharge : Discharge) : Metrics :=
  match discharge.duty.counted, discharge.response with
  | some name, some response => metrics.observe name response.status discharge.latency
  | _, _ => metrics

/-- What the circuit of the backend is fed with. -/
def recorded (discharge : Discharge) : Option (String × Bool) :=
  match discharge.duty.feeds, discharge.duty.route, discharge.response with
  | true, some route, some response => some (route.backendKey, response.status < 500)
  | _, _, _ => none

end Discharge

/-- A request that is admitted, and whose whole body then arrives in time. -/
def Arrival.completes (engine : Engine) (arrival : Arrival) : Bool :=
  match engine.dispatch arrival.met.statuses arrival.met.now arrival.head with
  | .error _ => false
  | .ok route =>
    (readBody engine.maxBodyBytes arrival.met.now (arrival.met.now + route.timeout)
      arrival.pieces).result.isOk

/-- What it takes to complete: admission, and a body that arrives in time and fits. -/
theorem completes_iff {engine : Engine} {arrival : Arrival} :
    arrival.completes engine = true ↔
      ∃ route, engine.dispatch arrival.met.statuses arrival.met.now arrival.head = .ok route ∧
        Arrives route.timeout arrival.pieces ∧
          ¬ Oversized engine.maxBodyBytes route.timeout arrival.pieces := by
  cases dispatched : engine.dispatch arrival.met.statuses arrival.met.now arrival.head with
  | error refusal => simp [Arrival.completes, dispatched]
  | ok route =>
      simp only [Arrival.completes, dispatched, Except.ok.injEq, exists_eq_left']
      constructor
      · intro whole
        have fits : ¬ Oversized engine.maxBodyBytes route.timeout arrival.pieces := by
          intro oversized
          rw [readBody_of_oversized _ oversized] at whole
          cases whole
        refine ⟨.of_neither (fun reason broken => ?_) (fun overdue => ?_), fits⟩
        · rw [readBody_of_broken _ broken fits] at whole
          cases whole
        · rw [readBody_of_overdue _ overdue fits] at whole
          cases whole
      · rintro ⟨arrives, fits⟩
        rw [readBody_of_arrives _ arrives fits]
        rfl

/-- The duty that a request brings. -/
def Arrival.duty (engine : Engine) (arrival : Arrival) : Duty where
  ticket := arrival.ticket
  route := engine.table.match? arrival.head.uri.path
  counts := (engine.boundRoute? arrival.head).isSome
  feeds := arrival.completes engine

/-- The body of a request in some phase was not given up. -/
def Phase.isWhole : Phase → Bool
  | reading result => result.isOk
  | _ => true

/-- The body of a request that does something was not given up. -/
def Action.isWhole : Action → Bool
  | reject _ => false
  | _ => true

/-- Only a body that was given up is rejected. -/
theorem isWhole_action (engine : Engine) (now : Instant) (job : Job) (phase : Phase) :
    (job.action engine now phase).isWhole = phase.isWhole := by
  cases phase with
  | reading result =>
      cases result with
      | error fault => rfl
      | ok body =>
          simp only [Job.action]
          split <;> rfl
  | pausing exchange => rfl
  | awaiting exchange outcome =>
      simp only [Job.action]
      split <;> rfl
  | overdue exchange => rfl

/-- The duty of an admitted request. -/
def Job.duty (job : Job) (whole : Bool) : Duty := ⟨job.ticket, some job.route, true, whole⟩

/-- The duty that is open while a task is under way. -/
def Task.duty? : Task → Option Duty
  | request job phase _ => some (job.duty phase.isWhole)
  | round (.requested ticket) _ => some (.plain ticket)
  | _ => none

/-- The duties that are open. -/
def World.duties (world : World) : List Duty := world.tasks.filterMap Task.duty?

/-- What a job discharges by an action. -/
def Action.discharged (engine : Engine) (now : Instant) (job : Job) (action : Action) :
    List Discharge :=
  ((action.response? engine job).map fun response =>
    (⟨job.duty action.isWhole, some response, action.latency now⟩ : Discharge)).toList

/-- What a task discharges that goes on. -/
def Task.discharged (engine : Engine) (now : Instant) : Task → List Discharge
  | request job phase _ => (job.action engine now phase).discharged engine now job
  | round (.requested ticket) checks =>
    if checks.all fun check => check.due ≤ now then [⟨.plain ticket, none, 0⟩] else []
  | _ => []

/-- What is discharged when a request arrives at the proxy. -/
def Arrival.discharged (engine : Engine) (arrival : Arrival) : List Discharge :=
  match engine.dispatch arrival.met.statuses arrival.met.now arrival.head with
  | .error refusal => [⟨arrival.duty engine, some (.ofError refusal.error), 0⟩]
  | .ok _ => []

namespace World

/-- The duties that a move takes up. -/
def takenUp (engine : Engine) (world : World) (move : Move) : List Duty :=
  match served? move with
  | some (ticket, head, pieces) => [Arrival.duty engine ⟨ticket, head, pieces, world⟩]
  | none => move.ticket?.toList.map .plain

/-- The duties that a move discharges. -/
def discharged (engine : Engine) (world : World) (move : Move) : List Discharge :=
  match move with
  | .run _ =>
    match world.resumed? move with
    | some task => task.discharged engine world.now
    | none => []
  | .serve ticket head pieces => Arrival.discharged engine ⟨ticket, head, pieces, world⟩
  | .arrive ticket head pieces =>
    match Page.ofRequest? head.method head.uri.path with
    | some page =>
      [⟨.plain ticket, some (engine.pageResponse world.statuses world.metrics page), 0⟩]
    | none => Arrival.discharged engine ⟨ticket, head, pieces, world⟩
  | _ => []

/-- How somebody comes to be given an answer. -/
inductive Discharges (engine : Engine) (world : World) (move : Move) : Discharge → Prop where
  /-- A request goes on and is over. -/
  | concluded {job : Job} {phase : Phase} {wake : Instant} {response : Response}
      (going : world.resumed? move = some (.request job phase wake))
      (responds : (job.action engine world.now phase).response? engine job = some response) :
      Discharges engine world move ⟨job.duty (job.action engine world.now phase).isWhole,
        some response, (job.action engine world.now phase).latency world.now⟩
  /-- A request is refused on its arrival. -/
  | refused {ticket : Nat} {head : Head} {pieces : List BodyPiece} {refusal : Refusal}
      (served : served? move = some (ticket, head, pieces))
      (refuses : engine.dispatch world.statuses world.now head = .error refusal) :
      Discharges engine world move ⟨Arrival.duty engine ⟨ticket, head, pieces, world⟩,
        some (.ofError refusal.error), 0⟩
  /-- One of the gateway's own pages is asked for. -/
  | page {ticket : Nat} {head : Head} {pieces : List BodyPiece} {page : Page}
      (arrives : move = .arrive ticket head pieces)
      (own : Page.ofRequest? head.method head.uri.path = some page) :
      Discharges engine world move
        ⟨.plain ticket, some (engine.pageResponse world.statuses world.metrics page), 0⟩
  /-- A round of probes is over that was asked for. -/
  | round {ticket : Nat} {checks : List Health.Check}
      (going : world.resumed? move = some (.round (.requested ticket) checks)) :
      Discharges engine world move ⟨.plain ticket, none, 0⟩

theorem discharges_of_arrival {engine : Engine} {world : World} {move : Move} {ticket : Nat}
    {head : Head} {pieces : List BodyPiece} {discharge : Discharge}
    (served : served? move = some (ticket, head, pieces))
    (given : discharge ∈ Arrival.discharged engine ⟨ticket, head, pieces, world⟩) :
    world.Discharges engine move discharge := by
  simp only [Arrival.discharged] at given
  split at given
  · next refusal refuses =>
      rw [List.mem_singleton.mp given]
      exact .refused served refuses
  · cases given

/-- Nobody is given an answer in another way. -/
theorem discharges_of_mem {engine : Engine} {world : World} {move : Move} {discharge : Discharge}
    (given : discharge ∈ world.discharged engine move) :
    world.Discharges engine move discharge := by
  simp only [discharged] at given
  split at given
  · split at given
    · next task going =>
        cases task with
        | request job phase wake =>
            obtain ⟨response, responds, rfl⟩ :=
              Option.map_eq_some_iff.mp (Option.mem_toList.mp given)
            exact .concluded going responds
        | round purpose checks =>
            cases purpose with
            | requested ticket =>
                simp only [Task.discharged] at given
                split at given
                · rw [List.mem_singleton.mp given]
                  exact .round going
                · cases given
            | _ => cases given
        | _ => cases given
    · cases given
  · exact discharges_of_arrival rfl given
  · split at given
    · next own =>
        rw [List.mem_singleton.mp given]
        exact .page rfl own
    · next noPage =>
        refine discharges_of_arrival ?_ given
        simp only [served?, noPage]
  · cases given

/-- Whoever came for a route is given a response. -/
theorem Discharges.response {engine : Engine} {world : World} {move : Move}
    {discharge : Discharge} (discharges : world.Discharges engine move discharge)
    {route : Routing.Route} (routed : discharge.duty.route = some route) :
    ∃ response, discharge.response = some response := by
  cases discharges with
  | @concluded _ _ _ response _ _ => exact ⟨response, rfl⟩
  | @refused _ _ _ refusal _ _ => exact ⟨.ofError refusal.error, rfl⟩
  | page => cases routed
  | round => cases routed

/-- Between two worlds some duties are taken up and some are discharged. -/
structure Settles (before : World) (takenUp : List Duty) (discharged : List Discharge)
    (after : World) : Prop where
  duties : (discharged.map (·.duty) ++ after.duties).Perm (takenUp ++ before.duties)
  answers : after.answers = before.answers ++ discharged.map Discharge.answer
  metrics : after.metrics = discharged.foldl Discharge.observe before.metrics

namespace Settles

variable {first middle last : World} {early late : List Duty} {sooner later : List Discharge}

theorem of_eq (duties : last.duties = first.duties) (answers : last.answers = first.answers)
    (metrics : last.metrics = first.metrics) : first.Settles [] [] last where
  duties := by rw [List.map_nil, List.nil_append, List.nil_append, duties]
  answers := by rw [answers, List.map_nil, List.append_nil]
  metrics := metrics

theorem refl (world : World) : world.Settles [] [] world := .of_eq rfl rfl rfl

theorem trans (prior : first.Settles early sooner middle) (next : middle.Settles late later last) :
    first.Settles (early ++ late) (sooner ++ later) last where
  duties := by
    have moved : (late ++ (sooner.map (·.duty) ++ middle.duties)).Perm
        (late ++ (early ++ first.duties)) := prior.duties.append_left late
    calc ((sooner ++ later).map (·.duty) ++ last.duties).Perm
          (sooner.map (·.duty) ++ (late ++ middle.duties)) := by
            rw [List.map_append, List.append_assoc]
            exact next.duties.append_left _
      _ |>.Perm (late ++ (sooner.map (·.duty) ++ middle.duties)) := by
            rw [← List.append_assoc, ← List.append_assoc]
            exact List.perm_append_comm.append_right _
      _ |>.Perm (late ++ (early ++ first.duties)) := moved
      _ |>.Perm (early ++ late ++ first.duties) := by
            rw [← List.append_assoc]
            exact List.perm_append_comm.append_right _
  answers := by
    rw [next.answers, prior.answers, List.map_append, List.append_assoc]
  metrics := by rw [next.metrics, prior.metrics, List.foldl_append]

/-- A task that is taken off the list first keeps its duty. -/
theorem of_without {world : World} {index : Nat} {task : Task} {discharged : List Discharge}
    (settles : (world.without index).Settles task.duty?.toList discharged last)
    (found : world.tasks[index]? = some task) : world.Settles [] discharged last where
  duties := by
    obtain ⟨inRange, rfl⟩ := List.getElem?_eq_some_iff.mp found
    have owed := (List.getElem_cons_eraseIdx_perm inRange).filterMap Task.duty?
    refine settles.duties.trans ?_
    cases duty : (world.tasks[index]).duty? with
    | none => rwa [List.filterMap_cons_none duty] at owed
    | some due => rwa [List.filterMap_cons_some duty] at owed
  answers := settles.answers
  metrics := settles.metrics

end Settles

/-! ## What each part of a move settles -/

section Parts

variable (engine : Engine) (world : World)

theorem duties_push (task : Task) :
    (world.push task).duties = world.duties ++ task.duty?.toList := by
  simp only [duties, push, List.filterMap_append]
  congr 1

theorem settles_push (task : Task) :
    world.Settles task.duty?.toList [] (world.push task) where
  duties := by
    rw [duties_push, List.map_nil, List.nil_append]
    exact List.perm_append_comm
  answers := by rw [List.map_nil, List.append_nil]; rfl
  metrics := rfl

/-- Tasks of the gateway's own that owe nobody an answer change nothing. -/
theorem settles_of_background {after : World} (own : List Task)
    (tasks : after.tasks = world.tasks ++ own) (owes : ∀ task ∈ own, task.duty? = none)
    (answers : after.answers = world.answers) (metrics : after.metrics = world.metrics) :
    world.Settles [] [] after := by
  refine .of_eq ?_ answers metrics
  rw [duties, tasks, List.filterMap_append, List.filterMap_eq_nil_iff.mpr owes, List.append_nil]
  rfl

theorem settles_answer (duty : Duty) (uncounted : duty.counted = none)
    (response : Option Response) :
    world.Settles [duty] [⟨duty, response, 0⟩] (world.answer duty.ticket none response) where
  duties := List.Perm.refl _
  answers := by simp [answer, Discharge.answer, uncounted]
  metrics := by simp [answer, Discharge.observe, uncounted]

theorem settles_refuse {duty : Duty} {route : Option Routing.Route}
    (counted : duty.counted = route.map (·.name)) (error : Http.ApiError) :
    world.Settles [duty] [⟨duty, some (.ofError error), 0⟩]
      (world.refuse duty.ticket route error) := by
  cases route with
  | none => exact world.settles_answer duty counted _
  | some route =>
      constructor
      · exact List.Perm.refl _
      · simp [refuse, answer, observe, Discharge.answer, counted]
      · simp [refuse, answer, observe, Discharge.observe, counted]

/-- A request that does one thing either goes on with its duty or discharges it. -/
theorem duty_of_action (job : Job) (action : Action) (reply : AttemptEnd) :
    (action.discharged engine world.now job).map (·.duty) ++
        (action.nextTask? world.now job reply).toList.filterMap Task.duty? =
      [job.duty action.isWhole] := by
  cases action with
  | reject fault => rfl
  | send exchange => cases reply <;> rfl
  | pause exchange length =>
      simp only [Action.nextTask?, Action.next?]
      split <;> rfl
  | finish startedAt outcome => rfl

/-- A request that does one thing keeps its duty open until it is over. -/
theorem settles_perform (job : Job) (action : Action) :
    world.Settles [job.duty action.isWhole] (action.discharged engine world.now job)
      (world.perform engine job action) where
  duties := by
    obtain ⟨opened, tasks⟩ := world.tasks_perform engine job action
    have silent : (opened.map Task.openedCircuit).filterMap Task.duty? = [] := by
      simp [List.filterMap_map, Function.comp_def, Task.duty?]
    have goesOn := world.duty_of_action engine job action (world.reply? engine job action)
    rw [← goesOn, duties, tasks, List.filterMap_append, List.filterMap_append, silent,
      List.append_nil, List.append_assoc]
    exact List.Perm.append_left _ List.perm_append_comm
  answers := by
    rw [answers_perform, Action.discharged]
    cases action.response? engine job <;> rfl
  metrics := by
    rw [metrics_perform, Action.discharged]
    cases action.response? engine job <;> rfl

theorem counted_duty (arrival : Arrival) :
    (arrival.duty engine).counted = (engine.boundRoute? arrival.head).map (·.name) := by
  cases bound : engine.boundRoute? arrival.head with
  | none => simp [Arrival.duty, Duty.counted, bound]
  | some route =>
      have matched := (boundRoute?_eq_some_iff.mp bound).matched
      simp [Arrival.duty, Duty.counted, bound, matched]

/-- The duty of a request that is admitted is that of its job. -/
theorem duty_of_admitted (arrival : Arrival) {route : Routing.Route}
    (admitted : engine.dispatch arrival.met.statuses arrival.met.now arrival.head = .ok route) :
    (readingTask engine arrival.met.now arrival.ticket arrival.head arrival.pieces route).duty? =
      some (arrival.duty engine) := by
  have bound := (dispatch_eq_ok_iff.mp admitted).1
  have counts := boundRoute?_eq_some_iff.mpr bound
  simp [readingTask, Task.duty?, Job.duty, Arrival.duty, Arrival.completes, Phase.isWhole,
    bound.matched, counts, admitted]

/-- A request that arrives is answered at once, or its duty is open. -/
theorem settles_serve (ticket : Nat) (head : Head) (pieces : List BodyPiece) :
    world.Settles [Arrival.duty engine ⟨ticket, head, pieces, world⟩]
      (Arrival.discharged engine ⟨ticket, head, pieces, world⟩)
      (world.serve engine ticket head pieces) := by
  cases dispatched : engine.dispatch world.statuses world.now head with
  | error refusal =>
      have counted := counted_duty engine ⟨ticket, head, pieces, world⟩
      rw [← countedRoute?_of_refused dispatched] at counted
      rw [serve_of_refused dispatched]
      simp only [Arrival.discharged, dispatched]
      exact world.settles_refuse counted refusal.error
  | ok route =>
      rw [serve_of_admitted dispatched]
      have opens := duty_of_admitted engine ⟨ticket, head, pieces, world⟩ dispatched
      have waits := world.settles_push (readingTask engine world.now ticket head pieces route)
      rw [opens] at waits
      simp only [Arrival.discharged, dispatched]
      exact waits

/-! ### Probes -/

theorem settles_launchProbe (backend : Backend) :
    world.Settles [] [] (world.launchProbe backend).1 := .of_eq rfl rfl rfl

theorem settles_launchAll (backends : List Backend) :
    world.Settles [] [] (launchAll backends world).1 := by
  induction backends generalizing world with
  | nil => exact .refl world
  | cons backend rest inductionHypothesis =>
      exact (world.settles_launchProbe backend).trans (inductionHypothesis _)

theorem settles_settleChecks (checks : List Health.Check) :
    world.Settles [] [] (checks.foldl settleCheck world) := by
  induction checks generalizing world with
  | nil => exact .refl world
  | cons check rest inductionHypothesis =>
      have settled : world.Settles [] [] (world.settleCheck check) := .of_eq rfl rfl rfl
      exact settled.trans (inductionHypothesis _)

/-- A round owes its end to somebody if somebody asked for it. -/
theorem settles_startRound (purpose : RoundPurpose) :
    world.Settles (Task.round purpose []).duty?.toList [] (world.startRound engine purpose) := by
  have launched := world.settles_launchAll engine.table.backends
  have goesOn := launched.trans
    (settles_push _ (.round purpose (launchAll engine.table.backends world).2))
  cases purpose <;> exact goesOn

/-- The end of a round answers the one who asked for it. -/
theorem settles_endRound (purpose : RoundPurpose) :
    world.Settles (Task.round purpose []).duty?.toList
      ((Task.round purpose []).discharged engine world.now)
      (world.endRound engine purpose) := by
  cases purpose with
  | initial =>
      exact world.settles_of_background [.loopWaiting (world.now + interval engine)] rfl
        (by simp [Task.duty?]) rfl rfl
  | periodic next =>
      exact world.settles_of_background [.loopWaiting next] rfl (by simp [Task.duty?]) rfl rfl
  | requested ticket => exact world.settles_answer (.plain ticket) rfl none

theorem settles_resumeRound (purpose : RoundPurpose) (checks : List Health.Check) :
    world.Settles (Task.round purpose checks).duty?.toList
      ((Task.round purpose checks).discharged engine world.now)
      (world.resumeRound engine purpose checks) := by
  have settled := world.settles_settleChecks (checks.filter fun check => check.due ≤ world.now)
  have isOver : (checks.filter fun check => !(check.due ≤ world.now)).isEmpty =
      checks.all fun check => check.due ≤ world.now := by
    rw [Bool.eq_iff_iff]
    simp [List.filter_eq_nil_iff]
  simp only [resumeRound, isOver]
  split
  · next finished =>
      have ends := settled.trans (settles_endRound engine _ purpose)
      cases purpose <;> simpa [Task.discharged, Task.duty?, finished] using ends
  · next under =>
      let pending := checks.filter fun check => !(check.due ≤ world.now)
      have goesOn := settled.trans (settles_push _ (.round purpose pending))
      cases purpose <;> simpa [Task.discharged, Task.duty?, under] using goesOn

theorem settles_start : world.Settles [] [] (world.start engine) := by
  simp only [start]
  split
  · exact .refl world
  · split
    · exact .of_eq rfl rfl rfl
    · exact world.settles_of_background [.loopStart] rfl (by simp [Task.duty?]) rfl rfl

/-! ### Moves -/

/-- A task that goes on either keeps its duty open or discharges it. -/
theorem settles_resume (task : Task) :
    world.Settles task.duty?.toList (task.discharged engine world.now)
      (world.resume engine task) := by
  cases task with
  | request job phase wake =>
      have acts := world.settles_perform engine job (job.action engine world.now phase)
      rw [isWhole_action] at acts
      rw [resume, resumeRequest_eq_perform]
      exact acts
  | openedCircuit backend =>
      simp only [resume]
      split
      · next check launched =>
          exact (world.settles_launchProbe backend).trans (settles_push _ (.probe check))
      · exact world.settles_launchProbe backend
  | probe check => exact .of_eq rfl rfl rfl
  | loopStart => exact world.settles_startRound engine .initial
  | round purpose checks => exact world.settles_resumeRound engine purpose checks
  | loopWaiting next =>
      simp only [resume, resumeLoop]
      split
      · exact .refl world
      · exact world.settles_startRound engine (.periodic (next + interval engine))

/-- A move takes up the duty of the one who arrives, and it discharges those that it answers. -/
theorem settles_move (move : Move) :
    world.Settles (world.takenUp engine move) (world.discharged engine move)
      (world.move engine move) := by
  cases move with
  | arrive ticket head pieces =>
      simp only [takenUp, discharged, World.move, handle, served?]
      cases Page.ofRequest? head.method head.uri.path with
      | some page => exact world.settles_answer (.plain ticket) rfl _
      | none => exact world.settles_serve engine ticket head pieces
  | serve ticket head pieces => exact world.settles_serve engine ticket head pieces
  | run index =>
      cases going : world.resumed? (.run index) with
      | none =>
          rw [move_run_eq_self engine going]
          simp only [takenUp, discharged, going]
          exact .refl world
      | some task =>
          obtain ⟨_, same, found, resumes⟩ := move_eq_resume engine going
          cases same
          simp only [takenUp, discharged, going]
          rw [resumes]
          exact ((world.without index).settles_resume engine task).of_without found
  | advance instant =>
      simp only [World.move, advance]
      split <;> exact .of_eq rfl rfl rfl
  | start => exact world.settles_start engine
  | shutdown => exact .of_eq rfl rfl rfl
  | probeAll ticket => exact world.settles_startRound engine (.requested ticket)
  | network network => exact .of_eq rfl rfl rfl

end Parts

end World

/-! ## Executions -/

namespace Moment

/-- The duties that are taken up at a moment. -/
def takenUp (engine : Engine) (moment : Moment) : List Duty :=
  moment.happening.move?.toList.flatMap (moment.world.takenUp engine)

/-- The duties that are discharged at a moment. -/
def discharged (engine : Engine) (moment : Moment) : List Discharge :=
  moment.happening.move?.toList.flatMap (moment.world.discharged engine)

end Moment

namespace World

variable (engine : Engine) (world : World)

/-- The duties that an execution takes up. -/
def duesOf (happenings : List Happening) : List Duty :=
  (world.moments engine happenings).flatMap (Moment.takenUp engine)

/-- The duties that an execution discharges. -/
def dischargesOf (happenings : List Happening) : List Discharge :=
  (world.moments engine happenings).flatMap (Moment.discharged engine)

variable {engine world} in
/-- Whoever arrives takes up a duty. -/
theorem duty_mem_duesOf {happenings : List Happening} {arrival : Arrival}
    (arrived : arrival ∈ world.arrivals engine happenings) :
    arrival.duty engine ∈ world.duesOf engine happenings := by
  obtain ⟨moment, member, arrives⟩ := List.mem_filterMap.mp arrived
  obtain ⟨⟨ticket, head, pieces⟩, served, rfl⟩ := Option.map_eq_some_iff.mp arrives
  obtain ⟨move, made, served⟩ := Option.bind_eq_some_iff.mp served
  refine List.mem_flatMap.mpr ⟨moment, member, ?_⟩
  simp [Moment.takenUp, made, takenUp, served]

variable {engine world} in
/-- Whatever an execution discharges was discharged by a move of it. -/
theorem discharges_of_mem_dischargesOf {happenings : List Happening} {discharge : Discharge}
    (given : discharge ∈ world.dischargesOf engine happenings) :
    ∃ moment ∈ world.moments engine happenings, ∃ move, moment.happening = .move move ∧
      moment.world.Discharges engine move discharge := by
  obtain ⟨moment, member, discharged⟩ := List.mem_flatMap.mp given
  obtain ⟨move, made, discharged⟩ := List.mem_flatMap.mp discharged
  refine ⟨moment, member, move, ?_, discharges_of_mem discharged⟩
  have happened := Option.mem_toList.mp made
  cases happening : moment.happening with
  | move other =>
      rw [happening] at happened
      cases happened
      rfl
  | delay instant => rw [happening] at happened; cases happened
  | report key finding => rw [happening] at happened; cases happened

theorem settles_after (happening : Happening) :
    world.Settles (Moment.takenUp engine ⟨world, happening⟩)
      (Moment.discharged engine ⟨world, happening⟩) (world.after engine happening) := by
  cases happening with
  | move move =>
      have moved := world.settles_move engine move
      simpa [Moment.takenUp, Moment.discharged, Happening.move?, after] using moved
  | delay instant =>
      simp only [after]
      split <;> exact .of_eq rfl rfl rfl
  | report key finding => exact .of_eq rfl rfl rfl

/-- In every execution the duties that are open at its end and those that it discharged are
those that were open at its start and those that it took up. -/
theorem settles_through (happenings : List Happening) :
    world.Settles (world.duesOf engine happenings) (world.dischargesOf engine happenings)
      (world.through engine happenings) := by
  induction happenings generalizing world with
  | nil => exact .refl world
  | cons happening rest inductionHypothesis =>
      exact (world.settles_after engine happening).trans (inductionHypothesis _)

/-- Whoever waits for an answer brings one duty. -/
theorem tickets_takenUp (move : Move) :
    (world.takenUp engine move).map (·.ticket) = move.ticket?.toList := by
  simp only [takenUp]
  split
  · next served =>
      rw [ticket?_of_served served]
      rfl
  · rw [List.map_map]
    exact List.map_id _

theorem tickets_duesOf (happenings : List Happening) :
    (world.duesOf engine happenings).map (·.ticket) = tickets happenings := by
  induction happenings generalizing world with
  | nil => rfl
  | cons happening rest inductionHypothesis =>
      have later := inductionHypothesis (world.after engine happening)
      simp only [duesOf, moments, List.flatMap_cons, List.map_append, tickets] at later ⊢
      rw [later]
      cases happening with
      | move move =>
          have now := world.tickets_takenUp engine move
          cases ticket : move.ticket? <;>
            simp [Moment.takenUp, Happening.ticket?, Happening.move?, now, ticket]
      | delay instant => rfl
      | report key finding => rfl

end World

/-! ## Executions in which everybody has a ticket of their own -/

section Distinct

variable {engine : Engine} {network : Network} {start : Instant} {happenings : List Happening}
  {world : World} (reached : (World.initial engine network start).through engine happenings = world)
include reached

theorem World.settles_initial : (World.initial engine network start).Settles
    ((World.initial engine network start).duesOf engine happenings)
    ((World.initial engine network start).dischargesOf engine happenings) world := by
  rw [← reached]
  exact World.settles_through ..

/-- From the start on every duty is open or was discharged. -/
theorem duties_of_reached :
    (((World.initial engine network start).dischargesOf engine happenings).map (·.duty) ++
      world.duties).Perm ((World.initial engine network start).duesOf engine happenings) := by
  have settled := (World.settles_initial reached).duties
  rwa [show (World.initial engine network start).duties = [] from rfl, List.append_nil] at settled

/-- From the start on the answers are those that were owed. -/
theorem answers_of_reached : world.answers =
    ((World.initial engine network start).dischargesOf engine happenings).map
      Discharge.answer :=
  (World.settles_initial reached).answers

variable (distinct : (tickets happenings).Nodup)
include distinct

theorem nodup_duties : ((((World.initial engine network start).dischargesOf engine
    happenings).map (·.duty) ++ world.duties).map (·.ticket)).Nodup := by
  have same := (duties_of_reached reached).map (·.ticket)
  rw [World.tickets_duesOf] at same
  exact same.nodup_iff.mpr distinct

omit reached in
/-- Two duties of one ticket are one duty. -/
theorem duty_unique {duty other : Duty}
    (taken : duty ∈ (World.initial engine network start).duesOf engine happenings)
    (alsoTaken : other ∈ (World.initial engine network start).duesOf engine happenings)
    (same : duty.ticket = other.ticket) : duty = other := by
  rw [← World.tickets_duesOf engine (.initial engine network start)] at distinct
  exact List.inj_on_of_nodup_map distinct taken alsoTaken same

/-- Who was given an answer has that answer and no other. -/
theorem answered?_of_discharged {discharge : Discharge}
    (given : discharge ∈ (World.initial engine network start).dischargesOf engine happenings) :
    world.answered? discharge.duty.ticket = some discharge.answer := by
  have apart := nodup_duties reached distinct
  rw [List.map_append, List.nodup_append, List.map_map] at apart
  have isAnswer : discharge.answer ∈ world.answers := by
    rw [answers_of_reached reached]
    exact List.mem_map_of_mem given
  cases found : world.answered? discharge.duty.ticket with
  | none =>
      have unanswered := List.find?_eq_none.mp found _ isAnswer
      exact absurd (beq_self_eq_true _) unanswered
  | some answer =>
      have same : answer.ticket = discharge.duty.ticket := by
        rw [World.answered?] at found
        simpa using List.find?_some found
      have member := List.mem_of_find?_eq_some found
      rw [answers_of_reached reached] at member
      obtain ⟨other, alsoGiven, rfl⟩ := List.mem_map.mp member
      rw [List.inj_on_of_nodup_map apart.1 alsoGiven given same]

/-- Every answer is the one that is found for its ticket. -/
theorem answered?_of_mem {answer : Answer} (given : answer ∈ world.answers) :
    world.answered? answer.ticket = some answer := by
  rw [answers_of_reached reached] at given
  obtain ⟨discharge, discharged, rfl⟩ := List.mem_map.mp given
  exact answered?_of_discharged reached distinct discharged

/-- Whose duty is open has no answer. -/
theorem answered?_of_open {duty : Duty} (waits : duty ∈ world.duties) :
    world.answered? duty.ticket = none := by
  rw [World.answered?, answers_of_reached reached, List.find?_eq_none]
  intro answer given same
  obtain ⟨discharge, discharged, rfl⟩ := List.mem_map.mp given
  have apart := nodup_duties reached distinct
  rw [List.map_append, List.nodup_append] at apart
  refine apart.2.2 _ ?_ _ (List.mem_map_of_mem waits) (beq_iff_eq.mp same)
  rw [List.map_map]
  exact List.mem_map_of_mem (f := fun discharge : Discharge => discharge.duty.ticket) discharged

omit distinct in
/-- Whoever is under way has arrived. -/
theorem ticket_of_mem_tasks {job : Job} {phase : Phase} {wake : Instant}
    (known : .request job phase wake ∈ world.tasks) : job.ticket ∈ tickets happenings := by
  have waits : job.duty phase.isWhole ∈ world.duties := List.mem_filterMap.mpr ⟨_, known, rfl⟩
  have taken := (duties_of_reached reached).mem_iff.mp (List.mem_append_right _ waits)
  rw [← World.tickets_duesOf engine (.initial engine network start)]
  exact List.mem_map_of_mem (f := fun duty : Duty => duty.ticket) taken

/-- Nobody is under way twice. -/
theorem ticket_ne_of_without {index : Nat} {job other : Job} {phase otherPhase : Phase}
    {wake otherWake : Instant} (found : world.tasks[index]? = some (.request job phase wake))
    (known : .request other otherPhase otherWake ∈ (world.without index).tasks) :
    other.ticket ≠ job.ticket := by
  have apart := nodup_duties reached distinct
  rw [List.map_append, List.nodup_append] at apart
  obtain ⟨inRange, task⟩ := List.getElem?_eq_some_iff.mp found
  have owed := ((List.getElem_cons_eraseIdx_perm inRange).filterMap Task.duty?).map (·.ticket)
  have duty : (Task.request job phase wake).duty? = some (job.duty phase.isWhole) := rfl
  rw [task, List.filterMap_cons_some duty, List.map_cons] at owed
  have fresh := (List.nodup_cons.mp (owed.nodup_iff.mpr apart.2.1)).1
  intro same
  refine fresh (List.mem_map.mpr ⟨other.duty otherPhase.isWhole, ?_, same⟩)
  exact List.mem_filterMap.mpr ⟨_, known, rfl⟩

end Distinct

end ApiGateway.Engine
