import ApiGateway.Proofs.Backend.Recording
import ApiGateway.Proofs.Engine.Dispatch
import ApiGateway.Proofs.Engine.StatusKeys
import ApiGateway.Proofs.Routing.Built

/-!
# What feeds a circuit without an attempt

A request that is answered without a call to the transport leaves all statuses alone,
with one exception: when its body is complete and no outbound request can be made of
it, that counts as a failure of the backend (`fed_without_attempt_iff`).
-/

namespace ApiGateway

namespace Backend

/-- A recorded failure always shows: it adds an error to those in a row. -/
theorem Status.recordResult_false_ne (status : Status) (now : Instant) (policy : CircuitPolicy) :
    (status.recordResult false now policy).1 ≠ status := by
  have errors : (status.recordResult false now policy).1.consecutiveErrors =
      status.consecutiveErrors + 1 := status.consecutiveErrors_recordResult false now policy
  intro same
  rw [same] at errors
  have step : status.consecutiveErrors.toNat = (status.consecutiveErrors.toNat + 1) % 2 ^ 32 := by
    conv => lhs; rw [errors]
    exact UInt32.toNat_add ..
  omega

namespace StatusBook

/-- A failure that is recorded for a key of the book changes the book. -/
theorem recordResult_false_ne {key : String} {book : StatusBook} (member : key ∈ book.keys)
    (now : Instant) (policy : CircuitPolicy) :
    (book.recordResult key false now policy).1 ≠ book := by
  obtain ⟨status, present⟩ := exists_get?_of_mem_keys member
  intro same
  have found : (book.recordResult key false now policy).1.get? key =
      some (status.recordResult false now policy).1 := by
    simp [recordResult, present]
  rw [same, present] at found
  exact status.recordResult_false_ne now policy (Option.some.inj found).symm

end StatusBook

end Backend

namespace Engine

open Backend (StatusBook)

namespace World

variable {engine : Engine} {job : Job}

/-- A request that goes on without an attempt once its body is over is answered. The circuit of
its backend is fed if the body is complete, and nothing else changes a status. -/
theorem perform_of_unattempted (world : World) {now : Instant} {result : Except BodyFault ByteArray}
    (unattempted : ∀ exchange, job.action engine now (.reading result) ≠ .send exchange) :
    (∃ response,
        (world.perform engine job (job.action engine now (.reading result))).answers =
          world.answers ++ [⟨job.ticket, some job.route.name, some response⟩]) ∧
      (((∃ fault, result = .error fault) ∧
          (world.perform engine job (job.action engine now (.reading result))).statuses =
            world.statuses) ∨
        ((∃ body error, result = .ok body ∧ job.outbound engine body = .error error) ∧
          (world.perform engine job (job.action engine now (.reading result))).statuses =
            (world.statuses.recordResult job.route.backendKey false world.now
              engine.circuitPolicy).1)) := by
  cases result with
  | error fault =>
      refine ⟨⟨_, rfl⟩, .inl ⟨⟨fault, rfl⟩, ?_⟩⟩
      simp [Job.action, perform, rejectBody, log]
  | ok body =>
      simp only [Job.action] at unattempted ⊢
      split at unattempted
      · next error failed =>
          simp only [perform]
          refine ⟨⟨_, answers_finish ..⟩, .inr ⟨⟨body, error, rfl, failed⟩, ?_⟩⟩
          exact statuses_finish ..
      · next outbound built => exact absurd rfl (unattempted _)

end World

/-- A request that is answered without a call to the transport leaves every status as it was,
with one exception. It changes none when it arrives; when it goes on after its body, it changes
one exactly if the body is complete and no outbound request can be made of it. In that case the
gateway's own failure is recorded as a failure of the backend. -/
theorem fed_without_attempt_iff {definitions : List Routing.Definition}
    {defaultTimeout : Duration} {engine : Engine} {shadowings : List Routing.Shadowing}
    (built : Routing.Table.build definitions defaultTimeout = .ok (engine.table, shadowings))
    {network : Network} {start : Instant} {world : World}
    (reached : Steps engine (.initial engine network start) world) (ticket : Nat) (head : Head)
    (pieces : List BodyPiece) :
    (world.serve engine ticket head pieces).statuses = world.statuses ∧
      ∀ {job : Job} {result : Except BodyFault ByteArray} {wake : Instant} {later : World}
        {index : Nat},
        world.serve engine ticket head pieces =
          world.push (.request job (.reading result) wake) →
        Steps engine (world.serve engine ticket head pieces) later →
        later.resumed? (.run index) = some (.request job (.reading result) wake) →
        later.attempted? engine (.run index) = none →
        (∃ counted response, (later.move engine (.run index)).answers =
            later.answers ++ [⟨ticket, counted, response⟩]) ∧
          ((later.move engine (.run index)).statuses ≠ later.statuses ↔
            ∃ body error, result = .ok body ∧ job.outbound engine body = .error error) ∧
          ((later.move engine (.run index)).statuses = later.statuses ∨
            (later.move engine (.run index)).statuses =
              (later.statuses.recordResult job.route.backendKey false later.now
                engine.circuitPolicy).1) := by
  refine ⟨World.statuses_serve .., ?_⟩
  intro job result wake later index served since going unattempted
  obtain ⟨sameTicket, admitted⟩ := World.admitted_of_serve served
  have matched := (dispatch_eq_ok_iff.mp admitted).1.matched
  have known : job.route.backendKey ∈ later.statuses.keys := by
    rw [since.keys, World.statuses_serve, reached.keys, keys_initial]
    exact Routing.Table.backendKey_mem_build built (Routing.Table.mem_of_match? matched).1
  have moved : later.move engine (.run index) = (later.without index).perform engine job
      (job.action engine later.now (.reading result)) := by
    obtain ⟨_, same, -, resumes⟩ := World.move_eq_resume engine going
    cases same
    rw [resumes, World.resume, World.resumeRequest_eq_perform]
    rfl
  have silent : ∀ exchange, job.action engine later.now (.reading result) ≠ .send exchange := by
    intro exchange sends
    have attempts := World.attempted?_eq_some_iff.mpr ⟨_, _, going, sends⟩
    rw [unattempted] at attempts
    cases attempts
  obtain ⟨⟨response, answered⟩, feeds⟩ := (later.without index).perform_of_unattempted silent
  rw [moved]
  refine ⟨⟨_, response, by rw [← sameTicket]; exact answered⟩, ?_⟩
  rcases feeds with ⟨⟨fault, rejected⟩, kept⟩ | ⟨⟨body, error, read, failed⟩, fed⟩
  · refine ⟨⟨fun changed => absurd kept changed, ?_⟩, .inl kept⟩
    rintro ⟨body, error, read, -⟩
    rw [rejected] at read
    cases read
  · refine ⟨⟨fun _ => ⟨body, error, read, failed⟩, fun _ => ?_⟩, .inr fed⟩
    rw [fed]
    exact StatusBook.recordResult_false_ne known later.now engine.circuitPolicy

/-- A definition whose replacement cannot stand in a request target. -/
def spacedDefinition : Routing.Definition where
  name := "all"
  pathPrefix := "/api"
  target := "http://h"
  replacement := "/a b"

/-- The route of `spacedDefinition`. -/
def spacedRoute : Routing.Route := { rootRoute with pathPrefix := "/api", replacement := "/a b" }

/-- A request has just arrived that no outbound request can be made of. -/
def World.spacedRequest : World :=
  World.serve (ofRoute spacedRoute) 0 (.get "/api/x") []
    (.initial (ofRoute spacedRoute) ⟨[("h", ⟨.accepted, none, none⟩)]⟩ 0)

/-- Nothing is sent for the request, and still the backend has a failure in its window and an
error in a row. -/
theorem failure_recorded_without_attempt :
    (World.spacedRequest.attempted? (ofRoute spacedRoute) (.run 0)).isNone = true ∧
      (World.spacedRequest.move (ofRoute spacedRoute) (.run 0)).sent.isEmpty = true ∧
      World.spacedRequest.statuses.get? "http://h/" = some (.new 0) ∧
      (World.spacedRequest.move (ofRoute spacedRoute) (.run 0)).statuses.get? "http://h/" =
        some { Backend.Status.new 0 with
          requestsInWindow := 1, failuresInWindow := 1, consecutiveErrors := 1 } := by
  decide

theorem fed_by_spaced_request :
    Routing.Table.build [spacedDefinition] (.ofSeconds 10) =
        .ok ((ofRoute spacedRoute).table, []) ∧
      (World.spacedRequest.move (ofRoute spacedRoute) (.run 0)).statuses ≠
        World.spacedRequest.statuses := by
  have built : Routing.Table.build [spacedDefinition] (.ofSeconds 10) =
      .ok ((ofRoute spacedRoute).table, []) :=
    Routing.Table.build_of_toOption (by decide +kernel)
  let job : Job := ⟨0, .get "/api/x", spacedRoute, 10000000000⟩
  have waits : World.spacedRequest = (World.initial (ofRoute spacedRoute)
      ⟨[("h", ⟨.accepted, none, none⟩)]⟩ 0).push (.request job (.reading (.ok .empty)) 0) := by
    have unknown : (World.initial (ofRoute spacedRoute)
        ⟨[("h", ⟨.accepted, none, none⟩)]⟩ 0).statuses.get? spacedRoute.backendKey =
          some (.new 0) := by
      decide
    refine World.serve_of_admitted (dispatch_eq_ok_iff.mpr
      ⟨⟨rfl, by decide, by decide⟩, ?_, rfl⟩) 0 []
    simp only [StatusBook.availability, unknown]
    rfl
  have going : World.spacedRequest.resumed? (.run 0) =
      some (.request job (.reading (.ok .empty)) 0) := by
    rw [waits]
    rfl
  have unbuildable : (job.outbound (ofRoute spacedRoute) .empty).isOk = false := by
    decide
  cases failed : job.outbound (ofRoute spacedRoute) .empty with
  | ok outbound => rw [failed] at unbuildable; cases unbuildable
  | error error =>
      have silent : World.spacedRequest.attempted? (ofRoute spacedRoute) (.run 0) = none := by
        simp only [World.attempted?, going, Job.action, failed]
      exact ⟨built, ((fed_without_attempt_iff built .refl 0 (.get "/api/x") []).2 waits .refl going
        silent).2.1.mpr ⟨.empty, error, rfl, failed⟩⟩

end Engine

end ApiGateway
