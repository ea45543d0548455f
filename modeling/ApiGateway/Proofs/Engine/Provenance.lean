import ApiGateway.Proofs.Engine.Execution
import ApiGateway.Proofs.Engine.Extension

/-!
# Where the requests under way come from

Every request under way was admitted by the local checks at some instant, and what it
sends is the outbound request that was built for it from its head and its body. The
invariant `World.Sound` says so of all tasks; `Steps.attempted` reads off what every
attempt of an execution sends, and `Steps.admission` finds the world that the request
arrived in.
-/

namespace ApiGateway.Engine

/-- A request passed the local checks at some instant, and its deadline counts from then. -/
def Job.Admitted (engine : Engine) (job : Job) : Prop :=
  ∃ statuses instant, engine.dispatch statuses instant job.head = .ok job.route ∧
    job.deadline = instant + job.route.timeout

/-- What an exchange sends was built for the job. -/
def Exchange.BuiltFor (engine : Engine) (job : Job) (exchange : Exchange) : Prop :=
  ∃ body, job.outbound engine body = .ok exchange.outbound

/-- A task is sound: a request was admitted, and its exchange was built for it. -/
def Task.Sound (engine : Engine) (task : Task) : Prop :=
  ∀ job phase wake, task = .request job phase wake →
    job.Admitted engine ∧
      ∀ exchange, phase.exchange? = some exchange → exchange.BuiltFor engine job

/-- All tasks of a world are sound. -/
def World.Sound (engine : Engine) (world : World) : Prop :=
  ∀ task ∈ world.tasks, task.Sound engine

section Preservation

variable {engine : Engine} {world : World}

theorem Task.IsBackground.sound {task : Task} (own : task.IsBackground) : task.Sound engine := by
  intro job phase wake same
  rw [same] at own
  exact own.elim

/-- An action goes on with an exchange that was built for the job if the phase before it has
none other. -/
theorem Job.builtFor_of_action {now : Instant} {job : Job} {phase : Phase} {exchange : Exchange}
    (sound : ∀ exchange, phase.exchange? = some exchange → exchange.BuiltFor engine job)
    (acts : (job.action engine now phase).exchange? = some exchange) :
    exchange.BuiltFor engine job := by
  cases phase with
  | reading result =>
      cases result with
      | error fault => cases acts
      | ok body =>
          simp only [Job.action] at acts
          split at acts
          · cases acts
          · next outbound built =>
              cases acts
              exact ⟨body, built⟩
  | pausing prior =>
      cases acts
      exact sound _ rfl
  | awaiting prior outcome =>
      simp only [Job.action] at acts
      split at acts
      · cases acts
      · cases acts
        obtain ⟨body, built⟩ := sound prior rfl
        exact ⟨body, built⟩
  | overdue prior => cases acts

theorem Spawns.sound {move : Move} {next : Task} (sound : world.Sound engine)
    (spawns : Spawns engine world move next) : next.Sound engine := by
  cases spawns with
  | background own => exact own.sound
  | arrival served admits =>
      obtain ⟨route, admitted, rfl⟩ := admits
      intro job phase wake same
      cases same
      refine ⟨⟨world.statuses, world.now, admitted, rfl⟩, ?_⟩
      intro exchange present
      cases present
  | @resumption task next going spawns =>
      obtain ⟨index, -, found, -⟩ := World.move_eq_resume engine going
      have known : task ∈ world.tasks := List.mem_of_getElem? found
      cases task with
      | request job phase wake =>
          obtain ⟨admitted, built⟩ := sound _ known job phase wake rfl
          rcases spawns with own | ⟨exchange, acts, nextPhase, nextWake, rfl, carried⟩
          · exact own.sound
          · intro other otherPhase otherWake same
            cases same
            refine ⟨admitted, ?_⟩
            intro later present
            rw [carried] at present
            cases present
            exact Job.builtFor_of_action built acts
      | _ => exact Task.IsBackground.sound spawns

theorem World.Sound.step {next : World} (sound : world.Sound engine)
    (step : Step engine world next) : next.Sound engine := by
  cases step with
  | move move =>
      intro task member
      rcases world.mem_tasks_of_move engine member with known | spawned
      · exact sound task known
      · exact spawned.sound sound
  | delay => exact sound
  | report => exact sound

end Preservation

/-- In every execution from the start all tasks are sound. -/
theorem Steps.sound {engine : Engine} {network : Network} {start : Instant} {world : World}
    (reached : Steps engine (.initial engine network start) world) : world.Sound engine := by
  refine reached.preserves (World.Sound engine) ?_ ?_
  · intro world next sound step
    exact sound.step step
  · intro task member
    cases member

/-- Whatever is handed to the transport was built for a request that had been admitted. -/
theorem Steps.attempted {engine : Engine} {network : Network} {start : Instant} {world : World}
    (reached : Steps engine (.initial engine network start) world) {move : Move} {job : Job}
    {exchange : Exchange} (attempts : world.attempted? engine move = some (job, exchange)) :
    job.Admitted engine ∧ exchange.BuiltFor engine job := by
  obtain ⟨phase, wake, known, sends⟩ := World.mem_tasks_of_attempted attempts
  obtain ⟨admitted, built⟩ := reached.sound _ known _ _ _ rfl
  have acts : (job.action engine world.now phase).exchange? = some exchange := by
    rw [sends]
    rfl
  exact ⟨admitted, Job.builtFor_of_action built acts⟩

/-! ## The world of the admission -/

/-- A request arrived in a world of an execution and was admitted there; its deadline counts from
that world's clock. -/
structure Job.AdmittedIn (engine : Engine) (first last : World) (job : Job) (earlier : World) :
    Prop where
  before : Steps engine first earlier
  arrived : ∃ move pieces, World.served? move = some (job.ticket, job.head, pieces) ∧
    Steps engine (earlier.move engine move) last
  passed : engine.dispatch earlier.statuses earlier.now job.head = .ok job.route
  deadline : job.deadline = earlier.now + job.route.timeout

theorem Job.AdmittedIn.step {engine : Engine} {first middle last earlier : World} {job : Job}
    (admitted : job.AdmittedIn engine first middle earlier) (next : Step engine middle last) :
    job.AdmittedIn engine first last earlier := by
  obtain ⟨move, pieces, served, later⟩ := admitted.arrived
  exact { admitted with arrived := ⟨move, pieces, served, later.step next⟩ }

/-- A request that a move puts among the tasks arrives with it or was among them before. -/
theorem Spawns.arrives_or_known {engine : Engine} {world : World} {move : Move} {job : Job}
    {phase : Phase} {wake : Instant} (spawns : Spawns engine world move (.request job phase wake)) :
    job.AdmittedIn engine world (world.move engine move) world ∨
      ∃ phase wake, .request job phase wake ∈ world.tasks := by
  cases spawns with
  | background own => exact own.elim
  | arrival served admits =>
      obtain ⟨route, admitted, same⟩ := admits
      cases same
      exact .inl ⟨.refl, ⟨move, _, served, .refl⟩, admitted, rfl⟩
  | @resumption task _ going spawns =>
      obtain ⟨index, -, found, -⟩ := World.move_eq_resume engine going
      have known : task ∈ world.tasks := List.mem_of_getElem? found
      cases task with
      | request other phase wake =>
          rcases spawns with own | ⟨exchange, -, nextPhase, nextWake, same, -⟩
          · exact own.elim
          · cases same
            exact .inr ⟨phase, wake, known⟩
      | _ => exact spawns.elim

/-- In an execution that starts without tasks every request under way was admitted in a world of
it. -/
theorem Steps.admission {engine : Engine} {first last : World} (steps : Steps engine first last)
    (idle : first.tasks = []) {job : Job} {phase : Phase} {wake : Instant}
    (known : .request job phase wake ∈ last.tasks) :
    ∃ earlier, job.AdmittedIn engine first last earlier := by
  induction steps generalizing phase wake with
  | refl => rw [idle] at known; cases known
  | @step middle _ prior next inductionHypothesis =>
      have goesOn {phase : Phase} {wake : Instant}
          (known : .request job phase wake ∈ middle.tasks) :=
        (inductionHypothesis known).imp fun _ admitted => admitted.step next
      cases next with
      | move move =>
          rcases middle.mem_tasks_of_move engine known with waited | spawned
          · exact goesOn waited
          · rcases spawned.arrives_or_known with here | ⟨phase, wake, waited⟩
            · exact ⟨middle, { here with before := prior }⟩
            · exact goesOn waited
      | delay => exact goesOn known
      | report => exact goesOn known

/-- The request of every attempt was admitted in a world of the execution. -/
theorem Steps.admission_of_attempted {engine : Engine} {network : Network} {start : Instant}
    {world : World} (reached : Steps engine (.initial engine network start) world) {move : Move}
    {job : Job} {exchange : Exchange}
    (attempts : world.attempted? engine move = some (job, exchange)) :
    ∃ earlier, job.AdmittedIn engine (.initial engine network start) world earlier := by
  obtain ⟨phase, wake, known, -⟩ := World.mem_tasks_of_attempted attempts
  exact reached.admission rfl known

end ApiGateway.Engine
