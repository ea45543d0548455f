import ApiGateway.Engine.Step

/-!
# The local checks, one by one

`Engine.dispatch` nests its checks. The lemmas here give its answer for every check
that can fail, from the results of the checks up to it, and for a request that passes
all of them.
-/

namespace ApiGateway.Engine

/-- Mode, route and method let a request through to the backend of a route. -/
structure Binds (engine : Engine) (head : Head) (route : Routing.Route) : Prop where
  forwarding : engine.mode = .proxyAll
  matched : engine.table.match? head.uri.path = some route
  allowed : route.allows head.method = true

variable {engine : Engine} {statuses : Backend.StatusBook} {now : Instant} {head : Head}
  {route : Routing.Route}

theorem dispatch_of_mode (off : engine.mode ≠ .proxyAll) :
    engine.dispatch statuses now head = .error .modeDisabled := by
  simp [dispatch, off]

theorem dispatch_of_no_route (forwarding : engine.mode = .proxyAll)
    (unmatched : engine.table.match? head.uri.path = none) :
    engine.dispatch statuses now head = .error .noRoute := by
  simp [dispatch, forwarding, unmatched]

theorem dispatch_of_method (forwarding : engine.mode = .proxyAll)
    (matched : engine.table.match? head.uri.path = some route)
    (refused : route.allows head.method = false) :
    engine.dispatch statuses now head = .error .methodNotAllowed := by
  simp [dispatch, forwarding, matched, refused]

theorem dispatch_of_unavailable {reason : String} (bound : engine.Binds head route)
    (down : statuses.availability route.backendKey now = .error reason) :
    engine.dispatch statuses now head = .error (.unavailable route reason) := by
  simp [dispatch, bound.forwarding, bound.matched, bound.allowed, down]

/-- What the credential check of a route says about a request. -/
def credential (engine : Engine) (now : Instant) (head : Head) (route : Routing.Route) :
    Except Http.ApiError Unit :=
  Auth.ensureAuth head.headers route.requireAuth route.strategy engine.verifier now

/-- A credential is refused in no other way than with the status 401. -/
theorem status_of_credential {error : Http.ApiError}
    (refused : engine.credential now head route = .error error) : error.status = 401 := by
  simp only [credential, Auth.ensureAuth] at refused
  split at refused
  · cases refused
  · split at refused
    · cases refused; rfl
    · split at refused
      · cases refused
      · split at refused
        · cases refused; rfl
        · next token parsed =>
            simp only [Auth.TokenVerifier.verify] at refused
            split at refused
            · cases refused; rfl
            · split at refused
              · cases refused
              · cases refused; rfl

theorem dispatch_of_credential {error : Http.ApiError} (bound : engine.Binds head route)
    (available : statuses.availability route.backendKey now = .ok ())
    (refused : engine.credential now head route = .error error) :
    engine.dispatch statuses now head = .error (.unauthorized route error) := by
  rw [credential] at refused
  simp [dispatch, bound.forwarding, bound.matched, bound.allowed, available, refused]

/-- A request is admitted to a route exactly when it passes every check. -/
theorem dispatch_eq_ok_iff :
    engine.dispatch statuses now head = .ok route ↔
      engine.Binds head route ∧ statuses.availability route.backendKey now = .ok () ∧
        engine.credential now head route = .ok () := by
  constructor
  · intro admitted
    simp only [dispatch] at admitted
    split at admitted
    · cases admitted
    · next forwarding =>
        split at admitted
        · cases admitted
        · next found matched =>
            split at admitted
            · cases admitted
            · next allowed =>
                split at admitted
                · cases admitted
                · next available =>
                    split at admitted
                    · cases admitted
                    · next accepted =>
                        cases admitted
                        exact ⟨⟨by simpa using forwarding, matched, by simpa using allowed⟩,
                          available, accepted⟩
  · rintro ⟨bound, available, accepted⟩
    rw [credential] at accepted
    simp [dispatch, bound.forwarding, bound.matched, bound.allowed, available, accepted]

namespace World

/-- The request that a move hands to the proxy. -/
def served? : Move → Option (Nat × Head × List BodyPiece)
  | .serve ticket head pieces => some (ticket, head, pieces)
  | .arrive ticket head pieces =>
    match Page.ofRequest? head.method head.uri.path with
    | some _ => none
    | none => some (ticket, head, pieces)
  | _ => none

theorem move_eq_serve (engine : Engine) (world : World) {move : Move} {ticket : Nat} {head : Head}
    {pieces : List BodyPiece} (served : served? move = some (ticket, head, pieces)) :
    world.move engine move = world.serve engine ticket head pieces := by
  cases move with
  | serve => cases served; rfl
  | arrive =>
      simp only [served?] at served
      split at served
      · cases served
      · next noPage =>
          cases served
          simp only [World.move, handle, noPage]
  | _ => cases served

/-- A refused request is answered at once. -/
theorem serve_of_refused {world : World} {refusal : Refusal}
    (refused : engine.dispatch world.statuses world.now head = .error refusal) (ticket : Nat)
    (pieces : List BodyPiece) :
    world.serve engine ticket head pieces =
      world.refuse ticket refusal.countedRoute? refusal.error := by
  simp only [serve, refused]

/-- An admitted request waits for the end of its body. -/
theorem serve_of_admitted {world : World}
    (admitted : engine.dispatch world.statuses world.now head = .ok route) (ticket : Nat)
    (pieces : List BodyPiece) :
    world.serve engine ticket head pieces =
      world.push (.request ⟨ticket, head, route, world.now + route.timeout⟩
        (.reading (readBody engine.maxBodyBytes world.now (world.now + route.timeout)
          pieces).result)
        (readBody engine.maxBodyBytes world.now (world.now + route.timeout) pieces).finished) := by
  simp only [serve, admitted]

theorem tasks_refuse (world : World) (ticket : Nat) (counted : Option Routing.Route)
    (error : Http.ApiError) : (world.refuse ticket counted error).tasks = world.tasks := by
  cases counted <;> rfl

/-- A request that waits after its arrival was admitted. -/
theorem admitted_of_serve {world : World} {ticket : Nat} {pieces : List BodyPiece} {job : Job}
    {phase : Phase} {wake : Instant}
    (served : world.serve engine ticket head pieces = world.push (.request job phase wake)) :
    job.ticket = ticket ∧ engine.dispatch world.statuses world.now head = .ok job.route := by
  have tasks := congrArg World.tasks served
  cases dispatched : engine.dispatch world.statuses world.now head with
  | error refusal =>
      rw [serve_of_refused dispatched, tasks_refuse] at tasks
      have added := congrArg List.length tasks
      simp [push] at added
  | ok route =>
      rw [serve_of_admitted dispatched] at tasks
      cases List.append_cancel_left tasks
      exact ⟨rfl, rfl⟩

end World

end ApiGateway.Engine
