import ApiGateway.Engine.Step

/-!
# One schedule

Of all runs, the one in which the first ready task always goes on, and time passes
only when no task is ready, straight to the next wake.
-/

namespace ApiGateway.Engine.World

/-- The position of the first task that is ready. -/
def firstReady? (world : World) : Option Nat :=
  world.tasks.findIdx? world.isReady

/-- The next instant at which a task wakes. -/
def nextWake? (world : World) : Option Instant :=
  match world.tasks.map world.wakeOf with
  | [] => none
  | first :: rest => some (rest.foldl min first)

/-- Run everything that is ready now; the fuel bounds the number of moves. -/
def settle (engine : Engine) : Nat → World → World
  | 0, world => world
  | fuel + 1, world =>
    match world.firstReady? with
    | some index => settle engine fuel (world.move engine (.run index))
    | none => world

/-- Run until a condition holds, or up to an instant when there is one; the fuel bounds the
number of moves. -/
def runUntil (engine : Engine) (stop : World → Bool) (limit : Option Instant) :
    Nat → World → World
  | 0, world => world
  | fuel + 1, world =>
    if stop world then world
    else match world.firstReady? with
      | some index => runUntil engine stop limit fuel (world.move engine (.run index))
      | none =>
        match world.nextWake?, limit with
        | some wake, some limit =>
          if wake ≤ limit then
            runUntil engine stop (some limit) fuel (world.move engine (.advance wake))
          else world.move engine (.advance limit)
        | some wake, none => runUntil engine stop none fuel (world.move engine (.advance wake))
        | none, some limit => world.move engine (.advance limit)
        | none, none => world

/-- Has somebody been answered? -/
def answered? (world : World) (ticket : Nat) : Option Answer :=
  world.answers.find? fun answer => answer.ticket == ticket

end ApiGateway.Engine.World
