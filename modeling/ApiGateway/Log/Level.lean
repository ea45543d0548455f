/-!
# Severities

Five severities from `trace` to `error`. A threshold lets a line pass when the
line is at least as severe. Each line names the component that it comes from.
-/

namespace ApiGateway.Log

/-- How severe a line is. -/
inductive Level where
  | trace | debug | info | warn | error
deriving DecidableEq

namespace Level

/-- Greater is more severe. -/
def severity : Level → Nat
  | trace => 0
  | debug => 1
  | info => 2
  | warn => 3
  | error => 4

/-- Does a line of this level pass a threshold? -/
def passes (level threshold : Level) : Bool :=
  threshold.severity ≤ level.severity

/-- The lower-case name. -/
def name : Level → String
  | trace => "trace"
  | debug => "debug"
  | info => "info"
  | warn => "warn"
  | error => "error"

/-- The upper-case name. -/
def label : Level → String
  | trace => "TRACE"
  | debug => "DEBUG"
  | info => "INFO"
  | warn => "WARN"
  | error => "ERROR"

def all : List Level := [trace, debug, info, warn, error]

/-- The level of a lower-case name. -/
def ofName? (name : String) : Option Level :=
  all.find? fun level => level.name == name

end Level

/-- The part of the gateway that a line comes from. -/
inductive Component where
  /-- The start and the end of the program. -/
  | program
  | engine
  | routing
  /-- Probes and readiness. -/
  | lifecycle
  /-- The listener. -/
  | server
deriving DecidableEq

namespace Component

/-- The name that lines give for a component. -/
def name : Component → String
  | program => "bifrost_gateway"
  | engine => "bifrost_gateway::engine"
  | routing => "bifrost_gateway::router"
  | lifecycle => "bifrost_gateway::lifecycle"
  | server => "bifrost_gateway::server"

end Component

/-- A line that the gateway logs. -/
structure Line where
  component : Component
  level : Level
  message : String
deriving DecidableEq

namespace Line

def info (component : Component) (message : String) : Line := ⟨component, .info, message⟩
def warn (component : Component) (message : String) : Line := ⟨component, .warn, message⟩
def error (component : Component) (message : String) : Line := ⟨component, .error, message⟩

/-- Severity and message with a blank between them. -/
def text (line : Line) : String := line.level.label ++ " " ++ line.message

end Line

end ApiGateway.Log
