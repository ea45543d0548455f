import ApiGateway.Config.Basic
import ApiGateway.Files.Tree
import ApiGateway.Json.Writer
import ApiGateway.Time.Instant

/-!
# Writing the log

A logger has targets, each with its own threshold. `Logger.deliver` writes one
line to every target that wants a record, in the order of the targets; a record
is enabled exactly when some target wants it.
-/

namespace ApiGateway.Log

/-- Something to be logged, with where in the program it comes from. -/
structure Record where
  level : Level
  target : String
  modulePath : Option String
  lineNumber : Option Nat
  message : String
  time : Instant

/-- What a logger writes to: standard output and files. -/
structure Outputs where
  stdout : String
  files : FileTree

/-- Why a logger cannot be set up. -/
inductive SetupError where
  | pathRequired
  | io (error : IoError)
deriving DecidableEq

namespace SetupError

def message : SetupError → String
  | pathRequired => "File output type requires path"
  | io error => error.message

end SetupError

/-- A logger whose files can be written. -/
structure Logger where
  targets : List Target
  format : Format
  defaultLevel : Level
deriving DecidableEq

/-- Create the file of a target if it is missing. -/
def openTarget (target : Target) (files : FileTree) : FileTree × Option SetupError :=
  match target.sink, target.path with
  | .stdout, _ => (files, none)
  | .file, none => (files, some .pathRequired)
  | .file, some path =>
    match files.append path .empty with
    | .ok files => (files, none)
    | .error error => (files, some (.io error))

/-- Open the targets in their order up to the first that fails. -/
def openTargets : List Target → FileTree → FileTree × Option SetupError
  | [], files => (files, none)
  | target :: rest, files =>
    match openTarget target files with
    | (files, none) => openTargets rest files
    | failed => failed

namespace Logger

/-- The logger of some settings, with its files created. -/
def new (settings : Settings) (files : FileTree) : FileTree × Except SetupError Logger :=
  let targets := settings.targets.getD []
  match openTargets targets files with
  | (files, none) =>
    (files, .ok ⟨targets, settings.format.getD .text, settings.level.getD .info⟩)
  | (files, some error) => (files, .error error)

/-- The threshold of a target. -/
def levelOf (logger : Logger) (target : Target) : Level :=
  target.level.getD logger.defaultLevel

/-- Does a target want lines of a level? -/
def wants (logger : Logger) (level : Level) (target : Target) : Bool :=
  level.passes (logger.levelOf target)

/-- Is there a target that wants lines of a level? -/
def enabled (logger : Logger) (level : Level) : Bool :=
  logger.targets.any (logger.wants level)

/-- The least severe threshold of all targets; `none` without targets. -/
def maxLevel (logger : Logger) : Option Level :=
  (logger.targets.map logger.levelOf).foldl (fun found level =>
    match found with
    | none => some level
    | some other => some (if level.severity < other.severity then level else other)) none

end Logger

/-- The time of a record as JSON lines give it. -/
def jsonTime (time : Instant) : String :=
  Instant.dateTimeText "T" time ++ "." ++ Instant.millisText time ++ "Z"

/-- The members of a JSON line in the order of their names. -/
def Record.toJson (record : Record) : Json :=
  .object [
    ("level", .string record.level.name),
    ("line", .ofNat (record.lineNumber.getD 0)),
    ("message", .string record.message),
    ("module", .string (record.modulePath.getD "unknown")),
    ("target", .string record.target),
    ("timestamp", .string (jsonTime record.time))]

/-- Time, severity, origin and message on one line. -/
def Record.toText (record : Record) : String :=
  Instant.dateTimeText " " record.time ++ "." ++ Instant.millisText record.time ++
    " [" ++ record.level.label ++ "] [" ++ record.target ++ "] " ++ record.message

/-- The written form of a record, without the line feed. -/
def Format.render : Format → Record → String
  | .text, record => record.toText
  | .json, record => record.toJson.compact

/-- Write a text to the sink of a target. -/
def Target.write (target : Target) (text : String) (outputs : Outputs) : Outputs :=
  match target.sink, target.path with
  | .stdout, _ => { outputs with stdout := outputs.stdout ++ text }
  | .file, some path =>
    match outputs.files.append path text.toUTF8 with
    | .ok files => { outputs with files }
    | .error _ => outputs
  | .file, none => outputs

namespace Logger

def render (logger : Logger) (record : Record) : String :=
  logger.format.render record

/-- Write a record to every target that wants it. -/
def deliver (logger : Logger) (record : Record) (outputs : Outputs) : Outputs :=
  if !logger.enabled record.level then outputs
  else
    let line := logger.render record ++ "\n"
    logger.targets.foldl (fun outputs target =>
      if logger.wants record.level target then target.write line outputs else outputs) outputs

/-- Write records in their order. -/
def deliverAll (logger : Logger) (records : List Record) (outputs : Outputs) : Outputs :=
  records.foldl (fun outputs record => logger.deliver record outputs) outputs

end Logger

end ApiGateway.Log
