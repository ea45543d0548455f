import ApiGateway.Log.Logger
import ApiGateway.Text.Blank

/-!
# The log without targets

Where no targets are set, lines go to the standard error stream, under a filter that the
environment may give. A filter has a threshold for each beginning of a target's name; the
longest beginning that fits decides.
-/

namespace ApiGateway.Log

/-- The least severity of lines from targets whose names begin in a certain way; without a
severity there are none. -/
structure Directive where
  beginning : Option String
  threshold : Option Level
deriving DecidableEq

structure Filter where
  directives : List Directive
deriving DecidableEq

namespace Filter

/-- A severity in any case, or the word for none. -/
def threshold? (word : List Char) : Option (Option Level) :=
  let lower := String.ofList (Text.lowerAscii word)
  if lower = "off" then some none else (Level.ofName? lower).map some

/-- One item of a filter: a severity, a beginning, or a beginning with its severity. -/
def directive? (item : List Char) : Option Directive :=
  match Text.splitOn '=' item with
  | [word] =>
    match threshold? word with
    | some threshold => some ⟨none, threshold⟩
    | none => some ⟨some (String.ofList word), some .trace⟩
  | [beginning, word] =>
    let word := Text.trim word
    if word.isEmpty then some ⟨some (String.ofList beginning), some .trace⟩
    else (threshold? word).map fun threshold => ⟨some (String.ofList beginning), threshold⟩
  | _ => none

/-- The later of two directives for one beginning counts. -/
def insert (directives : List Directive) (directive : Directive) : List Directive :=
  (directives.filter fun other => other.beginning ≠ directive.beginning) ++ [directive]

/-- The filter of a text with items between commas; no items at all let errors pass. -/
def parse (text : String) : Filter :=
  let items := (Text.splitOn ',' text.toList).map Text.trim
  let directives := (items.filter (!·.isEmpty)).filterMap directive?
  ⟨if directives.isEmpty then [⟨none, some .error⟩] else directives.foldl insert []⟩

private def fits (target : String) (directive : Directive) : Bool :=
  match directive.beginning with
  | some beginning => beginning.toList.isPrefixOf target.toList
  | none => true

private def size (directive : Directive) : Nat :=
  (directive.beginning.map String.utf8ByteSize).getD 0

/-- Do lines of a level from a target pass? -/
def passes (filter : Filter) (level : Level) (target : String) : Bool :=
  let longest := (filter.directives.filter (fits target)).foldl
    (fun found directive => match found with
      | some best => if size best ≤ size directive then some directive else found
      | none => some directive) none
  match longest.bind (·.threshold) with
  | some threshold => level.passes threshold
  | none => false

end Filter

/-- The name of the environment variable that holds the filter. -/
def filterVariable : String := "RUST_LOG"

/-- Continue a message of several lines under its beginning. -/
def indented (message : String) : String :=
  String.ofList (message.toList.flatMap fun c =>
    if c = '\n' then "\n    ".toList else [c])

/-- A record on the standard error stream, with the severity padded to five characters. -/
def Record.toConsoleText (record : Record) : String :=
  let label := record.level.label
  "[" ++ Instant.dateTimeText "T" record.time ++ "Z " ++ label ++
    String.ofList (List.replicate (5 - label.length) ' ') ++ " " ++ record.target ++ "] " ++
    indented record.message

/-- The members of a JSON line on the standard error stream. -/
def Record.toConsoleJson (record : Record) : Json :=
  .object [
    ("level", .string record.level.name),
    ("message", .string record.message),
    ("target", .string record.target),
    ("timestamp", .string (jsonTime record.time))]

/-- The standard error stream as a place for lines. -/
structure Console where
  filter : Filter
  format : Format

namespace Console

def render (console : Console) (record : Record) : String :=
  match console.format with
  | .text => record.toConsoleText
  | .json => record.toConsoleJson.compact

/-- What a record adds to the stream. -/
def textFor (console : Console) (record : Record) : String :=
  if console.filter.passes record.level record.target then console.render record ++ "\n" else ""

end Console

/-- The log of the running program. -/
inductive Installed where
  | logger (logger : Logger)
  | console (console : Console)

/-- Install the log of some settings. `filter?` is the filter that the environment gives. -/
def install (settings? : Option Settings) (filter? : Option String) (files : FileTree) :
    FileTree × Except SetupError Installed :=
  let console (level : Level) (format : Format) : Installed :=
    .console ⟨.parse (filter?.getD level.name), format⟩
  match settings? with
  | none => (files, .ok (console .info .text))
  | some settings =>
    if (settings.targets.getD []).isEmpty then
      (files, .ok (console (settings.level.getD .info) (settings.format.getD .text)))
    else
      let (files, logger) := Logger.new settings files
      (files, logger.map .logger)

end ApiGateway.Log
