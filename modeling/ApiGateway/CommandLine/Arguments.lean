import ApiGateway.CommandLine.Parameter

/-!
# Reading a command line

`Arguments.parse` reads the words of a command line from left to right. A parameter takes
its value from its own word (`--mode=x`, `-mx`) or from the next one, and at most one
value. The environment speaks for the parameters that the command line leaves out.
-/

namespace ApiGateway.CommandLine

/-- The values of parameters; each parameter has at most one, and it is of its kind. -/
structure Arguments where
  values : List (Parameter × String) := []
deriving DecidableEq, Inhabited

/-- Variables with their values. -/
abbrev Environment := List (String × String)

namespace Arguments

def value? (arguments : Arguments) (parameter : Parameter) : Option String :=
  arguments.values.lookup parameter

/-- Give a parameter a value of its kind. -/
def assign (parameter : Parameter) (value : String) (arguments : Arguments) :
    Except UsageError Arguments := do
  parameter.kind.check value
  return ⟨arguments.values ++ [(parameter, value)]⟩

/-- Give a parameter a value on the command line, where it may stand once. -/
def assignOnce (parameter : Parameter) (value : String) (arguments : Arguments) :
    Except UsageError Arguments :=
  if (arguments.value? parameter).isSome then .error .repeated
  else arguments.assign parameter value

end Arguments

/-- A command line that has been read in part. -/
structure PartialLine where
  arguments : Arguments := {}
  /-- The last parameter whose value stands in a word of its own, and that value once it has
  been read. It is looked at only when the next parameter comes. -/
  pending : Option (Parameter × Option String) := none
  /-- The word `--` has been read. -/
  ended : Bool := false

namespace PartialLine

/-- Look at the pending value. -/
def resolve (line : PartialLine) : Except UsageError PartialLine :=
  match line.pending with
  | none => .ok line
  | some (_, none) => .error .missingValue
  | some (parameter, some value) => do
    let arguments ← line.arguments.assignOnce parameter value
    return { line with arguments, pending := none }

/-- A parameter, with its value if that stands in the same word. -/
def give (parameter : Parameter) (attached : Option String) (line : PartialLine) :
    Except UsageError PartialLine := do
  let line ← line.resolve
  match attached with
  | none => return { line with pending := some (parameter, none) }
  | some value =>
    let arguments ← line.arguments.assignOnce parameter value
    return { line with arguments }

/-- A request for information, once all before it is in order. -/
def request (information : UsageError) (line : PartialLine) : Except UsageError PartialLine := do
  let _ ← line.resolve
  .error information

/-- A word after two dashes. -/
def readName (word : List Char) (line : PartialLine) : Except UsageError PartialLine :=
  let (name, attached) := match Text.splitAtFirst? '=' word with
    | some (name, value) => (String.ofList name, some (String.ofList value))
    | none => (String.ofList word, none)
  match Parameter.ofName? name with
  | some parameter => line.give parameter attached
  | none =>
    if name = "help" || name = "version" then
      if attached.isSome then .error .needlessValue
      else line.request (if name = "help" then .help else .version)
    else .error .unknownArgument

/-- A word after one dash: a letter and what is attached to it, after a `=` or directly. -/
def readLetter (letter : Char) (rest : List Char) (line : PartialLine) :
    Except UsageError PartialLine :=
  match Parameter.ofLetter? letter with
  | some parameter =>
    let attached := match rest with
      | [] => none
      | '=' :: value => some (String.ofList value)
      | value => some (String.ofList value)
    line.give parameter attached
  | none =>
    if letter = 'h' then line.request .help
    else if letter = 'V' then line.request .version
    else .error .unknownArgument

/-- A word that is no parameter can only be a value that is waited for. -/
def readValue (word : String) (line : PartialLine) : Except UsageError PartialLine :=
  match line.pending with
  | some (parameter, none) => .ok { line with pending := some (parameter, some word) }
  | _ => .error .unknownArgument

def readWord (line : PartialLine) (word : String) : Except UsageError PartialLine :=
  if line.ended then .error .unknownArgument
  else match word.toList with
    | ['-', '-'] => .ok { line with ended := true }
    | '-' :: '-' :: name => line.readName name
    | '-' :: letter :: rest => line.readLetter letter rest
    | _ => line.readValue word

end PartialLine

namespace Arguments

/-- Ask the environment for a parameter that has no value yet. -/
def askEnvironment (environment : Environment) (arguments : Arguments) (parameter : Parameter) :
    Except UsageError Arguments :=
  if (arguments.value? parameter).isSome then .ok arguments
  else match parameter.environmentName?.bind (fun name => List.lookup name environment) with
    | some value => arguments.assign parameter value
    | none => .ok arguments

/-- The arguments that a command line and its environment give. -/
def parse (words : List String) (environment : Environment) : Except UsageError Arguments := do
  let line ← words.foldlM PartialLine.readWord {}
  let line ← line.resolve
  Parameter.all.foldlM (askEnvironment environment) line.arguments

def word64? (arguments : Arguments) (parameter : Parameter) : Option Nat :=
  (arguments.value? parameter).bind fun value => readWord? (Number.wordBound 64) value.toList

def word32? (arguments : Arguments) (parameter : Parameter) : Option Nat :=
  (arguments.value? parameter).bind fun value => readSignedWord? (Number.wordBound 32) value.toList

def real? (arguments : Arguments) (parameter : Parameter) : Option Binary64 :=
  (arguments.value? parameter).bind fun value => Number.readBinary64? value.toList

end Arguments

end ApiGateway.CommandLine
