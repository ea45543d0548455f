/-!
# Tokens of YAML

The end of a list of tokens is the end of the stream. Collections written by
indentation have start and end tokens like those written with brackets.
-/

namespace ApiGateway.Yaml

/-- How a scalar was written. Only plain scalars stand for anything but text. -/
inductive Style where
  | plain
  | quoted
  | literal
  | folded
deriving DecidableEq, Inhabited

inductive Token where
  | version (major minor : Nat)
  | handle (name expansion : String)
  | documentStart
  | documentEnd
  | blockSequenceStart
  | blockMappingStart
  | blockEnd
  | flowSequenceStart
  | flowSequenceEnd
  | flowMappingStart
  | flowMappingEnd
  | blockEntry
  | flowEntry
  | key
  | value
  | alias (name : String)
  | anchor (name : String)
  | tag (handle suffix : String)
  | scalar (style : Style) (text : String)
deriving DecidableEq, Inhabited

end ApiGateway.Yaml
