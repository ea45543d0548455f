import ApiGateway.Json.Basic
import ApiGateway.Number.Shortest
import ApiGateway.Text.Chars

/-!
# Writing JSON

`compact` writes a document on one line without blanks, `pretty` with one item
a line and two blanks of indentation a level. Strings escape the quote, the
backslash and every character below U+0020, so neither form of a string holds a
raw line break.
-/

namespace ApiGateway.Json

/-- The written form of one character of a string. -/
def escapeChar (c : Char) : List Char :=
  if c = '"' then ['\\', '"']
  else if c = '\\' then ['\\', '\\']
  else if c = '\x08' then ['\\', 'b']
  else if c = '\x0c' then ['\\', 'f']
  else if c = '\n' then ['\\', 'n']
  else if c = '\r' then ['\\', 'r']
  else if c = '\t' then ['\\', 't']
  else if c.toNat < 0x20 then
    ['\\', 'u', '0', '0', Text.hexDigit false (c.toNat / 16), Text.hexDigit false (c.toNat % 16)]
  else [c]

/-- A string between quotes. -/
def quote (text : List Char) : List Char :=
  '"' :: (text.flatMap escapeChar ++ ['"'])

/-- The characters of a word. -/
def word (text : String) : List Char := text.toList

mutual

/-- One line, no blanks. -/
def compactChars : Json → List Char
  | .null => word "null"
  | .bool value => word (if value then "true" else "false")
  | .integer value => word (toString value)
  | .real value => word (Number.jsonText value)
  | .string text => quote text.toList
  | .array items => '[' :: (compactItems items ++ [']'])
  | .object members => '\x7b' :: (compactMembers members ++ ['\x7d'])
  | .unreadable => word "null"

/-- The items of an array, commas between them. -/
def compactItems : List Json → List Char
  | [] => []
  | [item] => compactChars item
  | item :: next :: rest => compactChars item ++ ',' :: compactItems (next :: rest)

/-- The members of an object, commas between them. -/
def compactMembers : List (String × Json) → List Char
  | [] => []
  | [(name, value)] => quote name.toList ++ ':' :: compactChars value
  | (name, value) :: next :: rest =>
    quote name.toList ++ ':' :: (compactChars value ++ ',' :: compactMembers (next :: rest))

end

def compact (document : Json) : String :=
  String.ofList (compactChars document)

/-- A line break followed by the blanks of a level. -/
def newLine (level : Nat) : List Char :=
  '\n' :: List.replicate (2 * level) ' '

mutual

/-- One item a line; empty arrays and objects stay on their line. -/
def prettyChars (level : Nat) : Json → List Char
  | .array [] => ['[', ']']
  | .array (item :: items) =>
    '[' :: (prettyItems (level + 1) (item :: items) ++ newLine level ++ [']'])
  | .object [] => ['\x7b', '\x7d']
  | .object (first :: members) =>
    '\x7b' :: (prettyMembers (level + 1) (first :: members) ++ newLine level ++ ['\x7d'])
  | .null => compactChars .null
  | .bool value => compactChars (.bool value)
  | .integer value => compactChars (.integer value)
  | .real value => compactChars (.real value)
  | .string text => compactChars (.string text)
  | .unreadable => compactChars .unreadable

def prettyItems (level : Nat) : List Json → List Char
  | [] => []
  | [item] => newLine level ++ prettyChars level item
  | item :: next :: rest =>
    newLine level ++ prettyChars level item ++ ',' :: prettyItems level (next :: rest)

def prettyMembers (level : Nat) : List (String × Json) → List Char
  | [] => []
  | [(name, value)] =>
    newLine level ++ quote name.toList ++ ':' :: ' ' :: prettyChars level value
  | (name, value) :: next :: rest =>
    newLine level ++ quote name.toList ++
      ':' :: ' ' :: (prettyChars level value ++ ',' :: prettyMembers level (next :: rest))

end

def pretty (document : Json) : String :=
  String.ofList (prettyChars 0 document)

end ApiGateway.Json
