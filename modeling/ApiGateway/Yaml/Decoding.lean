import ApiGateway.Number.Word
import ApiGateway.Yaml.Composition
import ApiGateway.Yaml.Source
import ApiGateway.Yaml.Tokens

/-!
# Decoding a document

What a node stands for is decided by what is asked of it: any scalar is a text, and only
plain scalars are numbers, truth values or absent. Each decoder follows references and
counts them.
-/

namespace ApiGateway.Yaml

namespace Document

/-- The document that a text writes. -/
def parse? (text : String) : Option Document := do
  let source ← Spot.ofText? text.toList
  let tokens ← tokens? source
  ofTokens? tokens

end Document

/-- Reads values out of a document and counts the references followed. -/
abbrev Decode := ReaderT Document (StateT Nat Option)

namespace Decode

/-- Run a decoder on the root of a document. -/
def run? {α : Type} (decode : Node → Decode α) (document : Document) : Option α :=
  (decode document.root document 0).map (·.1)

/-- The node that a reference stands for; any other node stands for itself. -/
def follow (node : Node) : Decode Node := do
  match node with
  | .alias number =>
    let document ← read
    let followed ← modifyGet fun count => (count + 1, count + 1)
    if followed > document.size * referencesPerUnit then failure
    else match document.anchored.lookup number with
      | some target => return target
      | none => failure
  | _ => return node

def isNull (text : String) : Bool :=
  ["null", "Null", "NULL", "~"].contains text

/-- The text of a scalar that may stand for a value with a given tag: a plain one, or a
literal one with that tag. -/
def scalarFor (tag : String) (node : Node) : Decode String := do
  match ← follow node with
  | .scalar .plain _ text => return text
  | .scalar .literal written text => if written = some tag then return text else failure
  | _ => failure

def text (node : Node) : Decode String := do
  match ← follow node with
  | .scalar _ _ text => return text
  | _ => failure

def bool (node : Node) : Decode Bool := do
  let text ← scalarFor boolTag node
  if ["true", "True", "TRUE"].contains text then return true
  else if ["false", "False", "FALSE"].contains text then return false
  else failure

/-- A non-empty text of digits in a base up to sixteen. -/
def digits? (base : Nat) (text : List Char) : Option Nat := do
  let values ← text.mapM Text.hexValue?
  if !values.isEmpty && values.all (· < base) then
    some (values.foldl (fun number value => number * base + value) 0)
  else none

/-- The base that a beginning such as `0x` announces, with the digits after it. -/
def basedDigits? : List Char → Option (Nat × List Char)
  | '0' :: 'x' :: rest => some (16, rest)
  | '0' :: 'o' :: rest => some (8, rest)
  | '0' :: 'b' :: rest => some (2, rest)
  | _ => none

/-- A whole number without sign or with `+`, in base ten without leading zeros or in a base
that its beginning announces. -/
def number? (text : String) : Option Nat :=
  let unsigned := match text.toList with
    | '+' :: rest => rest
    | other => other
  match basedDigits? unsigned with
  | some (base, rest) => digits? base rest
  | none =>
    if unsigned.length > 1 && unsigned.head? = some '0' then none else digits? 10 unsigned

/-- A whole number of at most 64 bits. -/
def word (node : Node) : Decode Nat := do
  match number? (← scalarFor intTag node) with
  | some value => if value < Number.wordBound 64 then return value else failure
  | none => failure

/-- An optional value: a plain scalar that is empty or names null is absence. A tag other
than that of null makes it a value. -/
def optional {α : Type} (decode : Node → Decode α) (node : Node) : Decode (Option α) := do
  let target ← follow node
  match target with
  | .scalar .plain none text =>
    if text.isEmpty || isNull text then return none else some <$> decode target
  | .scalar .plain (some tag) text =>
    if tag = nullTag then (if isNull text then return none else failure)
    else some <$> decode target
  | _ => some <$> decode target

/-- The items of a sequence. -/
def list {α : Type} (decode : Node → Decode α) (node : Node) : Decode (List α) := do
  let target ← follow node
  match target with
  | .sequence items => items.mapM decode
  | _ => if target.isEmptyPlain then return [] else failure

/-- The entries of a mapping with their keys as texts. -/
def entries (node : Node) : Decode (List (String × Node)) := do
  let target ← follow node
  match target with
  | .mapping pairs => pairs.mapM fun (key, value) => return (← text key, value)
  | _ => if target.isEmptyPlain then return [] else failure

/-- The known fields of a record. Other keys are passed over, and a known one may not be
repeated. -/
def fields (names : List String) (node : Node) : Decode (List (String × Node)) := do
  let known := (← entries node).filter fun entry => names.contains entry.1
  if (known.map (·.1)).Nodup then return known else failure

/-- A field with a default for its absence. -/
def fieldOr {α : Type} (default : α) (decode : Node → Decode α) (name : String)
    (known : List (String × Node)) : Decode α :=
  match known.lookup name with
  | some value => decode value
  | none => return default

end Decode

end ApiGateway.Yaml
