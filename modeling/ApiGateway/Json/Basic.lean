import ApiGateway.Number.Binary64

/-!
# JSON values

The document type that configuration files, tokens, log records and diagnostic
answers share. Objects keep their members in order and keep repeated names, so
that readers of records can refuse them.
-/

namespace ApiGateway

/-- A JSON document. Integers are those of the signed or unsigned 64-bit words; all other
numbers are doubles. -/
inductive Json where
  | null
  | bool (value : Bool)
  | integer (value : Int)
  | real (value : Binary64)
  | string (text : String)
  | array (items : List Json)
  | object (members : List (String × Json))
  /-- A grammatical value that denotes nothing: a number beyond every double, a string or a
  member name with an unpaired surrogate. It may be skipped but not examined. -/
  | unreadable
deriving Inhabited

namespace Json

/-- The value of the first member of a name. -/
def member? (name : String) : Json → Option Json
  | .object members => members.lookup name
  | _ => none

def text? : Json → Option String
  | .string text => some text
  | _ => none

def ofNat (n : Nat) : Json := .integer n

/-- A double as a document; what is no finite number becomes `null`. -/
def ofBinary64 (x : Binary64) : Json :=
  if x.isFinite then .real x else .null

/-- An optional value, absent as `null`. -/
def ofOption {α : Type} (encode : α → Json) : Option α → Json
  | none => .null
  | some value => encode value

def strings (texts : List String) : Json :=
  .array (texts.map .string)

end Json

end ApiGateway
