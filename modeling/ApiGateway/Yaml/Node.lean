import ApiGateway.Yaml.Token

/-!
# Nodes of a document

A document is a tree whose leaves are scalars and references to anchored nodes. A
reference may point to a node around it, so references are followed only on demand and
their number is bounded by the size of the document.
-/

namespace ApiGateway.Yaml

inductive Node where
  /-- A reference to the node that an anchor number stands for. -/
  | alias (anchor : Nat)
  | scalar (style : Style) (tag : Option String) (text : String)
  | sequence (items : List Node)
  | mapping (entries : List (Node × Node))
deriving Inhabited

namespace Node

/-- The node where nothing is written. -/
def empty : Node := .scalar .plain none ""

/-- A plain scalar without text can stand for an empty collection. -/
def isEmptyPlain : Node → Bool
  | .scalar .plain _ text => text.isEmpty
  | _ => false

end Node

structure Document where
  root : Node
  /-- The node for each anchor number. -/
  anchored : List (Nat × Node)
  /-- Leaves count once and collections twice. -/
  size : Nat
deriving Inhabited

/-- How many references may be followed for each unit of a document's size. -/
def referencesPerUnit : Nat := 100

/-- The tag of the null value. -/
def nullTag : String := "tag:yaml.org,2002:null"

/-- The tag of truth values. -/
def boolTag : String := "tag:yaml.org,2002:bool"

/-- The tag of whole numbers. -/
def intTag : String := "tag:yaml.org,2002:int"

/-- What the handles `!` and `!!` expand to unless a directive says otherwise. -/
def defaultHandles : List (String × String) :=
  [("!", "!"), ("!!", "tag:yaml.org,2002:")]

end ApiGateway.Yaml
