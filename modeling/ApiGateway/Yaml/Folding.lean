import ApiGateway.Yaml.Source

/-!
# Folding of lines

Between two words of a flow scalar stands a gap of blanks and line breaks.
`Gap.text` is what the gap contributes: its blanks when it stays on a line, a space
for a single break, and the further breaks when there are several.
-/

namespace ApiGateway.Yaml

/-- White space between two words. -/
structure Gap where
  blanks : List Char := []
  /-- A break has been crossed, written or escaped. -/
  crossed : Bool := false
  first : Option Char := none
  others : List Char := []
deriving DecidableEq, Inhabited

namespace Gap

/-- The gap after an escaped line break. -/
def escaped : Gap := { crossed := true }

def isEmpty (gap : Gap) : Bool :=
  gap.blanks.isEmpty && !gap.crossed

/-- Blanks count only before the first break. -/
def addBlank (gap : Gap) (c : Char) : Gap :=
  if gap.crossed then gap else { gap with blanks := gap.blanks ++ [c] }

def addBreak (gap : Gap) (c : Char) : Gap :=
  if gap.crossed then { gap with others := gap.others ++ [c] }
  else { crossed := true, first := some c }

/-- What the gap contributes to the text. -/
def text (gap : Gap) : List Char :=
  if !gap.crossed then gap.blanks
  else match gap.first with
    | none => gap.others
    | some c =>
      if c = '\n' then (if gap.others.isEmpty then [' '] else gap.others)
      else c :: gap.others

/-- Extend a reversed text by the gap. -/
def appendTo (gap : Gap) (reversed : List Char) : List Char :=
  gap.text.reverseAux reversed

end Gap

end ApiGateway.Yaml
