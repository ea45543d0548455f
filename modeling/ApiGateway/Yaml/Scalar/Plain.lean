import ApiGateway.Yaml.Folding

/-!
# Plain scalars

A plain scalar goes on over lines that are indented enough. It ends before a comment,
before `: `, before an indicator of brackets when it stands in them, and before a mark
that ends the document.
-/

namespace ApiGateway.Yaml

/-- A scalar that has been read, with what follows it. -/
structure PlainScalar where
  text : String
  /-- A line break stands between the scalar and what follows. -/
  endsLine : Bool
  rest : List Spot

/-- After white space, a plain scalar ends at the left of its indentation, at a comment and
at a document mark. -/
def endsPlainScalar (inFlow : Bool) (indentation : Nat) (spot : Spot) (rest : List Spot) : Bool :=
  (!inFlow && spot.column < indentation) || spot.char = '#' ||
    (documentMark? (spot :: rest)).isSome

/-- A colon in brackets may not stand before an indicator. -/
def isMisplacedColon (c : Char) (rest : List Spot) : Bool :=
  c = ':' && match rest with
    | next :: _ => next.char = '?' || isFlowIndicator next.char
    | [] => false

/-- The rest of a plain scalar, after a reversed text and a gap. -/
def readPlainFrom? (inFlow : Bool) (indentation : Nat) (reversed : List Char) (gap : Gap) :
    List Spot → Option PlainScalar
  | [] => some ⟨String.ofList reversed.reverse, gap.crossed, []⟩
  | spot :: rest =>
    if spot.isBreak then
      readPlainFrom? inFlow indentation reversed (gap.addBreak spot.char) rest
    else if spot.isBlank then
      if gap.crossed && spot.column < indentation && spot.char = '\t' then none
      else readPlainFrom? inFlow indentation reversed (gap.addBlank spot.char) rest
    else if !gap.isEmpty && endsPlainScalar inFlow indentation spot rest then
      some ⟨String.ofList reversed.reverse, gap.crossed, spot :: rest⟩
    else if inFlow && isMisplacedColon spot.char rest then none
    else if (spot.char = ':' && endsWord rest) || (inFlow && isFlowIndicator spot.char) then
      some ⟨String.ofList reversed.reverse, gap.crossed, spot :: rest⟩
    else readPlainFrom? inFlow indentation (spot.char :: gap.appendTo reversed) {} rest

/-- The plain scalar at the beginning of a source. -/
def readPlain? (inFlow : Bool) (indentation : Nat) (source : List Spot) : Option PlainScalar :=
  readPlainFrom? inFlow indentation [] {} source

end ApiGateway.Yaml
