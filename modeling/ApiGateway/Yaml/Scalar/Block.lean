import ApiGateway.Yaml.Source

/-!
# Block scalars

A block scalar is introduced by `|` or `>` and holds the lines that are indented to its
column. Its header may fix the indentation and say what becomes of the breaks at its end.
-/

namespace ApiGateway.Yaml

/-- What becomes of the breaks at the end of a block scalar. -/
inductive Chomping where
  | strip
  | clip
  | keep
deriving DecidableEq, Inhabited

structure BlockHeader where
  chomping : Chomping := .clip
  /-- The indentation relative to the surrounding block, when the header gives it. -/
  increment : Option Nat := none

namespace BlockHeader

def chomping? (c : Char) : Option Chomping :=
  if c = '+' then some .keep else if c = '-' then some .strip else none

/-- A header: an indication of each kind at most, in either order. -/
def read? : List Spot → Option (BlockHeader × List Spot)
  | [] => some ({}, [])
  | first :: rest =>
    match chomping? first.char with
    | some chomping =>
      match rest with
      | second :: after =>
        if second.char = '0' then none
        else if second.char.isDigit then
          some (⟨chomping, some (second.char.toNat - '0'.toNat)⟩, after)
        else some (⟨chomping, none⟩, rest)
      | [] => some (⟨chomping, none⟩, rest)
    | none =>
      if first.char = '0' then none
      else if first.char.isDigit then
        let increment := some (first.char.toNat - '0'.toNat)
        match rest with
        | second :: after =>
          match chomping? second.char with
          | some chomping => some (⟨chomping, increment⟩, after)
          | none => some (⟨.clip, increment⟩, rest)
        | [] => some (⟨.clip, increment⟩, rest)
      else some ({}, first :: rest)

end BlockHeader

/-- The number of spaces that the widest of the blank lines at the beginning, or the first
other line after them, is indented by; a tab among those spaces is refused. -/
def widestIndentation? (widest : Nat) : List Spot → Option Nat
  | [] => some widest
  | spot :: rest =>
    if spot.char = ' ' then widestIndentation? (max widest (spot.column + 1)) rest
    else if spot.char = '\t' then none
    else if spot.isBreak then widestIndentation? widest rest
    else some widest

/-- The text of a block scalar while it is read. -/
structure BlockText where
  reversed : List Char := []
  /-- The break that ended the last line. -/
  lastBreak : Option Char := none
  /-- The breaks of the blank lines after it. -/
  blankLines : List Char := []
  /-- The last line began with a blank. -/
  wasIndented : Bool := false
deriving Inhabited

namespace BlockText

/-- Join the line that begins with a spot to the text before it. -/
def beginLine (folded : Bool) (spot : Spot) (text : BlockText) : BlockText :=
  let fold := folded && text.lastBreak = some '\n' && !text.wasIndented && !spot.isBlank
  let joined := if fold then (if text.blankLines.isEmpty then [' '] else [])
    else text.lastBreak.toList
  { reversed := (joined ++ text.blankLines).reverseAux text.reversed
    wasIndented := spot.isBlank }

/-- The finished text. -/
def finish (chomping : Chomping) (text : BlockText) : String :=
  let tail := match chomping with
    | .strip => []
    | .clip => text.lastBreak.toList
    | .keep => text.lastBreak.toList ++ text.blankLines
  String.ofList (tail.reverseAux text.reversed).reverse

end BlockText

/-- Read the lines of a block scalar that begin at the column `indentation`. -/
def readBlockLines? (folded : Bool) (indentation : Nat) (inLine : Bool) (text : BlockText) :
    List Spot → Option (BlockText × List Spot)
  | [] => some (text, [])
  | spot :: rest =>
    if inLine then
      if spot.isBreak then
        readBlockLines? folded indentation false { text with lastBreak := some spot.char } rest
      else
        readBlockLines? folded indentation true
          { text with reversed := spot.char :: text.reversed } rest
    else if spot.column < indentation && spot.char = ' ' then
      readBlockLines? folded indentation false text rest
    else if spot.column < indentation && spot.char = '\t' then none
    else if spot.isBreak then
      readBlockLines? folded indentation false
        { text with blankLines := text.blankLines ++ [spot.char] } rest
    else if spot.column = indentation then
      let text := text.beginLine folded spot
      readBlockLines? folded indentation true
        { text with reversed := spot.char :: text.reversed } rest
    else some (text, spot :: rest)

/-- The rest of a block scalar after its indicator. `outer` is the indentation that its
lines have at least. -/
def readBlock? (folded : Bool) (outer : Nat) (source : List Spot) :
    Option (String × List Spot) := do
  let (header, afterHeader) ← BlockHeader.read? source
  let lines ← endOfLine? afterHeader
  let indentation ← match header.increment with
    | some increment => some (outer - 1 + increment)
    | none => (widestIndentation? 0 lines).map fun widest => max 1 (max outer widest)
  let (text, rest) ← readBlockLines? folded indentation false {} lines
  return (text.finish header.chomping, rest)

end ApiGateway.Yaml
