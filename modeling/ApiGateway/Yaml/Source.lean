/-!
# Text of a YAML stream

A stream is read as a list of spots: characters that know where they stand. Line
breaks are made alike on the way (`Spot.locate`), so the readers of tokens see one
spot a break and never count lines themselves.
-/

namespace ApiGateway.Yaml

/-- A character with its place: the characters before it, its line and its column. -/
structure Spot where
  char : Char
  index : Nat
  line : Nat
  column : Nat
deriving DecidableEq, Inhabited

/-- The mark that may begin a line without being part of its text. -/
def byteOrderMark : Char := '\ufeff'

/-- A character that a stream may hold. -/
def isAllowed (c : Char) : Bool :=
  let n := c.toNat
  n = 0x09 || n = 0x0A || n = 0x0D || (0x20 ≤ n && n ≤ 0x7E) || n = 0x85 ||
    (0xA0 ≤ n && n ≤ 0xD7FF) || (0xE000 ≤ n && n ≤ 0xFFFD) || 0x10000 ≤ n

/-- A character that ends a line. -/
def isBreak (c : Char) : Bool :=
  c = '\n' || c = '\r' || c = '\u0085' || c = '\u2028' || c = '\u2029'

/-- What a line break contributes to a text: the two separators of paragraphs and lines
stand for themselves. -/
def breakText (c : Char) : Char :=
  if c = '\u2028' || c = '\u2029' then c else '\n'

namespace Spot

/-- Place the characters of a text. A carriage return before a line feed is one break. -/
def locate (index line column : Nat) : List Char → List Spot
  | [] => []
  | '\r' :: '\n' :: rest => ⟨'\n', index, line, column⟩ :: locate (index + 2) (line + 1) 0 rest
  | c :: rest =>
    if isBreak c then ⟨breakText c, index, line, column⟩ :: locate (index + 1) (line + 1) 0 rest
    else ⟨c, index, line, column⟩ :: locate (index + 1) line (column + 1) rest

/-- The spots of a text whose characters are all allowed. -/
def ofText? (text : List Char) : Option (List Spot) :=
  if text.all isAllowed then some (locate 0 0 0 text) else none

def isBreak (spot : Spot) : Bool :=
  Yaml.isBreak spot.char

/-- A space or a tab. -/
def isBlank (spot : Spot) : Bool :=
  spot.char = ' ' || spot.char = '\t'

end Spot

/-- A letter, a digit, `_` or `-`: what names of anchors and directives are made of. -/
def isNameChar (c : Char) : Bool :=
  c.isAlphanum || c = '_' || c = '-'

/-- A character that has a meaning of its own inside brackets. -/
def isFlowIndicator (c : Char) : Bool :=
  c = ',' || c = '[' || c = ']' || c = '\x7b' || c = '\x7d'

/-- The source goes on with white space or not at all. -/
def endsWord : List Spot → Bool
  | [] => true
  | spot :: _ => spot.isBlank || spot.isBreak

def dropBlanks (source : List Spot) : List Spot :=
  source.dropWhile Spot.isBlank

/-- What follows the line, if only blanks and a comment are left of it. -/
def endOfLine? (source : List Spot) : Option (List Spot) :=
  match dropBlanks source with
  | [] => some []
  | spot :: rest =>
    if spot.isBreak then some rest
    else if spot.char = '#' then some ((rest.dropWhile fun spot => !spot.isBreak).drop 1)
    else none

/-- The indicator that a line of three equal characters begins with, at the left margin. -/
def documentMark? : List Spot → Option (Char × List Spot)
  | a :: b :: c :: rest =>
    if a.column = 0 && (a.char = '-' || a.char = '.') && b.char = a.char && c.char = a.char &&
        endsWord rest then
      some (a.char, rest)
    else none
  | _ => none

end ApiGateway.Yaml
