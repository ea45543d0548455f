import ApiGateway.Json.Basic
import ApiGateway.Number.Reading
import ApiGateway.Number.Word

/-!
# Reading JSON

`parse?` accepts exactly one document with blanks around its tokens: no comments,
no trailing commas, no byte order mark. The recursion is bounded by the length of
the text, since every value has at least one character.
-/

namespace ApiGateway.Json

/-- The four blanks of the grammar. -/
def isBlank (c : Char) : Bool :=
  c = ' ' || c = '\n' || c = '\t' || c = '\r'

def skipBlanks (text : List Char) : List Char :=
  text.dropWhile isBlank

/-- Four hexadecimal digits. -/
def scanHex4? : List Char → Option (Nat × List Char)
  | a :: b :: c :: d :: rest => do
    let a ← Text.hexValue? a
    let b ← Text.hexValue? b
    let c ← Text.hexValue? c
    let d ← Text.hexValue? d
    return (((a * 16 + b) * 16 + c) * 16 + d, rest)
  | _ => none

def isHighSurrogate (unit : Nat) : Bool := 0xD800 ≤ unit && unit < 0xDC00
def isLowSurrogate (unit : Nat) : Bool := 0xDC00 ≤ unit && unit < 0xE000

/-- One scanned piece of a string: a character, or a surrogate that has no partner. -/
inductive Piece where
  | char (c : Char)
  | unpaired

/-- The character that a single letter after a backslash stands for. -/
def simpleEscape? (c : Char) : Option Char :=
  if c = '"' then some '"'
  else if c = '\\' then some '\\'
  else if c = '/' then some '/'
  else if c = 'b' then some '\x08'
  else if c = 'f' then some '\x0c'
  else if c = 'n' then some '\n'
  else if c = 'r' then some '\r'
  else if c = 't' then some '\t'
  else none

/-- The escape after `\u`: one unit, or a high surrogate followed by an escaped low one. -/
def scanUnicode? (text : List Char) : Option (Piece × List Char) := do
  let (unit, rest) ← scanHex4? text
  if isHighSurrogate unit then
    match rest with
    | '\\' :: 'u' :: more =>
      let (low, after) ← scanHex4? more
      if isLowSurrogate low then
        return (.char (Char.ofNat (0x10000 + (unit - 0xD800) * 0x400 + (low - 0xDC00))), after)
      else return (.unpaired, rest)
    | _ => return (.unpaired, rest)
  else if isLowSurrogate unit then return (.unpaired, rest)
  else return (.char (Char.ofNat unit), rest)

/-- The rest of a string after its opening quote: its pieces and what follows the closing
quote. -/
def scanPieces? : Nat → List Char → Option (List Piece × List Char)
  | 0, _ => none
  | _ + 1, [] => none
  | fuel + 1, c :: rest =>
    if c = '"' then some ([], rest)
    else if c = '\\' then
      match rest with
      | [] => none
      | e :: tail =>
        if e = 'u' then do
          let (piece, after) ← scanUnicode? tail
          let (pieces, remaining) ← scanPieces? fuel after
          return (piece :: pieces, remaining)
        else do
          let decoded ← simpleEscape? e
          let (pieces, remaining) ← scanPieces? fuel tail
          return (.char decoded :: pieces, remaining)
    else if c.toNat < 0x20 then none
    else do
      let (pieces, remaining) ← scanPieces? fuel rest
      return (.char c :: pieces, remaining)

/-- The text of the pieces, unless one is an unpaired surrogate. -/
def textOfPieces? : List Piece → Option (List Char)
  | [] => some []
  | .char c :: rest => (textOfPieces? rest).map (c :: ·)
  | .unpaired :: _ => none

/-- The rest of a string after its opening quote; the text is `none` when it has no value. -/
def scanString? (text : List Char) : Option (Option String × List Char) := do
  let (pieces, rest) ← scanPieces? (text.length + 1) text
  return ((textOfPieces? pieces).map String.ofList, rest)

/-- The value of a number's parts: an integer when it is written as one and fits a 64-bit
word, a double otherwise. -/
def numberOf (negative : Bool) (whole : List Char) (fraction : Option (List Char))
    (exponent : Option Int) : Json :=
  let asReal : Json :=
    match Number.ofScaled? negative ⟨whole, fraction.getD [], exponent.getD 0⟩ with
    | some x => .real x
    | none => .unreadable
  match fraction, exponent with
  | none, none =>
    let value := Text.decimalValue whole
    if !negative && value < Number.wordBound 64 then .integer value
    else if negative && 0 < value && value ≤ Number.wordBound 63 then .integer (-(value : Int))
    else asReal
  | _, _ => asReal

/-- The digits after a point, if there is a point; it needs at least one digit. -/
def scanFraction? : List Char → Option (Option (List Char) × List Char)
  | '.' :: tail =>
    let digits := tail.takeWhile Char.isDigit
    if digits.isEmpty then none else some (some digits, tail.dropWhile Char.isDigit)
  | tail => some (none, tail)

/-- The exponent after its letter, if there is one. -/
def scanPower? : List Char → Option (Option Int × List Char)
  | e :: tail =>
    if e = 'e' || e = 'E' then (Number.scanExponent? tail).map fun (x, rest) => (some x, rest)
    else some (none, e :: tail)
  | [] => some (none, [])

/-- A number behind its sign. -/
def scanUnsigned? (negative : Bool) (text : List Char) : Option (Json × List Char) :=
  let whole := text.takeWhile Char.isDigit
  if whole.isEmpty || (whole.length > 1 && whole.head? = some '0') then none
  else do
    let (fraction, afterFraction) ← scanFraction? (text.dropWhile Char.isDigit)
    let (exponent, rest) ← scanPower? afterFraction
    return (numberOf negative whole fraction exponent, rest)

/-- A number: no leading zeros, at least one digit on each side of a point. -/
def scanNumber? : List Char → Option (Json × List Char)
  | '-' :: rest => scanUnsigned? true rest
  | rest => scanUnsigned? false rest

/-- A literal word with the value it stands for. -/
def scanWord? (expected : String) (value : Json) (text : List Char) :
    Option (Json × List Char) :=
  (Text.dropPrefix? expected.toList text).map fun rest => (value, rest)

/-- An object whose names all have a text. -/
def objectOf (members : List (Option String × Json)) : Json :=
  match members.mapM fun (name, value) => name.map (·, value) with
  | some named => .object named
  | none => .unreadable

mutual

/-- One value after blanks. -/
def scanValue? : Nat → List Char → Option (Json × List Char)
  | 0, _ => none
  | fuel + 1, text =>
    match skipBlanks text with
    | [] => none
    | c :: rest =>
      if c = '"' then do
        let (decoded, remaining) ← scanString? rest
        return (match decoded with | some text => .string text | none => .unreadable, remaining)
      else if c = '[' then
        match skipBlanks rest with
        | ']' :: remaining => some (.array [], remaining)
        | _ => do
          let (items, remaining) ← scanItems? fuel rest
          return (.array items, remaining)
      else if c = '\x7b' then
        match skipBlanks rest with
        | '\x7d' :: remaining => some (.object [], remaining)
        | _ => do
          let (members, remaining) ← scanMembers? fuel rest
          return (objectOf members, remaining)
      else if c = 'n' then scanWord? "null" .null (c :: rest)
      else if c = 't' then scanWord? "true" (.bool true) (c :: rest)
      else if c = 'f' then scanWord? "false" (.bool false) (c :: rest)
      else scanNumber? (c :: rest)

/-- One or more values with commas between them, up to the closing bracket. -/
def scanItems? : Nat → List Char → Option (List Json × List Char)
  | 0, _ => none
  | fuel + 1, text => do
    let (item, rest) ← scanValue? fuel text
    match skipBlanks rest with
    | ',' :: more => do
      let (items, remaining) ← scanItems? fuel more
      return (item :: items, remaining)
    | ']' :: remaining => return ([item], remaining)
    | _ => none

/-- One or more members with commas between them, up to the closing brace. -/
def scanMembers? : Nat → List Char → Option (List (Option String × Json) × List Char)
  | 0, _ => none
  | fuel + 1, text =>
    match skipBlanks text with
    | '"' :: afterQuote => do
      let (name, afterName) ← scanString? afterQuote
      match skipBlanks afterName with
      | ':' :: afterColon => do
        let (value, rest) ← scanValue? fuel afterColon
        match skipBlanks rest with
        | ',' :: more => do
          let (members, remaining) ← scanMembers? fuel more
          return ((name, value) :: members, remaining)
        | '\x7d' :: remaining => return ([(name, value)], remaining)
        | _ => none
      | _ => none
    | _ => none

end

/-- Read one document that takes up the whole text. -/
def parseChars? (text : List Char) : Option Json := do
  let (document, rest) ← scanValue? (2 * text.length + 2) text
  if (skipBlanks rest).isEmpty then some document else none

def parse? (text : String) : Option Json :=
  parseChars? text.toList

end ApiGateway.Json
