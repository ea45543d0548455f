import ApiGateway.Text.Chars
import ApiGateway.Yaml.Folding

/-!
# Quoted scalars

Between single quotes a quote is written twice; between double quotes a backslash
begins an escape. Both fold lines, and neither may hold a document mark.
-/

namespace ApiGateway.Yaml

/-- The character that one letter after a backslash stands for. -/
def shortEscape? (c : Char) : Option Char :=
  match c with
  | '0' => some '\x00'
  | 'a' => some '\x07'
  | 'b' => some '\x08'
  | 't' => some '\t'
  | '\t' => some '\t'
  | 'n' => some '\n'
  | 'v' => some '\x0b'
  | 'f' => some '\x0c'
  | 'r' => some '\r'
  | 'e' => some '\x1b'
  | ' ' => some ' '
  | '"' => some '"'
  | '/' => some '/'
  | '\\' => some '\\'
  | 'N' => some '\u0085'
  | '_' => some '\u00a0'
  | 'L' => some '\u2028'
  | 'P' => some '\u2029'
  | _ => none

/-- How many hexadecimal digits a letter after a backslash asks for. -/
def codeWidth? (c : Char) : Option Nat :=
  match c with
  | 'x' => some 2
  | 'u' => some 4
  | 'U' => some 8
  | _ => none

/-- The number that exactly `width` hexadecimal digits write. -/
def hexCode? (width : Nat) (source : List Spot) : Option Nat := do
  let digits ← (source.take width).mapM fun spot => Text.hexValue? spot.char
  if digits.length = width then some (digits.foldl (fun code digit => code * 16 + digit) 0)
  else none

/-- The character of a code that is no surrogate. -/
def charOfCode? (code : Nat) : Option Char :=
  if code.isValidChar then some (Char.ofNat code) else none

/-- The character of an escape, with the number of spots after the letter that it takes. -/
def escape? (letter : Spot) (rest : List Spot) : Option (Char × Nat) :=
  match codeWidth? letter.char with
  | some width => do
    let code ← hexCode? width rest
    let c ← charOfCode? code
    return (c, width)
  | none => (shortEscape? letter.char).map (·, 0)

/-- The rest of a quoted scalar, after a reversed text and a gap. -/
def readQuotedFrom? (double : Bool) (reversed : List Char) (gap : Gap) (source : List Spot) :
    Option (String × List Spot) :=
  match source with
  | [] => none
  | spot :: rest =>
    if spot.isBreak then readQuotedFrom? double reversed (gap.addBreak spot.char) rest
    else if spot.isBlank then readQuotedFrom? double reversed (gap.addBlank spot.char) rest
    else if (documentMark? (spot :: rest)).isSome then none
    else
      let reversed := gap.appendTo reversed
      if double && spot.char = '"' then some (String.ofList reversed.reverse, rest)
      else if double && spot.char = '\\' then
        match rest with
        | [] => none
        | letter :: after =>
          if letter.isBreak then readQuotedFrom? double reversed Gap.escaped after
          else match escape? letter after with
            | none => none
            | some (c, width) => readQuotedFrom? double (c :: reversed) {} (after.drop width)
      else if !double && spot.char = '\'' then
        match rest with
        | [] => some (String.ofList reversed.reverse, rest)
        | next :: after =>
          if next.char = '\'' then readQuotedFrom? double ('\'' :: reversed) {} after
          else some (String.ofList reversed.reverse, rest)
      else readQuotedFrom? double (spot.char :: reversed) {} rest
termination_by source.length

/-- The rest of a quoted scalar after its opening quote. -/
def readQuoted? (double : Bool) (source : List Spot) : Option (String × List Spot) :=
  readQuotedFrom? double [] {} source

end ApiGateway.Yaml
