import ApiGateway.Text.Chars
import ApiGateway.Yaml.Source
import ApiGateway.Yaml.Token

/-!
# Anchors, tags and directives

Tags are written as a handle with a suffix, or in full between `!<` and `>`. Octets that
a tag writes with `%` are kept as the characters of their codes.
-/

namespace ApiGateway.Yaml

def textOf (spots : List Spot) : String :=
  String.ofList (spots.map Spot.char)

def isNameSpot (spot : Spot) : Bool :=
  isNameChar spot.char

/-- A name after `&` or `*`, which white space or an indicator has to follow. -/
def anchorName? (source : List Spot) : Option (String × List Spot) :=
  let name := source.takeWhile isNameSpot
  let rest := source.dropWhile isNameSpot
  let ends := endsWord rest || match rest with
    | next :: _ => "?:,]\x7d%@\x60".toList.contains next.char
    | [] => true
  if !name.isEmpty && ends then some (textOf name, rest) else none

/-- A character of a tag; the comma and brackets belong to it only between `!<` and `>` and
in directives. -/
def isTagChar (full : Bool) (c : Char) : Bool :=
  isNameChar c || ";/?:@&=+$.!~*'()".toList.contains c || (full && ",[]".toList.contains c)

/-- How many octets have to follow, once an octet is read while `pending` were expected. -/
def pendingOctets? (pending octet : Nat) : Option Nat :=
  if pending > 0 then (if octet / 0x40 = 2 then some (pending - 1) else none)
  else if octet < 0x80 then some 0
  else if octet / 0x20 = 6 then some 1
  else if octet / 0x10 = 14 then some 2
  else if octet / 8 = 30 then some 3
  else none

/-- The longest text of a tag; escaped octets have to make up whole characters. -/
def tagText? (full : Bool) (pending : Nat) : List Spot → Option (List Char × List Spot)
  | [] => if pending = 0 then some ([], []) else none
  | spot :: rest =>
    if spot.char = '%' then
      match rest with
      | high :: low :: after => do
        let h ← Text.hexValue? high.char
        let l ← Text.hexValue? low.char
        let octet := h * 16 + l
        let pending ← pendingOctets? pending octet
        let (text, remaining) ← tagText? full pending after
        return (Char.ofNat octet :: text, remaining)
      | _ => none
    else if pending > 0 then none
    else if isTagChar full spot.char then do
      let (text, remaining) ← tagText? full 0 rest
      return (spot.char :: text, remaining)
    else some ([], spot :: rest)

/-- A handle: an exclamation mark, a name and, if there is one, another exclamation mark. -/
def handle? : List Spot → Option (List Char × List Spot)
  | [] => none
  | spot :: rest =>
    if spot.char = '!' then
      let name := (rest.takeWhile isNameSpot).map Spot.char
      match rest.dropWhile isNameSpot with
      | next :: after =>
        if next.char = '!' then some ('!' :: name ++ ['!'], after)
        else some ('!' :: name, next :: after)
      | [] => some ('!' :: name, [])
    else none

/-- The handle of a tag that has none of its own is `!`; the tag `!` alone has none. -/
def localTag (suffix : List Char) : Token :=
  if suffix.isEmpty then .tag "" "!" else .tag "!" (String.ofList suffix)

/-- A tag from its exclamation mark on, before the check of what follows it. -/
def tagBody? (source : List Spot) : Option (Token × List Spot) :=
  match source with
  | _ :: second :: rest =>
    if second.char = '<' then do
      let (text, after) ← tagText? true 0 rest
      match after with
      | close :: remaining =>
        if close.char = '>' && !text.isEmpty then
          some (.tag "" (String.ofList text), remaining)
        else none
      | [] => none
    else do
      let (handle, after) ← handle? source
      let (text, remaining) ← tagText? false 0 after
      if handle.length > 1 && handle.getLast? = some '!' then
        if text.isEmpty then none
        else some (.tag (String.ofList handle) (String.ofList text), remaining)
      else some (localTag (handle.drop 1 ++ text), remaining)
  | _ => some (localTag [], source.drop 1)

/-- A tag: white space has to follow it, or a comma in brackets. -/
def tag? (inFlow : Bool) (source : List Spot) : Option (Token × List Spot) := do
  let (token, rest) ← tagBody? source
  let beforeComma := match rest with
    | next :: _ => inFlow && next.char = ','
    | [] => false
  if beforeComma || endsWord rest then some (token, rest) else none

/-- One to nine digits. -/
def versionNumber? (source : List Spot) : Option (Nat × List Spot) :=
  let digits := (source.takeWhile fun spot => spot.char.isDigit).map Spot.char
  if digits.isEmpty || digits.length > 9 then none
  else some (Text.decimalValue digits, source.dropWhile fun spot => spot.char.isDigit)

/-- The two numbers of a version with a point between them. -/
def version? (source : List Spot) : Option (Token × List Spot) := do
  let (major, rest) ← versionNumber? (dropBlanks source)
  match rest with
  | point :: after =>
    if point.char = '.' then do
      let (minor, remaining) ← versionNumber? after
      return (.version major minor, remaining)
    else none
  | [] => none

/-- A handle and what it expands to. -/
def handleExpansion? (source : List Spot) : Option (Token × List Spot) := do
  let (handle, rest) ← handle? (dropBlanks source)
  let complete := handle.length = 1 || handle.getLast? = some '!'
  let separated := match rest with
    | next :: _ => next.isBlank
    | [] => false
  if complete && separated then
    let (text, remaining) ← tagText? true 0 (dropBlanks rest)
    if text.isEmpty || !endsWord remaining then none
    else return (.handle (String.ofList handle) (String.ofList text), remaining)
  else none

/-- A directive after its percent sign; it takes up the rest of its line. -/
def directive? (source : List Spot) : Option (Token × List Spot) := do
  let name := textOf (source.takeWhile isNameSpot)
  let rest := source.dropWhile isNameSpot
  let (token, after) ←
    if !endsWord rest then none
    else if name = "YAML" then version? rest
    else if name = "TAG" then handleExpansion? rest
    else none
  let remaining ← endOfLine? after
  return (token, remaining)

end ApiGateway.Yaml
