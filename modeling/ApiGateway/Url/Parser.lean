import ApiGateway.Net.Address
import ApiGateway.Url.Basic
import ApiGateway.Url.Domain
import ApiGateway.Url.PercentEncoding

/-!
# Reading locators

`Url.parse` reads an absolute locator into canonical form: blanks around it and
line breaks in it are dropped, scheme and host are folded, numeric hosts become
addresses, dot segments are resolved, and each part is percent encoded as its
position demands.
-/

namespace ApiGateway.Url

open Text

/-! ## Hosts -/

/-- A part of a dotted number: decimal, octal after `0` or hexadecimal after `0x`. The inner
`none` is a number that fits no address. -/
def hostNumber? (part : List Char) : Option Nat :=
  let (radix, digits) := match part with
    | '0' :: 'x' :: rest => (16, rest)
    | '0' :: 'X' :: rest => (16, rest)
    | '0' :: c :: rest => (8, c :: rest)
    | digits => (10, digits)
  if part.isEmpty then none
  else (digits.mapM fun c => (hexValue? c).filter (· < radix)).map fun values =>
    values.foldl (fun total value => total * radix + value) 0

/-- The parts of a dotted name without a last empty one. -/
def dottedParts (domain : List Char) : List (List Char) :=
  let parts := splitOn '.' domain
  if 1 < parts.length ∧ parts.getLast? = some [] then parts.dropLast else parts

/-- Does the last part of a name make it a numeric address? -/
def endsInNumber (domain : List Char) : Bool :=
  match (dottedParts domain).getLast? with
  | none => false
  | some [] => false
  | some last =>
    last.all Char.isDigit ||
      (match last with
      | '0' :: x :: rest => (x = 'x' || x = 'X') && rest.all fun c => (hexValue? c).isSome
      | _ => false)

/-- The address of one to four numbers; the last one fills the bytes that are left. -/
def hostAddress? (domain : List Char) : Option Nat := do
  let parts := dottedParts domain
  if 4 < parts.length then none
  else
    let numbers ← parts.mapM hostNumber?
    let last ← numbers.getLast?
    let front := numbers.dropLast
    if Nat.pow 256 (4 - front.length) ≤ last ∨ front.any (255 < ·) then none
    else
      return (front.zipIdx.foldl (fun total (n, index) => total + n * Nat.pow 256 (3 - index)) last)

def dottedText (address : Nat) : List Char :=
  joinWith '.' ([3, 2, 1, 0].map fun place => Nat.toDigits 10 (address / Nat.pow 256 place % 256))

/-- A host in brackets. -/
def bracketedHost (inner : List Char) : Except UrlError (List Char) :=
  match Net.scanV6? inner with
  | some (address, []) => .ok ('[' :: (Net.compressedChars address.groups ++ [']']))
  | _ => .error .invalidIpv6

/-- The characters between brackets, if the host is in brackets. -/
def bracketed? (host : List Char) : Option (Option (List Char)) :=
  match host with
  | '[' :: rest => some (if rest.getLast? = some ']' then some rest.dropLast else none)
  | _ => none

/-- The host of a special scheme: an address or a domain. -/
def parseHost (host : List Char) : Except UrlError (List Char) :=
  match bracketed? host with
  | some (some inner) => bracketedHost inner
  | some none => .error .invalidIpv6
  | none =>
    match String.fromUTF8? (ByteArray.mk (percentDecode host).toArray) with
    | none => .error .invalidInternationalName
    | some decoded =>
      match Domain.toAscii? decoded.toList with
      | none => .error .invalidInternationalName
      | some [] => .error .emptyHost
      | some domain =>
        if endsInNumber domain then
          match hostAddress? domain with
          | some address => .ok (dottedText address)
          | none => .error .invalidIpv4
        else .ok domain

def isForbiddenHostChar (c : Char) : Bool :=
  c.toNat = 0 || " #/:<>?@[\\]^|".toList.contains c

/-- The host of any other scheme is kept as it is. -/
def parseOpaqueHost (host : List Char) : Except UrlError (List Char) :=
  match bracketed? host with
  | some (some inner) => bracketedHost inner
  | some none => .error .invalidIpv6
  | none =>
    if host.any isForbiddenHostChar then .error .invalidDomainCharacter
    else .ok (percentEncode escapesControls host)

/-! ## Paths -/

def isDot (segment : List Char) : Bool :=
  let folded := lowerAscii segment
  folded = ['.'] || folded = "%2e".toList

def isDoubleDot (segment : List Char) : Bool :=
  let folded := lowerAscii segment
  folded = "..".toList || folded = ".%2e".toList || folded = "%2e.".toList ||
    folded = "%2e%2e".toList

/-- A letter followed by a colon or a bar. -/
def isDrive (segment : List Char) : Bool :=
  match segment with
  | [letter, mark] => letter.isAlpha && (mark = ':' || mark = '|')
  | _ => false

/-- Resolve dot segments; the resolved segments are collected in reverse. A file path keeps
its drive. -/
def resolve (file : Bool) : List (List Char) → List (List Char) → List (List Char)
  | resolved, [] => resolved
  | resolved, segment :: rest =>
    let isLast := rest.isEmpty
    if isDoubleDot segment then
      let shortened := match resolved with
        | [only] => if file && isDrive only then [only] else []
        | resolved => resolved.drop 1
      resolve file (if isLast then [] :: shortened else shortened) rest
    else if isDot segment then
      resolve file (if isLast then [] :: resolved else resolved) rest
    else
      let written := percentEncode escapesPath segment
      let written := if file && resolved.isEmpty && isDrive segment then
          segment.take 1 ++ [':'] else written
      resolve file (written :: resolved) rest

/-- Cut a path into its segments; a backslash separates only in special schemes. -/
def segmentsOf (special : Bool) (path : List Char) : List (List Char) :=
  splitOn '/' (if special then path.map fun c => if c = '\\' then '/' else c else path)

/-- The canonical path of the characters after its first slash. -/
def canonicalPath (special file : Bool) (path : List Char) : List Char :=
  let segments := (resolve file [] (segmentsOf special path)).reverse
  let segments := if file then
      match segments.dropWhile List.isEmpty with
      | [] => [[]]
      | segments => segments
    else segments
  segments.flatMap ('/' :: ·)

/-! ## Parts -/

def endsAuthority (special : Bool) (c : Char) : Bool :=
  c = '/' || c = '?' || c = '#' || (special && c = '\\')

def endsPath (c : Char) : Bool :=
  c = '?' || c = '#'

/-- Query and fragment of what follows the path. -/
def queryAndFragment (special : Bool) (text : List Char) :
    Option String × Option String :=
  let fragmentOf (after : List Char) : Option String :=
    match after with
    | '#' :: fragment => some (String.ofList (percentEncode escapesFragment fragment))
    | _ => none
  match text with
  | '?' :: rest =>
    (some (String.ofList (percentEncode (escapesQuery special) (rest.takeWhile (· ≠ '#')))),
      fragmentOf (rest.dropWhile (· ≠ '#')))
  | text => (none, fragmentOf text)

/-- User name and password with the `@` behind them; nothing when both are empty. -/
def userinfoText (userinfo : List Char) : List Char :=
  let (name, password) := (splitAtFirst? ':' userinfo).getD (userinfo, [])
  let name := percentEncode escapesUserinfo name
  let password := percentEncode escapesUserinfo password
  let written := if password.isEmpty then name else name ++ ':' :: password
  if written.isEmpty then [] else written ++ ['@']

/-- The host ends at a colon outside brackets. -/
def hostLength : Bool → List Char → Nat
  | _, [] => 0
  | inside, c :: rest =>
    if c = ':' && !inside then 0
    else hostLength (if c = '[' then true else if c = ']' then false else inside) rest + 1

/-- A socket number of digits only; the scheme's own number and no digits are no number. -/
def parseSocket (scheme : String) (text : List Char) : Except UrlError (Option Nat) :=
  if text.isEmpty then .ok none
  else if text.all Char.isDigit then
    let number := decimalValue text
    if 65535 < number then .error .invalidPortNumber
    else .ok (if defaultSocket? scheme = some number then none else some number)
  else .error .invalidPortNumber

/-- The user information of an authority and what follows its `@`. -/
def splitUserinfo (authority : List Char) : Option (List Char) × List Char :=
  match splitAtLast? '@' authority with
  | some (userinfo, remaining) => (some userinfo, remaining)
  | none => (none, authority)

/-- The parts of an authority; the flag says that something follows it. -/
def parseAuthority (scheme : String) (followed : Bool) (authority : List Char) :
    Except UrlError UrlAuthority :=
  let special := isSpecialScheme scheme
  let (userinfo, hostAndSocket) := splitUserinfo authority
  let written := userinfoText (userinfo.getD [])
  let split := hostLength false hostAndSocket
  let hostText := hostAndSocket.take split
  let socketText := hostAndSocket.drop split
  if userinfo = some [] ∧ hostAndSocket.isEmpty ∧ followed then .error .emptyHost
  else if special ∧ hostText.isEmpty then .error .emptyHost
  else match if special then parseHost hostText else parseOpaqueHost hostText with
    | .error error => .error error
    | .ok host =>
      if host.isEmpty ∧ (!socketText.isEmpty ∨ !written.isEmpty) then .error .emptyHost
      else (parseSocket scheme (socketText.drop 1)).map fun number =>
        ⟨String.ofList written, String.ofList host, number⟩

/-- The path after an authority. -/
def pathAfterAuthority (special : Bool) (text : List Char) : List Char :=
  match text with
  | [] => if special then ['/'] else []
  | _ :: segments => canonicalPath special false segments

/-- Everything after the slashes that open an authority. -/
def parseAfterSlashes (scheme : String) (text : List Char) : Except UrlError Url :=
  let special := isSpecialScheme scheme
  let rest := text.dropWhile fun c => !endsAuthority special c
  (parseAuthority scheme (!rest.isEmpty) (text.takeWhile fun c => !endsAuthority special c)).map
    fun authority =>
      let (query, fragment) := queryAndFragment special (rest.dropWhile fun c => !endsPath c)
      { scheme
        authority := some authority
        path := String.ofList (pathAfterAuthority special (rest.takeWhile fun c => !endsPath c))
        query
        fragment }

/-- A locator of the file scheme; the host `localhost` is none. -/
def parseFile (text : List Char) : Except UrlError Url := do
  let isSlash (c : Char) : Bool := c = '/' || c = '\\'
  let afterSlashes : Option (List Char) := match text with
    | a :: b :: rest => if isSlash a && isSlash b then some rest else none
    | _ => none
  let (host, rest) ← match afterSlashes with
    | none => pure ([], match text with
        | c :: rest => if isSlash c then rest else text
        | [] => [])
    | some body =>
      let hostText := body.takeWhile fun c => !endsAuthority true c
      let rest := body.dropWhile fun c => !endsAuthority true c
      let afterFirst := match rest with
        | c :: tail => if isSlash c then tail else rest
        | [] => []
      if hostText.isEmpty then pure ([], afterFirst)
      else if isDrive hostText then pure ([], body)
      else do
        let host ← parseHost hostText
        pure (if host = "localhost".toList then [] else host, afterFirst)
  let pathText := rest.takeWhile fun c => !endsPath c
  let path := canonicalPath true true pathText
  let host := match path with
    | _ :: letter :: ':' :: tail =>
      if letter.isAlpha && (tail.isEmpty || tail.head? = some '/') then [] else host
    | _ => host
  let (query, fragment) := queryAndFragment true (rest.dropWhile fun c => !endsPath c)
  return {
    scheme := "file"
    authority := some ⟨"", String.ofList host, none⟩
    path := String.ofList path
    query
    fragment }

/-- A locator without an authority: a rooted path, or text that is no path. -/
def parseWithoutAuthority (scheme : String) (text : List Char) : Url :=
  let body := text.takeWhile fun c => !endsPath c
  let path := match body with
    | '/' :: segments => canonicalPath false false segments
    | body => percentEncode escapesControls body
  let (query, fragment) := queryAndFragment false (text.dropWhile fun c => !endsPath c)
  { scheme, authority := none, path := String.ofList path, query, fragment }

/-- A scheme in lower case and what follows its colon. -/
def scanScheme? (text : List Char) : Option (List Char × List Char) := do
  let isSchemeChar (c : Char) : Bool := c.isAlphanum || c = '+' || c = '-' || c = '.'
  let scheme := text.takeWhile isSchemeChar
  if !(scheme.take 1).any Char.isAlpha then none
  else match text.dropWhile isSchemeChar with
    | ':' :: rest => return (lowerAscii scheme, rest)
    | _ => none

def isTrimmed (c : Char) : Bool := c.toNat ≤ 0x20

def isDropped (c : Char) : Bool := c = '\t' || c = '\n' || c = '\r'

/-- Read an absolute locator. -/
def parse (text : String) : Except UrlError Url :=
  let cleaned := (trimWith isTrimmed text.toList).filter fun c => !isDropped c
  match scanScheme? cleaned with
  | none => .error .relativeWithoutBase
  | some (schemeChars, rest) =>
    let scheme := String.ofList schemeChars
    if scheme = "file" then parseFile rest
    else if isSpecialScheme scheme then
      parseAfterSlashes scheme (rest.dropWhile fun c => c = '/' || c = '\\')
    else match rest with
      | '/' :: '/' :: body => parseAfterSlashes scheme body
      | rest => .ok (parseWithoutAuthority scheme rest)

/-- Scheme, host and socket number of a locator, written without a path. Schemes without an
origin give `null`; a wrapped locator has the origin of what it wraps. -/
def originText : Nat → Url → String
  | 0, _ => "null"
  | fuel + 1, url =>
    if url.scheme = "blob" then
      match parse url.path with
      | .ok inner => originText fuel inner
      | .error _ => "null"
    else match defaultSocket? url.scheme, url.authority with
      | some _, some authority =>
        url.scheme ++ "://" ++ { authority with userinfo := "" }.text
      | _, _ => "null"

/-- The origin as text. -/
def origin (url : Url) : String :=
  originText (url.path.length + 2) url

end ApiGateway.Url
