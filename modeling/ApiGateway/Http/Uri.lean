import ApiGateway.Text.Chars

/-!
# Request targets

`Uri.parse` reads the target of a request in one of its forms: a path with an
optional query, an absolute target with scheme and authority, an authority
alone, or the asterisk. A fragment is cut off. `Uri.text` writes a target back.
-/

namespace ApiGateway.Http

/-- Why a text is no request target. -/
inductive UriError where
  | empty
  | tooLong
  | invalidCharacter
  | invalidAuthority
  | invalidFormat
  | schemeTooLong
deriving DecidableEq

namespace UriError

def message : UriError → String
  | empty => "empty string"
  | tooLong => "uri too long"
  | invalidCharacter => "invalid uri character"
  | invalidAuthority => "invalid authority"
  | invalidFormat => "invalid format"
  | schemeTooLong => "scheme too long"

end UriError

/-- A request target. Absolute targets have a path of at least `/`; a lone authority has an
empty path. -/
structure Uri where
  scheme : Option String
  authority : Option String
  path : String
  query : Option String
deriving DecidableEq

namespace Uri

/-- The longest target in bytes. -/
def maxLength : Nat := 65534

/-- The longest scheme. -/
def maxSchemeLength : Nat := 64

def isSchemeChar (c : Char) : Bool :=
  c.isAlphanum || c = '+' || c = '-' || c = '.' || c = '~'

/-- Characters of an authority besides the percent sign. -/
def isAuthorityChar (c : Char) : Bool :=
  c.isAlphanum || "!$&'()*+,-.:;=@[]_~".toList.contains c

def endsAuthority (c : Char) : Bool :=
  c = '/' || c = '?' || c = '#'

/-- What a scan has seen of an authority since the last `@` or closing bracket. -/
structure AuthorityScan where
  colons : Nat
  opened : Bool
  closed : Bool
  percent : Bool
  endsWithAt : Bool

def AuthorityScan.start : AuthorityScan := ⟨0, false, false, false, false⟩

/-- One character of an authority. -/
def AuthorityScan.step (scan : AuthorityScan) (c : Char) : Except UriError AuthorityScan :=
  let scan' := { scan with endsWithAt := false }
  if c = ':' then
    if 8 ≤ scan.colons then .error .invalidAuthority
    else .ok { scan' with colons := scan.colons + 1 }
  else if c = '[' then
    if scan.percent || scan.opened then .error .invalidAuthority
    else .ok { scan' with opened := true }
  else if c = ']' then
    if !scan.opened || scan.closed then .error .invalidAuthority
    else .ok { scan' with closed := true, colons := 0, percent := false }
  else if c = '@' then .ok { scan' with colons := 0, percent := false, endsWithAt := true }
  else if c = '%' then .ok { scan' with percent := true }
  else if isAuthorityChar c then .ok scan'
  else .error .invalidCharacter

/-- Check the characters of an authority: brackets in pairs, at most one colon after the host,
percent signs only in user information and brackets, something behind the last `@`. -/
def checkAuthority (authority : List Char) : Except UriError Unit := do
  let scan ← authority.foldlM AuthorityScan.step AuthorityScan.start
  if scan.opened != scan.closed || 1 < scan.colons || scan.endsWithAt || scan.percent then
    throw .invalidAuthority

/-- The scheme of an absolute target and what follows its `://`. -/
def scanScheme (text : List Char) : Except UriError (Option (String × List Char)) :=
  let known (scheme : String) : Option (String × List Char) :=
    let opening := scheme.toList ++ [':', '/', '/']
    if Text.sameIgnoringCase (text.take opening.length) opening then
      some (scheme, text.drop opening.length)
    else none
  match known "http" <|> known "https" with
  | some found => .ok (some found)
  | none =>
    let scheme := text.takeWhile isSchemeChar
    match Text.dropPrefix? [':', '/', '/'] (text.dropWhile isSchemeChar) with
    | some rest =>
      if maxSchemeLength < scheme.length then .error .schemeTooLong
      else .ok (some (String.ofList scheme, rest))
    | none => .ok none

def isPathChar (c : Char) : Bool :=
  let n := c.toNat
  n = 0x21 || (0x24 ≤ n && n ≤ 0x3B) || n = 0x3D || (0x40 ≤ n && n ≤ 0x5F) ||
    (0x61 ≤ n && n ≤ 0x7A) || n = 0x7C || n = 0x7E || n = 0x22 || n = 0x7B || n = 0x7D ||
    0x80 ≤ n

def isQueryChar (c : Char) : Bool :=
  let n := c.toNat
  n = 0x21 || (0x24 ≤ n && n ≤ 0x3B) || n = 0x3D || (0x3F ≤ n && n ≤ 0x7E) || 0x80 ≤ n

/-- Path and query up to a fragment. -/
def scanPathAndQuery (text : List Char) : Except UriError (List Char × Option (List Char)) := do
  let path := text.takeWhile fun c => c ≠ '?' && c ≠ '#'
  if !path.all isPathChar then throw .invalidCharacter
  match text.dropWhile fun c => c ≠ '?' && c ≠ '#' with
  | '?' :: rest =>
    let query := rest.takeWhile (· ≠ '#')
    if !query.all isQueryChar then throw .invalidCharacter
    return (path, some query)
  | _ => return (path, none)

def rooted (path : List Char) : String :=
  if path.isEmpty then "/" else String.ofList path

/-- A target that starts with a scheme or is an authority alone. -/
def parseFull (text : List Char) : Except UriError Uri := do
  match ← scanScheme text with
  | none =>
    let authority := text.takeWhile fun c => !endsAuthority c
    checkAuthority authority
    if authority.length ≠ text.length then throw .invalidFormat
    return ⟨none, some (String.ofList text), "", none⟩
  | some (scheme, rest) =>
    let authority := rest.takeWhile fun c => !endsAuthority c
    checkAuthority authority
    if authority.isEmpty then throw .invalidFormat
    let (path, query) ← scanPathAndQuery (rest.dropWhile fun c => !endsAuthority c)
    return ⟨some scheme, some (String.ofList authority), rooted path, query.map String.ofList⟩

/-- Read a request target. -/
def parse (text : String) : Except UriError Uri :=
  if maxLength < text.utf8ByteSize then .error .tooLong
  else match text.toList with
    | [] => .error .empty
    | ['*'] => .ok ⟨none, none, "*", none⟩
    | '/' :: rest => do
      let (path, query) ← scanPathAndQuery ('/' :: rest)
      return ⟨none, none, rooted path, query.map String.ofList⟩
    | [c] => do
      if endsAuthority c then throw .invalidCharacter
      checkAuthority [c]
      return ⟨none, some (String.singleton c), "", none⟩
    | chars => parseFull chars

/-- The written form. -/
def text (uri : Uri) : String :=
  (match uri.scheme with
    | some scheme => scheme ++ "://"
    | none => "") ++
    uri.authority.getD "" ++ uri.path ++
    (match uri.query with
    | some query => "?" ++ query
    | none => "")

/-- Path and query as they stand on a request line. -/
def pathAndQuery (uri : Uri) : String :=
  uri.path ++ (match uri.query with
    | some query => "?" ++ query
    | none => "")

/-- Host and socket number of an authority, without user information. -/
def hostAndSocket (authority : String) : String × Option String :=
  let chars := authority.toList
  let host := match Text.splitAtLast? '@' chars with
    | some (_, after) => after
    | none => chars
  match host with
  | '[' :: rest =>
    let inner := rest.takeWhile (· ≠ ']')
    let after := (rest.dropWhile (· ≠ ']')).drop 1
    (String.ofList ('[' :: (inner ++ [']'])), match after with
      | ':' :: number => some (String.ofList number)
      | _ => none)
  | host => match Text.splitAtLast? ':' host with
    | some (name, number) => (String.ofList name, some (String.ofList number))
    | none => (String.ofList host, none)

/-- The value of the `host` header for an absolute target: the socket number stands in it
unless it is the scheme's own. -/
def hostHeader (uri : Uri) : String :=
  let (host, socket) := hostAndSocket (uri.authority.getD "")
  let usual := if uri.scheme = some "https" then "443" else "80"
  match socket with
  | some number =>
    match Text.readDecimal? number.toList with
    | some value => if toString value = usual then host else host ++ ":" ++ number
    | none => host
  | none => host

end Uri

end ApiGateway.Http
