import ApiGateway.Text.Chars

/-!
# Locators

A `Url` keeps the canonical parts of an absolute locator; `Url.text` is its one
written form. Two locators name the same backend exactly when their texts agree.
-/

namespace ApiGateway

/-- Why a text is no absolute locator. -/
inductive UrlError where
  | relativeWithoutBase
  | emptyHost
  | invalidPortNumber
  | invalidIpv4
  | invalidIpv6
  | invalidDomainCharacter
  | invalidInternationalName
deriving DecidableEq

namespace UrlError

def message : UrlError → String
  | relativeWithoutBase => "relative URL without a base"
  | emptyHost => "empty host"
  | invalidPortNumber => "invalid port number"
  | invalidIpv4 => "invalid IPv4 address"
  | invalidIpv6 => "invalid IPv6 address"
  | invalidDomainCharacter => "invalid domain character"
  | invalidInternationalName => "invalid international domain name"

end UrlError

/-- The part between the slashes: user information up to its `@`, a host, and a socket number
other than the scheme's own. An empty host is no host. -/
structure UrlAuthority where
  userinfo : String
  host : String
  socketNumber : Option Nat
deriving DecidableEq

/-- An absolute locator in canonical form. -/
structure Url where
  scheme : String
  authority : Option UrlAuthority
  path : String
  query : Option String
  fragment : Option String
deriving DecidableEq

namespace UrlAuthority

def text (authority : UrlAuthority) : String :=
  authority.userinfo ++ authority.host ++
    (match authority.socketNumber with
    | some number => ":" ++ toString number
    | none => "")

end UrlAuthority

namespace Url

/-- The socket number that a scheme uses by itself; only these schemes have an origin. -/
def defaultSocket? (scheme : String) : Option Nat :=
  if scheme = "http" ∨ scheme = "ws" then some 80
  else if scheme = "https" ∨ scheme = "wss" then some 443
  else if scheme = "ftp" then some 21
  else none

/-- Schemes whose locators always have slashes and a path. -/
def isSpecialScheme (scheme : String) : Bool :=
  (defaultSocket? scheme).isSome || scheme = "file"

/-- A path of its own that starts with two slashes is kept apart from an authority. -/
def guardedPath (url : Url) : String :=
  if url.authority.isNone && url.path.startsWith "//" then "/." ++ url.path else url.path

/-- The canonical text. -/
def text (url : Url) : String :=
  url.scheme ++ ":" ++
    (match url.authority with
    | some authority => "//" ++ authority.text
    | none => "") ++
    guardedPath url ++
    (match url.query with
    | some query => "?" ++ query
    | none => "") ++
    (match url.fragment with
    | some fragment => "#" ++ fragment
    | none => "")

/-- The host, if there is one. -/
def host? (url : Url) : Option String :=
  url.authority.bind fun authority =>
    if authority.host.isEmpty then none else some authority.host

def socketNumber? (url : Url) : Option Nat :=
  url.authority.bind (·.socketNumber)

end Url

end ApiGateway
