import ApiGateway.Number.Word
import ApiGateway.Text.Chars

/-!
# Network addresses

Addresses of both families and socket addresses, with their readers and printers.
Decimal groups take no leading zeros; the number of a socket does.
-/

namespace ApiGateway.Net

/-- A 128-bit address as eight groups of sixteen bits. -/
structure Ipv6 where
  groups : List UInt16
  length_eq : groups.length = 8
deriving DecidableEq

/-- An address of either family. -/
inductive IpAddress where
  | v4 (a b c d : UInt8)
  | v6 (address : Ipv6)
deriving DecidableEq

/-- An address with the number of a socket; only the longer family has a scope. -/
inductive SocketAddress where
  | v4 (a b c d : UInt8) (socket : UInt16)
  | v6 (address : Ipv6) (scope : UInt32) (socket : UInt16)
deriving DecidableEq

namespace SocketAddress

def ip : SocketAddress → IpAddress
  | .v4 a b c d _ => .v4 a b c d
  | .v6 address _ _ => .v6 address

def socketNumber : SocketAddress → UInt16
  | .v4 _ _ _ _ socket => socket
  | .v6 _ _ socket => socket

end SocketAddress

/-! ## Printing -/

def decimal (n : Nat) : List Char := Nat.toDigits 10 n

def v4Chars (a b c d : UInt8) : List Char :=
  decimal a.toNat ++ '.' :: (decimal b.toNat ++ '.' :: (decimal c.toNat ++ '.' :: decimal d.toNat))

/-- The groups in hexadecimal with colons between them. -/
def groupsChars : List UInt16 → List Char
  | [] => []
  | [group] => Text.hexDigits group.toNat
  | group :: next :: rest => Text.hexDigits group.toNat ++ ':' :: groupsChars (next :: rest)

/-- How many zero groups a list starts with. -/
def leadingZeros (groups : List UInt16) : Nat :=
  (groups.takeWhile (· = 0)).length

/-- Start and length of the longest run of zero groups, the first of equals. -/
def longestZeroRun : List UInt16 → Nat × Nat
  | [] => (0, 0)
  | group :: rest =>
    let here := leadingZeros (group :: rest)
    let (start, length) := longestZeroRun rest
    if here ≥ length ∧ 0 < here then (0, here) else (start + 1, length)

/-- Groups with their longest run of two or more zeros written as `::`. -/
def compressedChars (groups : List UInt16) : List Char :=
  let (start, length) := longestZeroRun groups
  if length ≤ 1 then groupsChars groups
  else
    groupsChars (groups.take start) ++ ':' :: ':' :: groupsChars (groups.drop (start + length))

/-- An address that maps the shorter family ends with that address in decimal. -/
def v6Chars (address : Ipv6) : List Char :=
  match address.groups with
  | [0, 0, 0, 0, 0, 0xffff, high, low] =>
    "::ffff:".toList ++ v4Chars (high >>> 8).toUInt8 high.toUInt8 (low >>> 8).toUInt8 low.toUInt8
  | groups => compressedChars groups

def IpAddress.text : IpAddress → String
  | .v4 a b c d => String.ofList (v4Chars a b c d)
  | .v6 address => String.ofList (v6Chars address)

def SocketAddress.chars : SocketAddress → List Char
  | .v4 a b c d socket => v4Chars a b c d ++ ':' :: decimal socket.toNat
  | .v6 address scope socket =>
    '[' :: (v6Chars address ++
      (if scope = 0 then [] else '%' :: decimal scope.toNat) ++ ']' :: ':' :: decimal socket.toNat)

def SocketAddress.text (address : SocketAddress) : String :=
  String.ofList address.chars

/-! ## Reading -/

/-- A decimal number below a bound, with any number of digits. -/
def scanDecimal? (bound : Nat) (text : List Char) : Option (Nat × List Char) :=
  let digits := text.takeWhile Char.isDigit
  if digits.isEmpty then none
  else
    let value := Text.decimalValue digits
    if value < bound then some (value, text.dropWhile Char.isDigit) else none

/-- One decimal group: at most three digits, no leading zero, below 256. -/
def scanByte? (text : List Char) : Option (UInt8 × List Char) :=
  let digits := text.takeWhile Char.isDigit
  if 3 < digits.length ∨ (1 < digits.length ∧ digits.head? = some '0') then none
  else (scanDecimal? 256 text).map fun (value, rest) => (UInt8.ofNat value, rest)

def scanChar? (expected : Char) : List Char → Option (List Char)
  | c :: rest => if c = expected then some rest else none
  | [] => none

/-- Four decimal groups. -/
def scanV4? (text : List Char) : Option ((UInt8 × UInt8 × UInt8 × UInt8) × List Char) := do
  let (a, rest) ← scanByte? text
  let rest ← scanChar? '.' rest
  let (b, rest) ← scanByte? rest
  let rest ← scanChar? '.' rest
  let (c, rest) ← scanByte? rest
  let rest ← scanChar? '.' rest
  let (d, rest) ← scanByte? rest
  return ((a, b, c, d), rest)

def isHexDigit (c : Char) : Bool := (Text.hexValue? c).isSome

/-- One hexadecimal group of one to four digits. -/
def scanGroup? (text : List Char) : Option (UInt16 × List Char) :=
  let digits := text.takeWhile isHexDigit
  if digits.isEmpty ∨ 4 < digits.length then none
  else
    let value := digits.foldl (fun value c => value * 16 + (Text.hexValue? c).getD 0) 0
    some (UInt16.ofNat value, text.dropWhile isHexDigit)

def pair (high low : UInt8) : UInt16 := high.toUInt16 * 256 + low.toUInt16

/-- Up to `limit` groups with colons between them; an address of the shorter family may
stand for the last two. The flag says that one did. -/
def scanGroups : Nat → Bool → List Char → List UInt16 × Bool × List Char
  | 0, _, text => ([], false, text)
  | limit + 1, first, text =>
    match (if first then some text else scanChar? ':' text) with
    | none => ([], false, text)
    | some body =>
      match (if 0 < limit then scanV4? body else none) with
      | some ((a, b, c, d), rest) => ([pair a b, pair c d], true, rest)
      | none =>
        match scanGroup? body with
        | none => ([], false, text)
        | some (group, rest) =>
          let (groups, embedded, remaining) := scanGroups limit false rest
          (group :: groups, embedded, remaining)

/-- Eight groups, or fewer around one `::`. -/
def scanV6? (text : List Char) : Option (Ipv6 × List Char) := do
  let (front, embedded, rest) := scanGroups 8 true text
  if full : front.length = 8 then return (⟨front, full⟩, rest)
  else if embedded then none
  else do
    let rest ← scanChar? ':' rest
    let rest ← scanChar? ':' rest
    let (back, _, rest) := scanGroups (7 - front.length) true rest
    let groups := front ++ List.replicate (8 - front.length - back.length) 0 ++ back
    if full : groups.length = 8 then return (⟨groups, full⟩, rest) else none

def IpAddress.parse? (text : String) : Option IpAddress :=
  match scanV4? text.toList with
  | some ((a, b, c, d), []) => some (.v4 a b c d)
  | _ => match scanV6? text.toList with
    | some (address, []) => some (.v6 address)
    | _ => none

def SocketAddress.parseV4? (text : List Char) : Option SocketAddress := do
  let ((a, b, c, d), rest) ← scanV4? text
  let rest ← scanChar? ':' rest
  let (socket, rest) ← scanDecimal? (Number.wordBound 16) rest
  if rest.isEmpty then return .v4 a b c d (UInt16.ofNat socket) else none

def SocketAddress.parseV6? (text : List Char) : Option SocketAddress := do
  let rest ← scanChar? '[' text
  let (address, rest) ← scanV6? rest
  let (scope, rest) ← match rest with
    | '%' :: tail => scanDecimal? (Number.wordBound 32) tail
    | tail => some (0, tail)
  let rest ← scanChar? ']' rest
  let rest ← scanChar? ':' rest
  let (socket, rest) ← scanDecimal? (Number.wordBound 16) rest
  if rest.isEmpty then return .v6 address (UInt32.ofNat scope) (UInt16.ofNat socket) else none

/-- Read a socket address of either family. -/
def SocketAddress.parseChars? (text : List Char) : Option SocketAddress :=
  (SocketAddress.parseV4? text).or (SocketAddress.parseV6? text)

def SocketAddress.parse? (text : String) : Option SocketAddress :=
  SocketAddress.parseChars? text.toList

end ApiGateway.Net
