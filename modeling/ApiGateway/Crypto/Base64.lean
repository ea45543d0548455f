/-!
# Bytes in sixty-four characters

Three bytes are written as four characters of an alphabet. Tokens use the
alphabet that is safe in addresses and no padding; key files use the other one,
with padding.
-/

namespace ApiGateway.Crypto

/-- The two characters in which alphabets differ, and whether a short last group is padded
with `=`. -/
structure Alphabet where
  sixtyTwo : Char
  sixtyThree : Char
  padded : Bool

namespace Alphabet

/-- Tokens: `-` and `_`, no padding. -/
def token : Alphabet := ⟨'-', '_', false⟩

/-- Key files: `+` and `/`, padded. -/
def keyFile : Alphabet := ⟨'+', '/', true⟩

def encodeDigit (alphabet : Alphabet) (value : Nat) : Char :=
  if value < 26 then Char.ofNat (65 + value)
  else if value < 52 then Char.ofNat (97 + (value - 26))
  else if value < 62 then Char.ofNat (48 + (value - 52))
  else if value = 62 then alphabet.sixtyTwo
  else alphabet.sixtyThree

def decodeDigit? (alphabet : Alphabet) (c : Char) : Option Nat :=
  if 'A' ≤ c ∧ c ≤ 'Z' then some (c.toNat - 65)
  else if 'a' ≤ c ∧ c ≤ 'z' then some (c.toNat - 97 + 26)
  else if '0' ≤ c ∧ c ≤ '9' then some (c.toNat - 48 + 52)
  else if c = alphabet.sixtyTwo then some 62
  else if c = alphabet.sixtyThree then some 63
  else none

/-- Write bytes in the alphabet. -/
def encode (alphabet : Alphabet) : List UInt8 → List Char
  | [] => []
  | [a] =>
    let n := a.toNat
    [alphabet.encodeDigit (n / 4), alphabet.encodeDigit (n % 4 * 16)] ++
      (if alphabet.padded then ['=', '='] else [])
  | [a, b] =>
    let n := a.toNat * 256 + b.toNat
    [alphabet.encodeDigit (n / 1024), alphabet.encodeDigit (n / 16 % 64),
      alphabet.encodeDigit (n % 16 * 4)] ++ (if alphabet.padded then ['='] else [])
  | a :: b :: c :: rest =>
    let n := (a.toNat * 256 + b.toNat) * 256 + c.toNat
    alphabet.encodeDigit (n / 262144) :: alphabet.encodeDigit (n / 4096 % 64) ::
      alphabet.encodeDigit (n / 64 % 64) :: alphabet.encodeDigit (n % 64) ::
      encode alphabet rest

/-- Read digits of the alphabet without padding; the bits left over must be zero. -/
def decodeDigits? (alphabet : Alphabet) : List Char → Option (List UInt8)
  | [] => some []
  | [_] => none
  | [a, b] => do
    let a ← alphabet.decodeDigit? a
    let b ← alphabet.decodeDigit? b
    if b % 16 = 0 then return [UInt8.ofNat (a * 4 + b / 16)] else none
  | [a, b, c] => do
    let a ← alphabet.decodeDigit? a
    let b ← alphabet.decodeDigit? b
    let c ← alphabet.decodeDigit? c
    let n := (a * 64 + b) * 64 + c
    if c % 4 = 0 then return [UInt8.ofNat (n / 1024), UInt8.ofNat (n / 4)] else none
  | a :: b :: c :: d :: rest => do
    let a ← alphabet.decodeDigit? a
    let b ← alphabet.decodeDigit? b
    let c ← alphabet.decodeDigit? c
    let d ← alphabet.decodeDigit? d
    let n := ((a * 64 + b) * 64 + c) * 64 + d
    let tail ← decodeDigits? alphabet rest
    return UInt8.ofNat (n / 65536) :: UInt8.ofNat (n / 256) :: UInt8.ofNat n :: tail

/-- Read a text of the alphabet. Padding is required where the alphabet has it and refused
where it has none. -/
def decode? (alphabet : Alphabet) (text : List Char) : Option (List UInt8) :=
  if alphabet.padded then
    if text.length % 4 ≠ 0 then none
    else
      let padding := text.reverse.takeWhile (· = '=')
      if 2 < padding.length then none
      else alphabet.decodeDigits? (text.take (text.length - padding.length))
  else alphabet.decodeDigits? text

end Alphabet

end ApiGateway.Crypto
