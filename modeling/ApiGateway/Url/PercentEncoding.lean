import ApiGateway.Text.Chars

/-!
# Percent encoding

Each part of a locator keeps its own set of characters. A character outside the
set is written as its UTF-8 bytes, each as a percent sign and two upper-case
hexadecimal digits. Decoding leaves a percent sign without two digits alone.
-/

namespace ApiGateway.Url

/-- Bytes of one character, each as `%` and two digits. -/
def percentBytes (bytes : List UInt8) : List Char :=
  bytes.flatMap fun byte =>
    ['%', Text.hexDigit true (byte.toNat / 16), Text.hexDigit true (byte.toNat % 16)]

/-- Encode the characters that `escape` selects. -/
def percentEncode (escape : Char → Bool) (text : List Char) : List Char :=
  text.flatMap fun c => if escape c then percentBytes (String.utf8EncodeChar c) else [c]

/-- Controls and everything beyond ASCII. -/
def escapesControls (c : Char) : Bool :=
  c.toNat < 0x20 || 0x7E < c.toNat

def escapesFragment (c : Char) : Bool :=
  escapesControls c || c = ' ' || c = '"' || c = '<' || c = '>' || c = '\x60'

def escapesQuery (special : Bool) (c : Char) : Bool :=
  escapesControls c || c = ' ' || c = '"' || c = '#' || c = '<' || c = '>' ||
    (special && c = '\'')

def escapesPath (c : Char) : Bool :=
  escapesFragment c || c = '#' || c = '?' || c = '\x7b' || c = '\x7d'

def escapesUserinfo (c : Char) : Bool :=
  escapesPath c || c = '/' || c = ':' || c = ';' || c = '=' || c = '@' || c = '[' ||
    c = '\\' || c = ']' || c = '^' || c = '|'

/-- The bytes that a percent-encoded text stands for. -/
def percentDecode : List Char → List UInt8
  | [] => []
  | c :: rest =>
    match c, rest with
    | '%', high :: low :: tail =>
      match Text.hexValue? high, Text.hexValue? low with
      | some h, some l => UInt8.ofNat (h * 16 + l) :: percentDecode tail
      | _, _ => String.utf8EncodeChar c ++ percentDecode (high :: low :: tail)
    | c, rest => String.utf8EncodeChar c ++ percentDecode rest

end ApiGateway.Url
