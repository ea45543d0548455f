import ApiGateway.Text.LowerCase
import ApiGateway.Text.Quoted
import ApiGateway.Url.Punycode

/-!
# Domain names

A domain is brought into its ASCII form label by label: letters are folded to
lower case, labels with characters beyond ASCII get the marker `xn--` and their
encoded form, and labels that already carry the marker must decode to a label
that would be written so. Of the full mapping only what `foldChar` does is here:
other compatibility forms keep their code points, and nothing is normalised.
-/

namespace ApiGateway.Url.Domain

/-- ASCII characters that no domain may hold. -/
def isForbiddenAscii (c : Char) : Bool :=
  c.toNat ≤ 0x20 || c.toNat = 0x7F || "%#/:<>?@[\\]^|".toList.contains c

/-- Characters that are left out of a domain: hyphenation, joining and selection marks
without a shape of their own. -/
def isIgnored (c : Char) : Bool :=
  let n := c.toNat
  n = 0xAD || n = 0x34F || (0x180B ≤ n && n ≤ 0x180D) || n = 0x180F || n = 0x200B ||
    n = 0x2060 || n = 0x2064 || (0xFE00 ≤ n && n ≤ 0xFE0F) || n = 0xFEFF

/-- Fold one character: wide forms to ASCII, ideographic stops to the dot, letters to lower
case. -/
def foldChar (c : Char) : List Char :=
  let n := c.toNat
  if isIgnored c then []
  else if n = 0x3002 || n = 0xFF0E || n = 0xFF61 then ['.']
  else if 0xFF01 ≤ n && n ≤ 0xFF5E then Text.lowerChar (Char.ofNat (n - 0xFEE0))
  else if n = 0x1E9E then ['ß']
  else Text.lowerChar c

/-- A character beyond ASCII that a label may hold. -/
def isLabelChar (c : Char) : Bool :=
  0x80 ≤ c.toNat && (!Text.isHidden c || (Text.isCaseIgnorable c && c.toNat < 0xE0000))

/-- A character that joins the one before it, so that no label starts with it. -/
def isMark (c : Char) : Bool :=
  0x300 ≤ c.toNat && Text.isHidden c && Text.isCaseIgnorable c

def isAscii (label : List Char) : Bool :=
  label.all fun c => c.toNat < 0x80

def marker : List Char := "xn--".toList

/-- May a folded label with characters beyond ASCII be encoded? -/
def isEncodable (label : List Char) : Bool :=
  (label.all fun c => if c.toNat < 0x80 then !isForbiddenAscii c else isLabelChar c) &&
    !(label.take 1).any isMark

/-- The ASCII form of one folded label. -/
def labelToAscii? (label : List Char) : Option (List Char) :=
  match Text.dropPrefix? marker label with
  | some encoded => do
    let decoded ← Punycode.decode? encoded
    if !isAscii decoded && isEncodable decoded && (decoded.flatMap foldChar) = decoded then
      return label
    else none
  | none =>
    if isAscii label then
      if label.any isForbiddenAscii then none else some label
    else if isEncodable label then some (marker ++ Punycode.encode label)
    else none

/-- The ASCII form of a domain; dots separate its labels and empty labels stay. -/
def toAscii? (domain : List Char) : Option (List Char) := do
  let labels ← (Text.splitOn '.' (domain.flatMap foldChar)).mapM labelToAscii?
  return Text.joinWith '.' labels

end ApiGateway.Url.Domain
