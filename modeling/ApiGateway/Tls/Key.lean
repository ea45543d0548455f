import ApiGateway.Tls.Armor
import ApiGateway.Tls.Der

/-!
# Keys and certificates

A certificate names a public key, and a private key holds the public key that belongs to
it. `PublicKey` is what both are compared by: the kind of the key and its bits.
-/

namespace ApiGateway.Tls

/-- A public key: the description of its kind and the string of its bits. -/
structure PublicKey where
  algorithm : List Der
  bits : List UInt8
deriving DecidableEq

/-- The object that names the keys on elliptic curves. -/
def ellipticCurve : Der := ⟨Der.objectIdTag, [0x2A, 0x86, 0x48, 0xCE, 0x3D, 0x02, 0x01]⟩

/-- The object that names the keys made of two primes. -/
def twoPrimes : Der :=
  ⟨Der.objectIdTag, [0x2A, 0x86, 0x48, 0x86, 0xF7, 0x0D, 0x01, 0x01, 0x01]⟩

/-- The curves of 256, 384 and 521 bits. -/
def curves : List Der := [
  ⟨Der.objectIdTag, [0x2A, 0x86, 0x48, 0xCE, 0x3D, 0x03, 0x01, 0x07]⟩,
  ⟨Der.objectIdTag, [0x2B, 0x81, 0x04, 0x00, 0x22]⟩,
  ⟨Der.objectIdTag, [0x2B, 0x81, 0x04, 0x00, 0x23]⟩]

namespace PublicKey

/-- The public key that a certificate of the third version is about. -/
def ofCertificate? (content : List UInt8) : Option PublicKey := do
  match ← Der.document? content with
  | [body, signatureKind, signature] =>
    if signatureKind.tag ≠ Der.sequenceTag || signature.tag ≠ Der.bitStringTag then none
    else match ← body.elements? Der.sequenceTag with
      | version :: serial :: _ :: issuer :: validity :: subject :: key :: _ =>
        if version ≠ ⟨Der.numberedTag 0, [Der.integerTag, 1, 2]⟩ ||
            serial.tag ≠ Der.integerTag ||
            [issuer, validity, subject].any (·.tag ≠ Der.sequenceTag) then
          none
        else match ← key.elements? Der.sequenceTag with
          | [algorithm, bits] =>
            if bits.tag ≠ Der.bitStringTag then none
            else return ⟨← algorithm.elements? Der.sequenceTag, bits.content⟩
          | _ => none
      | _ => none
  | _ => none

/-- The public key inside a private key on a curve, which the key names if it is not given. -/
def ofCurveKey? (given : Option Der) (content : List UInt8) : Option PublicKey := do
  match ← Der.document? content with
  | version :: secret :: others =>
    if version ≠ ⟨Der.integerTag, [1]⟩ || secret.tag ≠ Der.octetStringTag then none
    else
      let named := (others.find? (·.tag = Der.numberedTag 0)).bind fun element =>
        (Der.readAll? element.content).bind List.head?
      let curve ← given.or named
      let held ← others.find? (·.tag = Der.numberedTag 1)
      match ← Der.readAll? held.content with
      | [bits] =>
        if curves.contains curve && bits.tag = Der.bitStringTag then
          return ⟨[ellipticCurve, curve], bits.content⟩
        else none
      | _ => none
  | _ => none

/-- The public key inside a private key made of two primes: its product and exponent. -/
def ofPrimesKey? (content : List UInt8) : Option PublicKey := do
  match ← Der.document? content with
  | version :: product :: exponent :: others =>
    if version ≠ ⟨Der.integerTag, [0]⟩ || others.length ≠ 6 ||
        (product :: exponent :: others).any (·.tag ≠ Der.integerTag) then
      none
    else
      return ⟨[twoPrimes, ⟨Der.nullTag, []⟩], 0 :: (Der.sequence [product, exponent]).bytes⟩
  | _ => none

/-- The public key inside a private key that names its kind. -/
def ofNamedKey? (content : List UInt8) : Option PublicKey := do
  match ← Der.document? content with
  | version :: algorithm :: secret :: _ =>
    if version.tag ≠ Der.integerTag || secret.tag ≠ Der.octetStringTag then none
    else match ← algorithm.elements? Der.sequenceTag with
      | [kind, detail] =>
        if kind = ellipticCurve then ofCurveKey? (some detail) secret.content
        else if kind = twoPrimes then ofPrimesKey? secret.content
        else none
      | _ => none
  | _ => none

/-- The public key that belongs to a private key. -/
def ofPrivateKey? (key : Section) : Option PublicKey :=
  match key.kind with
  | .privateKey => ofNamedKey? key.content
  | .ecPrivateKey => ofCurveKey? none key.content
  | .rsaPrivateKey => ofPrimesKey? key.content
  | _ => none

end PublicKey

end ApiGateway.Tls
