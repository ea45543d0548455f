import ApiGateway.Auth.Claims
import ApiGateway.Crypto.Base64
import ApiGateway.Crypto.Hmac
import ApiGateway.Http.ApiError
import ApiGateway.Json.Reader
import ApiGateway.Time.Instant

/-!
# Signed tokens

A token is a header, a payload and a signature with dots between them. The header
names a keyed digest; the signature is the code of header and payload under the
shared secret, and only tokens with that signature and admissible claims pass.
-/

namespace ApiGateway.Auth

open Http (ApiError)

/-- The three parts of a token and the text that was signed. -/
structure TokenParts where
  signed : List Char
  header : List Char
  payload : List Char
  signature : List Char

/-- Cut a token at its last two dots. -/
def TokenParts.ofToken? (token : List Char) : Option TokenParts := do
  let (signed, signature) ← Text.splitAtLast? '.' token
  let (header, payload) ← Text.splitAtLast? '.' signed
  return ⟨signed, header, payload, signature⟩

/-- The JSON document in a part of a token. -/
def documentOf? (part : List Char) : Option Json := do
  let bytes ← Crypto.Alphabet.token.decode? part
  let text ← String.fromUTF8? (ByteArray.mk bytes.toArray)
  Json.parse? text

private def isOptionalText : Json → Bool
  | .null | .string _ => true
  | _ => false

private def isOptionalTexts : Json → Bool
  | .null => true
  | .array items => items.all fun item => item.text?.isSome
  | _ => false

private def keyAlgorithms : List String :=
  ["HS256", "HS384", "HS512", "ES256", "ES384", "RS256", "RS384", "RS512", "PS256", "PS384",
    "PS512", "EdDSA", "RSA1_5", "RSA-OAEP", "RSA-OAEP-256"]

private def curves : List String := ["P-256", "P-384", "P-521", "Ed25519"]

/-- A key in a header is not used, but it must describe a key. -/
private def isKeyDescription (key : Json) : Bool :=
  let hasText (name : String) : Bool := ((key.member? name).bind Json.text?).isSome
  let hasCurve : Bool := ((key.member? "crv").bind Json.text?).any curves.contains
  let optional (names : List String) (check : Json → Bool) : Bool :=
    names.all fun name => (key.member? name).all check
  let kind := (key.member? "kty").bind Json.text?
  let describesKey :=
    (kind = some "EC" && hasCurve && hasText "x" && hasText "y") ||
      (kind = some "RSA" && hasText "n" && hasText "e") ||
      (kind = some "oct" && hasText "k") ||
      (kind = some "OKP" && hasCurve && hasText "x")
  describesKey &&
    optional ["use", "kid", "x5u", "x5t", "x5t#S256"] isOptionalText &&
    optional ["key_ops", "x5c"] isOptionalTexts &&
    optional ["alg"] fun value => match value with
      | .null => true
      | .string name => keyAlgorithms.contains name
      | _ => false

/-- The digest that a name stands for. -/
def digestOfName? (name : String) : Option Crypto.Digest :=
  if name = "HS256" then some .sha256
  else if name = "HS384" then some .sha384
  else if name = "HS512" then some .sha512
  else none

private def headerNames : List String :=
  ["typ", "alg", "cty", "jku", "jwk", "kid", "x5u", "x5c", "x5t", "x5t#S256"]

/-- The digest that a token header names. All known members must be well formed. -/
def digestOfHeader? (header : Json) : Option Crypto.Digest := do
  let fields ← Json.fieldsOf? headerNames header
  if fields.positional && fields.values.any Option.isNone then none
  else match fields.values with
    | [typ, alg, cty, jku, jwk, kid, x5u, x5c, x5t, x5tS256] =>
      let texts := [typ, cty, jku, kid, x5u, x5t, x5tS256].all fun value =>
        value.all isOptionalText
      let chain := x5c.all isOptionalTexts
      let key := jwk.all fun value => value matches .null || isKeyDescription value
      if texts && chain && key then do
        let algorithm ← alg
        Json.decodeChoice digestOfName? algorithm
      else none
    | _ => none

/-- The signature of a text under a secret, as tokens write it. -/
def signature (digest : Crypto.Digest) (secret signed : List UInt8) : List Char :=
  Crypto.Alphabet.token.encode (Crypto.hmac digest secret signed)

/-- The claims of a token that is signed under the secret and admissible at an instant. -/
def verified? (secret : List UInt8) (now : Instant) (token : List Char) : Option Claims := do
  let parts ← TokenParts.ofToken? token
  let digest ← digestOfHeader? (← documentOf? parts.header)
  if signature digest secret (String.ofList parts.signed).toUTF8.toList ≠ parts.signature then
    none
  else
    let payload ← documentOf? parts.payload
    let claims ← Claims.decode? payload
    if isAdmissible payload (Int.fdiv now 1000000000) then return claims else none

/-- Verifies tokens under the shared secret, if there is one. -/
structure TokenVerifier where
  secret : Option (List UInt8)

namespace TokenVerifier

/-- An empty secret is no secret. -/
def ofSecret (secret : Option String) : TokenVerifier :=
  ⟨(secret.filter fun text => !text.isEmpty).map fun text => text.toUTF8.toList⟩

def hasSecret (verifier : TokenVerifier) : Bool := verifier.secret.isSome

/-- The claims of a token, or why it is refused. -/
def verify (verifier : TokenVerifier) (now : Instant) (token : List Char) :
    Except ApiError Claims :=
  match verifier.secret with
  | none => .error (.unauthorized "jwt secret not configured")
  | some secret =>
    match verified? secret now token with
    | some claims => .ok claims
    | none => .error (.unauthorized "invalid token")

end TokenVerifier

end ApiGateway.Auth
