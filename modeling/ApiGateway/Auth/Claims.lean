import ApiGateway.Json.Record
import ApiGateway.Number.Word

/-!
# Claims of a token

The payload of a token is a JSON object. `Claims` are the members that the
gateway hands on; `isAdmissible` looks at the registered members that decide
whether the token may be used now.
-/

namespace ApiGateway.Auth

/-- Who a token was issued to, and until when, in seconds since 1970. -/
structure Claims where
  userId : String
  role : String
  expiry : Option Int
deriving DecidableEq

namespace Claims

/-- A signed 64-bit number. -/
private def decodeInt64 : Json → Option Int
  | .integer value =>
    if -(Number.wordBound 63 : Int) ≤ value ∧ value < (Number.wordBound 63 : Int) then some value
    else none
  | _ => none

/-- The claims of a payload; missing names are empty. -/
def decode? (payload : Json) : Option Claims := do
  let fields ← Json.fieldsOf? ["user_id", "role", "exp"] payload
  match fields.positional, fields.values with
  | false, [userId, role, expiry] =>
    let userId ← Json.fieldOr "" Json.decodeString userId
    let role ← Json.fieldOr "" Json.decodeString role
    let expiry ← Json.fieldOr none (Json.optional decodeInt64) expiry
    return ⟨userId, role, expiry⟩
  | _, _ => none

def toJson (claims : Claims) : Json :=
  .object ([("user_id", .string claims.userId), ("role", .string claims.role)] ++
    (match claims.expiry with
    | some expiry => [("exp", .integer expiry)]
    | none => []))

end Claims

/-- How long after its expiry a token is still taken, in seconds. -/
def leeway : Int := 60

mutual

/-- How many arrays and objects a document nests. -/
def nesting : Json → Nat
  | .array items => nestingOfItems items + 1
  | .object members => nestingOfMembers members + 1
  | _ => 0

def nestingOfItems : List Json → Nat
  | [] => 0
  | item :: rest => max (nesting item) (nestingOfItems rest)

def nestingOfMembers : List (String × Json) → Nat
  | [] => 0
  | (_, value) :: rest => max (nesting value) (nestingOfMembers rest)

end

/-- A registered member that is read as a whole: it must have a value and not nest too deep. -/
private def isReadable (value : Json) : Bool :=
  match value with
  | .unreadable => false
  | value => nesting value < 128

/-- A registered member that is read as a number or a text: nothing inside brackets. -/
private def isFlat (emptyAllowed : Bool) : Json → Bool
  | .unreadable => false
  | .array items => emptyAllowed && items.isEmpty
  | .object members => emptyAllowed && members.isEmpty
  | _ => true

/-- Does an audience member name an audience? No token for an audience is accepted. -/
def namesAudience : Json → Bool
  | .string _ => true
  | .array items => items.all fun item => item.text?.isSome
  | _ => false

/-- May a token with this payload be used at a time, in seconds since 1970? It names no
audience, its registered members are well formed, and an expiry that is no negative number
is at most the leeway ago. -/
def isAdmissible (payload : Json) (now : Int) : Bool :=
  match Json.fieldsOf? ["exp", "nbf", "sub", "iss", "aud"] payload with
  | some ⟨false, [expiry, notBefore, subject, issuer, audience]⟩ =>
    (match expiry with
    | some (.integer time) => time < 0 || now - leeway ≤ time
    | _ => true) &&
    (notBefore.all (isFlat true)) && (subject.all (isFlat false)) &&
    (issuer.all isReadable) && (audience.all fun value => isReadable value && !namesAudience value)
  | _ => false

end ApiGateway.Auth
