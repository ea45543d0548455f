import ApiGateway.Text.Chars

/-!
# Bearer credentials

A credential is the word `bearer` in any case, one space and a token without
spaces; nothing else is accepted.
-/

namespace ApiGateway.Auth

/-- How a route that requires authentication treats the credential. -/
inductive Strategy where
  /-- The header must be there; the backend checks it. -/
  | forward
  /-- The gateway verifies the token itself. -/
  | validate
deriving DecidableEq

namespace Strategy

/-- Every word other than `validate`, in any case, means `forward`. -/
def parse (text : String) : Strategy :=
  if Text.sameIgnoringCase text.toList "validate".toList then .validate else .forward

def name : Strategy → String
  | forward => "forward"
  | validate => "validate"

end Strategy

/-- The token of a header value that has the form of a bearer credential. -/
def bearerToken? (header : List Char) : Option (List Char) :=
  match Text.splitOn ' ' header with
  | [scheme, token] =>
    if Text.sameIgnoringCase scheme "bearer".toList && !token.isEmpty then some token else none
  | _ => none

end ApiGateway.Auth
