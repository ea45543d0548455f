import ApiGateway.Auth.Bearer
import ApiGateway.Auth.Token
import ApiGateway.Http.Headers

/-!
# Admission by credential

`ensureAuth` decides from the headers of a request whether a route admits it.
-/

namespace ApiGateway.Auth

open Http (ApiError Headers)

/-- Apply the policy of a route: nothing without `requireAuth`, a non-empty visible
`authorization` value with it, and a verified bearer token under the strategy `validate`. -/
def ensureAuth (headers : Headers) (requireAuth : Bool) (strategy : Strategy)
    (verifier : TokenVerifier) (now : Instant) : Except ApiError Unit :=
  if !requireAuth then .ok ()
  else
    match (headers.getText? "authorization").filter (!·.isEmpty) with
    | none => .error (.unauthorized "missing Authorization header")
    | some header =>
      match strategy with
      | .forward => .ok ()
      | .validate =>
        match bearerToken? header with
        | none => .error (.unauthorized "missing bearer token")
        | some token => (verifier.verify now token).map fun _ => ()

end ApiGateway.Auth
