import ApiGateway.Http.Message
import ApiGateway.Json.Writer

/-!
# Errors that clients see

Every answer the gateway refuses with is a JSON object with a code and a
message; the code alone decides the status.
-/

namespace ApiGateway.Http

/-- The kinds of refusal. -/
inductive ErrorCode where
  | badRequest | unauthorized | forbidden | notFound | methodNotAllowed | requestTimeout
  | conflict | payloadTooLarge | serviceUnavailable | badGateway | internal
deriving DecidableEq

namespace ErrorCode

def name : ErrorCode → String
  | badRequest => "bad_request"
  | unauthorized => "unauthorized"
  | forbidden => "forbidden"
  | notFound => "not_found"
  | methodNotAllowed => "method_not_allowed"
  | requestTimeout => "request_timeout"
  | conflict => "conflict"
  | payloadTooLarge => "payload_too_large"
  | serviceUnavailable => "service_unavailable"
  | badGateway => "bad_gateway"
  | internal => "internal"

def status : ErrorCode → Nat
  | badRequest => 400
  | unauthorized => 401
  | forbidden => 403
  | notFound => 404
  | methodNotAllowed => 405
  | requestTimeout => 408
  | conflict => 409
  | payloadTooLarge => 413
  | serviceUnavailable => 503
  | badGateway => 502
  | internal => 500

def all : List ErrorCode :=
  [badRequest, unauthorized, forbidden, notFound, methodNotAllowed, requestTimeout, conflict,
    payloadTooLarge, serviceUnavailable, badGateway, internal]

def ofName? (name : String) : Option ErrorCode :=
  all.find? fun code => code.name == name

end ErrorCode

/-- A refusal with its reason. -/
structure ApiError where
  code : ErrorCode
  message : String
deriving DecidableEq

namespace ApiError

def notFound (message : String) : ApiError := ⟨.notFound, message⟩
def unauthorized (message : String) : ApiError := ⟨.unauthorized, message⟩
def serviceUnavailable (message : String) : ApiError := ⟨.serviceUnavailable, message⟩
def badGateway (message : String) : ApiError := ⟨.badGateway, message⟩

def status (error : ApiError) : Nat := error.code.status

/-- The error on one line. -/
def text (error : ApiError) : String := error.code.name ++ ": " ++ error.message

def toJson (error : ApiError) : Json :=
  .object [("code", .string error.code.name), ("message", .string error.message)]

end ApiError

namespace Response

/-- A response with a text and its media type. -/
def withContentType (status : Nat) (contentType body : String) : Response :=
  ⟨status, Headers.empty.append "content-type" (.ofString contentType), bodyOfString body⟩

/-- A document as the body. -/
def json (status : Nat) (document : Json) : Response :=
  withContentType status "application/json" document.compact

/-- The answer that carries an error. -/
def ofError (error : ApiError) : Response :=
  json error.status error.toJson

/-- The answer when not even an error document can be written. -/
def internalServerError : Response :=
  ⟨500, .empty, bodyOfString "Internal Server Error"⟩

@[simp] theorem status_ofError (error : ApiError) : (ofError error).status = error.status := rfl

end Response

end ApiGateway.Http
