import ApiGateway.Http.Headers
import ApiGateway.Http.Uri

/-!
# Requests and responses

Methods are case-sensitive tokens. Bodies are whole byte strings; the part of the
gateway that reads a body piece by piece lives with the engine.
-/

namespace ApiGateway.Http

/-- A version of the protocol. -/
inductive Version where
  | http09 | http10 | http11 | http2 | http3
deriving DecidableEq

/-- A request whose body has been read. -/
structure Request where
  method : String
  uri : Uri
  headers : Headers
  body : ByteArray

/-- A response with its whole body. -/
structure Response where
  status : Nat
  headers : Headers
  body : ByteArray

/-- Is a text a method: at least one token character and nothing else? -/
def isMethod (text : List Char) : Bool :=
  !text.isEmpty && text.all isTokenChar

/-- The bytes of a text. -/
def bodyOfString (text : String) : ByteArray := text.toUTF8

/-- The text is read from the bytes again. -/
theorem fromUTF8?_bodyOfString (text : String) :
    String.fromUTF8? (bodyOfString text) = some text := dif_pos text.isValidUTF8

end ApiGateway.Http
