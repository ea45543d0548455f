import ApiGateway.Http.ApiError
import ApiGateway.Time.Instant

/-!
# Reading a request body

A body arrives in pieces over time. Reading ends with the whole body, with the
first piece that makes it too large, with a read failure, or at the deadline,
whichever comes first; a piece that arrives exactly at the deadline still counts.
-/

namespace ApiGateway.Engine

/-- What happens next while a body arrives. -/
inductive BodyPiece where
  | data (bytes : ByteArray)
  | pause (length : Duration)
  /-- Nothing more ever arrives. -/
  | stall
  | failure (reason : String)

/-- Why a body was not read to its end. -/
inductive BodyFault where
  | tooLarge
  | failed (reason : String)
  | timedOut
deriving DecidableEq

namespace BodyFault

/-- The refusal that a client gets. -/
def error (maxBytes : Nat) (timeout : Duration) : BodyFault → Http.ApiError
  | tooLarge => ⟨.payloadTooLarge, "request body exceeds " ++ toString maxBytes ++ " bytes"⟩
  | failed reason => ⟨.badRequest, "failed to read request body: " ++ reason⟩
  | timedOut => ⟨.requestTimeout, "request body not received within " ++ timeout.text⟩

end BodyFault

/-- The end of reading and its time. -/
structure BodyRead where
  finished : Instant
  result : Except BodyFault ByteArray

/-- Read the rest of a body from an instant on, given what was received. -/
def readBodyFrom (maxBytes : Nat) (deadline : Instant) :
    Instant → ByteArray → List BodyPiece → BodyRead
  | now, received, [] => ⟨now, .ok received⟩
  | now, received, .data bytes :: rest =>
    if maxBytes < received.size + bytes.size then ⟨now, .error .tooLarge⟩
    else readBodyFrom maxBytes deadline now (received ++ bytes) rest
  | now, received, .pause length :: rest =>
    if now + length ≤ deadline then readBodyFrom maxBytes deadline (now + length) received rest
    else ⟨deadline, .error .timedOut⟩
  | _, _, .stall :: _ => ⟨deadline, .error .timedOut⟩
  | now, _, .failure reason :: _ => ⟨now, .error (.failed reason)⟩

/-- Read a body that starts to arrive now. -/
def readBody (maxBytes : Nat) (now deadline : Instant) (pieces : List BodyPiece) : BodyRead :=
  readBodyFrom maxBytes deadline now .empty pieces

end ApiGateway.Engine
