import ApiGateway.Http.ApiError
import ApiGateway.Proofs.Json.Written

/-!
# Documents in responses

The body of a response is bytes. A client that reads them as a text, and the text as a document,
finds the document that was sent (`document?_json`), and so the status, the code and the message of
an error that it is told of (`tells_ofError`).
-/

namespace ApiGateway.Http.Response

/-- The document that a client reads from the body. -/
def document? (response : Response) : Option Json :=
  (String.fromUTF8? response.body).bind Json.parse?

theorem document?_json {document : Json} (readable : document.Readable) (status : Nat) :
    (json status document).document? = some document := by
  rw [document?, json, withContentType, fromUTF8?_bodyOfString, Option.bind_some]
  exact Json.parse?_compact readable

/-- A response tells a client of an error. -/
structure Tells (response : Response) (error : ApiError) : Prop where
  status : response.status = error.status
  contentType : response.headers.getText? "content-type" = some "application/json".toList
  document : response.document? =
    some (.object [("code", .string error.code.name), ("message", .string error.message)])

theorem tells_ofError (error : ApiError) : (ofError error).Tells error where
  status := rfl
  contentType := show (Headers.empty.append "content-type" (.ofString "application/json")).getText?
      "content-type" = some "application/json".toList by decide +kernel
  document := by
    refine document?_json (.object ?_) error.status
    simp only [List.forall_mem_cons]
    exact ⟨.string _, .string _, nofun⟩

end ApiGateway.Http.Response
