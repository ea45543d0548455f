import ApiGateway.Url.Parser

/-!
# Backends

A backend is one canonical locator that requests are forwarded to, with the path
that its health probes request.
-/

namespace ApiGateway

/-- A server that requests are forwarded to. -/
structure Backend where
  url : Url
  healthPath : String
deriving DecidableEq

namespace Backend

/-- Two backends are the same exactly when their keys are. -/
def key (backend : Backend) : String := backend.url.text

/-- Host and socket number of a locator, as logs show them; a locator without a host is shown
whole. -/
def nameOf (url : Url) : String :=
  match url.host?, url.socketNumber? with
  | some host, some socket => host ++ ":" ++ toString socket
  | some host, none => host
  | none, _ => url.text

def name (backend : Backend) : String := nameOf backend.url

/-- What probes request: the health path at the origin. The base path of the backend is no
part of it. -/
def healthUrl (backend : Backend) : String :=
  let path := if backend.healthPath.startsWith "/" then backend.healthPath
    else "/" ++ backend.healthPath
  backend.url.origin ++ path

end Backend

end ApiGateway
