import ApiGateway.Log.Level
import ApiGateway.Net.Address
import ApiGateway.Tls.Identity

/-!
# The listener

A listener speaks TLS exactly when both a key and a certificate are named.
-/

namespace ApiGateway.Server

/-- The address that requests come to, and who answers there. -/
structure Listener where
  address : Net.SocketAddress
  identity : Option Tls.Identity

namespace Listener

/-- Prepare the listener of an address. -/
def prepare (files : FileTree) (address : Net.SocketAddress)
    (privateKey certificate : Option String) : Except GatewayError Listener :=
  match privateKey, certificate with
  | some key, some certificate =>
    match Tls.Identity.load files key certificate with
    | .ok identity => .ok ⟨address, some identity⟩
    | .error error => .error (.tls error.message)
  | _, _ => .ok ⟨address, none⟩

def scheme (listener : Listener) : String :=
  if listener.identity.isSome then "https" else "http"

/-- What is logged when the listener is opened. -/
def openingLines (listener : Listener) : List Log.Line := [
  .info .server ("Binding listener to: " ++ listener.address.text),
  .info .server ("Gateway listening on " ++ listener.scheme ++ "://" ++ listener.address.text)]

end Listener

end ApiGateway.Server
