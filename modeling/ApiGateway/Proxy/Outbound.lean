import ApiGateway.Error
import ApiGateway.Http.Message
import ApiGateway.Net.Address

/-!
# Outbound requests

What a backend receives for an inbound request: the method and the body as they
came, the locator of the backend joined with the forwarded path, and the headers
without those that concern one connection only, with the forwarding headers set.
-/

namespace ApiGateway.Proxy

open Http

/-- Headers that concern one connection. -/
def hopByHopNames : List String :=
  ["connection", "keep-alive", "proxy-authenticate", "proxy-authorization", "te", "trailer",
    "transfer-encoding", "upgrade"]

/-- The names that one `connection` value lists, in lower case. -/
def listedNames (value : HeaderValue) : List String :=
  match value.text? with
  | none => []
  | some text =>
    ((Text.splitOn ',' text).map fun item => Text.lowerAscii (Text.trim item)).filterMap fun item =>
      if item.isEmpty then none else some (String.ofList item)

/-- The names that all `connection` values list. -/
def connectionListed (headers : Headers) : List String :=
  (headers.values "connection").flatMap listedNames

/-- Drop the headers of one connection and those that it lists. -/
def stripHopByHop (headers : Headers) : Headers :=
  let listed := connectionListed headers
  headers.filterNames fun name => !(hopByHopNames.contains name) && !(listed.contains name)

/-- The address of a backend joined with a path and an optional query, as text. -/
def joinedText (target : Url) (path : String) (query : Option String) : String :=
  String.ofList (Text.trimEndWith (· = '/') target.text.toList) ++ path ++
    (match query with
    | some query => if query.isEmpty then "" else "?" ++ query
    | none => "")

/-- The target of the outbound request. -/
def targetUri (target : Url) (path : String) (query : Option String) :
    Except GatewayError Uri :=
  let text := joinedText target path query
  match Uri.parse text with
  | .ok uri => .ok uri
  | .error error =>
    .error (.backend ("invalid upstream uri " ++ text ++ ": " ++ error.message))

/-- The chain of addresses that a request came along, ending with the client. -/
def forwardedFor (headers : Headers) (client : Net.IpAddress) : HeaderValue :=
  match headers.getText? "x-forwarded-for" with
  | some prior =>
    if (Text.trim prior).isEmpty then .ofString client.text
    else .ofString (String.ofList prior ++ ", " ++ client.text)
  | none => .ofString client.text

/-- The headers of the outbound request. -/
def outboundHeaders (inbound : Headers) (client : Net.IpAddress) (tls : Bool) : Headers :=
  let kept := stripHopByHop (inbound.remove "host")
  let forwarded :=
    (kept.set "x-forwarded-for" (forwardedFor kept client)).set "x-forwarded-proto"
      (.ofString (if tls then "https" else "http"))
  match inbound.get? "host" with
  | some host => forwarded.set "x-forwarded-host" host
  | none => forwarded

/-- The request that a backend receives. -/
def outboundRequest (target : Url) (inbound : Request) (path : String)
    (client : Net.IpAddress) (tls : Bool) : Except GatewayError Request :=
  (targetUri target path inbound.uri.query).map fun uri =>
    { method := inbound.method
      uri
      headers := outboundHeaders inbound.headers client tls
      body := inbound.body }

/-- What the client receives of a backend's response. -/
def inboundResponse (response : Response) : Response :=
  { response with headers := stripHopByHop response.headers }

/-- The address of the client for the log: the first entry of the forwarding chain if there
is one, the socket's address otherwise. -/
def remoteIp (headers : Headers) (socket : Net.SocketAddress) : String :=
  match headers.getText? "x-forwarded-for" with
  | none => socket.ip.text
  | some chain =>
    let first := Text.trim ((Text.splitOn ',' chain).headD [])
    if first.isEmpty then socket.ip.text else String.ofList first

/-- The visible name of the client's program, or nothing. -/
def userAgent (headers : Headers) : String :=
  String.ofList ((headers.getText? "user-agent").getD [])

end ApiGateway.Proxy
