import ApiGateway.Text.Quoted
import ApiGateway.Time.Duration
import ApiGateway.Url.Basic

/-!
# Failures of the gateway

`GatewayError` is what loading, forwarding and waiting can fail with;
`GatewayError.message` is the one place where it is put into words. Readers of
documents give no detail, so their messages end with the kind of document.
-/

namespace ApiGateway

/-- Failures of the file system and the network. -/
inductive IoError where
  | notFound
  | notDirectory
  | isDirectory
  | nameTooLong
  | linkLoop
  | nulInName
  | networkUnreachable
  | invalidUtf8
deriving DecidableEq

namespace IoError

/-- The number that the operating system gives the failure. -/
def code? : IoError → Option Nat
  | notFound => some 2
  | notDirectory => some 20
  | isDirectory => some 21
  | nameTooLong => some 36
  | linkLoop => some 40
  | nulInName => none
  | networkUnreachable => some 101
  | invalidUtf8 => none

def reason : IoError → String
  | notFound => "No such file or directory"
  | notDirectory => "Not a directory"
  | isDirectory => "Is a directory"
  | nameTooLong => "File name too long"
  | linkLoop => "Too many levels of symbolic links"
  | nulInName => "file name contained an unexpected NUL byte"
  | networkUnreachable => "Network is unreachable"
  | invalidUtf8 => "stream did not contain valid UTF-8"

def kind : IoError → String
  | notFound => "NotFound"
  | notDirectory => "NotADirectory"
  | isDirectory => "IsADirectory"
  | nameTooLong => "InvalidFilename"
  | linkLoop => "FilesystemLoop"
  | nulInName => "InvalidInput"
  | networkUnreachable => "NetworkUnreachable"
  | invalidUtf8 => "InvalidData"

def message (error : IoError) : String :=
  match error.code? with
  | some code => error.reason ++ " (os error " ++ toString code ++ ")"
  | none => error.reason

/-- The failure with its number and kind spelled out, as a failed command reports it. -/
def debugText (error : IoError) : String :=
  match error.code? with
  | some code =>
    "Os \x7b code: " ++ toString code ++ ", kind: " ++ error.kind ++ ", message: \"" ++
      error.reason ++ "\" \x7d"
  | none =>
    "Error \x7b kind: " ++ error.kind ++ ", message: \"" ++ error.reason ++ "\" \x7d"

end IoError

/-- What an operation of the gateway fails with. -/
inductive GatewayError where
  | io (error : IoError)
  | config (text : String)
  | url (error : UrlError)
  | routesFile
  | json
  | http (text : String)
  | backend (text : String)
  | timeout (limit : Duration)
  | tls (text : String)
  | cancelled
deriving DecidableEq

namespace GatewayError

def message : GatewayError → String
  | io error => "IO error: " ++ error.message
  | config text => "Configuration error: " ++ text
  | url error => "URL parsing error: " ++ error.message
  | routesFile => "Routes file error: "
  | json => "JSON error: "
  | http text => "HTTP error: " ++ text
  | backend text => "Upstream error: " ++ text
  | timeout limit => "Upstream timed out after " ++ limit.text
  | tls text => "TLS error: " ++ text
  | cancelled => "Operation cancelled"

/-- The failure with its kind, as the end of the program reports it. -/
def debugText : GatewayError → String
  | io error => "Io(" ++ error.debugText ++ ")"
  | config text => "Config(" ++ Text.quoted text ++ ")"
  | url error => "Url(" ++ Text.quoted error.message ++ ")"
  | routesFile => "Yaml"
  | json => "Json"
  | http text => "Http(" ++ text ++ ")"
  | backend text => "Upstream(" ++ Text.quoted text ++ ")"
  | timeout limit => "Timeout(" ++ limit.text ++ ")"
  | tls text => "Tls(" ++ Text.quoted text ++ ")"
  | cancelled => "Cancelled"

end GatewayError

end ApiGateway
