import ApiGateway.Auth.Gate
import ApiGateway.Config.Basic
import ApiGateway.Engine.Body
import ApiGateway.Health.Probe
import ApiGateway.Metrics.Basic
import ApiGateway.Net.Address
import ApiGateway.Proxy.Retry
import ApiGateway.Routing.Table

/-!
# The engine

`Engine` is what is fixed once the gateway is configured. `Engine.dispatch` is
the chain of local checks that a request passes before any of its body is read:
mode, route, method, availability and credential, in this order.
-/

namespace ApiGateway

/-- How forwarded requests are sent: the medium, and the retries if failures are retried. -/
structure Transport where
  medium : Medium
  retries : Option Nat
deriving DecidableEq

namespace Transport

def attemptsFor (transport : Transport) (method : String) : Nat :=
  match transport.retries with
  | some retries => Proxy.Retry.attemptsFor retries method
  | none => 1

end Transport

/-- Everything about the gateway that no request changes. -/
structure Engine where
  mode : Mode
  table : Routing.Table
  verifier : Auth.TokenVerifier
  healthInterval : Duration
  circuitPolicy : Backend.CircuitPolicy
  maxBodyBytes : Nat
  tls : Bool
  transport : Transport

namespace Engine

/-- An engine with the lines that are logged while it is built. -/
structure Built where
  engine : Engine
  lines : List Log.Line

/-- Why there is no engine, with the lines that were logged before. -/
structure BuildFailure where
  error : GatewayError
  lines : List Log.Line

/-- The engine of a configuration and its route definitions. -/
def ofDefinitions (config : Config) (definitions : List Routing.Definition)
    (transport : Transport) : Except BuildFailure Built :=
  match Routing.Table.build definitions config.backendTimeout with
  | .error failure => .error ⟨failure.error, failure.shadowings.map (·.line)⟩
  | .ok (table, shadowings) =>
    let summary := "Proxy engine in " ++ config.mode.name ++ " mode with " ++
      toString table.routes.length ++ " routes over " ++ toString table.backends.length ++
      " upstreams"
    .ok {
      engine := {
        mode := config.mode
        table
        verifier := .ofSecret config.secret?
        healthInterval := config.healthInterval
        circuitPolicy := config.circuitPolicy
        maxBodyBytes := config.maxBodyBytes
        tls := config.usesTls
        transport }
      lines := shadowings.map (·.line) ++ [.info .engine summary] }

/-- The engine of a configuration and what loading its routes gave. Without routes the
whitelist goes on, and forwarding cannot start. -/
def ofLoaded (config : Config) (loaded : Except GatewayError (List Routing.Definition))
    (transport : Transport) : Except BuildFailure Built :=
  match loaded, config.mode with
  | .ok definitions, _ => ofDefinitions config definitions transport
  | .error error, .proxyAll =>
    .error ⟨.config ("proxy mode requires routes configuration: " ++ error.message), []⟩
  | .error error, .whitelist =>
    let warning := Log.Line.warn .engine
      ("Unable to load routes file, proxy_all disabled: " ++ error.message)
    match ofDefinitions config [] transport with
    | .ok built => .ok { built with lines := warning :: built.lines }
    | .error failure => .error { failure with lines := warning :: failure.lines }

/-- The part of a request that is known before its body. -/
structure Head where
  method : String
  uri : Http.Uri
  headers : Http.Headers
  client : Net.SocketAddress

/-- Why a request is answered before its body is read. -/
inductive Refusal where
  | modeDisabled
  | noRoute
  | methodNotAllowed
  | unavailable (route : Routing.Route) (reason : String)
  | unauthorized (route : Routing.Route) (error : Http.ApiError)

namespace Refusal

def error : Refusal → Http.ApiError
  | modeDisabled => .notFound "proxy mode disabled (whitelist)"
  | noRoute => .notFound "no upstream mapping"
  | methodNotAllowed => ⟨.methodNotAllowed, "method not allowed"⟩
  | unavailable _ reason => .serviceUnavailable reason
  | unauthorized _ error => error

/-- The route that a refusal counts for in the metrics, if it counts. -/
def countedRoute? : Refusal → Option Routing.Route
  | unavailable route _ => some route
  | unauthorized route _ => some route
  | _ => none

end Refusal

/-- The route that a request is admitted to, or the first check that it fails. -/
def dispatch (engine : Engine) (statuses : Backend.StatusBook) (now : Instant) (head : Head) :
    Except Refusal Routing.Route :=
  if engine.mode ≠ .proxyAll then .error .modeDisabled
  else match engine.table.match? head.uri.path with
    | none => .error .noRoute
    | some route =>
      if !route.allows head.method then .error .methodNotAllowed
      else match statuses.availability route.backendKey now with
        | .error reason => .error (.unavailable route reason)
        | .ok () =>
          match Auth.ensureAuth head.headers route.requireAuth route.strategy engine.verifier
              now with
          | .error error => .error (.unauthorized route error)
          | .ok () => .ok route

end Engine

end ApiGateway
