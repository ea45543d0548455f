import ApiGateway.CommandLine.Arguments
import ApiGateway.Config.Basic
import ApiGateway.Text.Quoted

/-!
# Arguments over the configuration

Arguments take precedence over the configuration file. They are applied one after the
other, and the first that cannot be applied leaves the ones before it in place.
-/

namespace ApiGateway.CommandLine

/-- Why an argument cannot be applied. -/
inductive OverrideError where
  | mode (error : GatewayError)
  | listen
  | logLevel (text : String)
deriving DecidableEq

namespace OverrideError

def message : OverrideError → String
  | mode error => error.message
  | listen => "invalid socket address syntax"
  | logLevel text => text

/-- The failure as the end of the program reports it. -/
def debugText : OverrideError → String
  | mode error => error.debugText
  | listen => "AddrParseError(Socket)"
  | logLevel text => Text.quoted text

end OverrideError

/-- A configuration, and why it is not finished if it is not. -/
structure Overridden where
  config : Config
  error : Option OverrideError := none
deriving DecidableEq

namespace Overridden

/-- Apply a value that may be refused, unless an earlier one was. -/
def tryWith {α : Type} (value : Option α) (apply : Config → α → Except OverrideError Config)
    (result : Overridden) : Overridden :=
  match result.error, value with
  | none, some value =>
    match apply result.config value with
    | .ok config => ⟨config, none⟩
    | .error error => ⟨result.config, some error⟩
  | _, _ => result

/-- Apply a value. -/
def withValue {α : Type} (value : Option α) (apply : Config → α → Config)
    (result : Overridden) : Overridden :=
  result.tryWith value fun config value => .ok (apply config value)

end Overridden

private def applyMode (config : Config) (text : String) : Except OverrideError Config :=
  match Mode.parse text with
  | .ok mode => .ok { config with mode }
  | .error error => .error (.mode error)

private def applyListen (config : Config) (text : String) : Except OverrideError Config :=
  match Net.SocketAddress.parse? text with
  | some listen => .ok { config with listen }
  | none => .error .listen

/-- Only the level of the log changes; without any settings the standard ones are taken. -/
private def applyLogLevel (config : Config) (text : String) : Except OverrideError Config :=
  match Log.Level.parse text with
  | .ok level =>
    .ok { config with
      logging := some { config.logging.getD .standard with level := some level } }
  | .error message => .error (.logLevel message)

namespace Arguments

/-- The configuration under the arguments. -/
def override (arguments : Arguments) (config : Config) : Overridden :=
  ({ config } : Overridden)
    |>.tryWith (arguments.value? .mode) applyMode
    |>.tryWith (arguments.value? .listen) applyListen
    |>.withValue (arguments.value? .routes) (fun config path =>
      { config with routesFile := some path })
    |>.withValue (arguments.word64? .backendTimeout) (fun config seconds =>
      { config with backendTimeoutSeconds := seconds })
    |>.withValue (arguments.word32? .backendRetries) (fun config retries =>
      { config with backendRetries := retries })
    |>.withValue (arguments.word64? .healthInterval) (fun config seconds =>
      { config with healthIntervalSeconds := seconds })
    |>.withValue (arguments.value? .jwtSecret) (fun config secret =>
      { config with jwtSecret := some secret })
    |>.withValue (arguments.word64? .maxBodyBytes) (fun config bytes =>
      { config with maxBodyBytes := bytes })
    |>.withValue (arguments.word64? .circuitWindow) (fun config seconds =>
      { config with circuitWindowSeconds := seconds })
    |>.withValue (arguments.real? .circuitThreshold) (fun config threshold =>
      { config with circuitThreshold := threshold })
    |>.withValue (arguments.word64? .circuitCooldown) (fun config seconds =>
      { config with circuitCooldownSeconds := seconds })
    |>.withValue (arguments.value? .privateKey) (fun config path =>
      { config with privateKey := some path })
    |>.withValue (arguments.value? .certificate) (fun config path =>
      { config with certificate := some path })
    |>.tryWith (arguments.value? .logLevel) applyLogLevel

end Arguments

end ApiGateway.CommandLine
