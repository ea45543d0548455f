import ApiGateway.Number.Reading
import ApiGateway.Number.Word

/-!
# Parameters of the program

Each parameter has a name, some have a letter, and most have an environment variable that
speaks when the command line does not.
-/

namespace ApiGateway.CommandLine

/-- What the program can be told on its command line. -/
inductive Parameter where
  | config
  | mode
  | listen
  | routes
  | backendTimeout
  | backendRetries
  | healthInterval
  | jwtSecret
  | maxBodyBytes
  | circuitWindow
  | circuitThreshold
  | circuitCooldown
  | privateKey
  | certificate
  | logLevel
  /-- Where to write a sample configuration. -/
  | sampleConfig
deriving DecidableEq

/-- What the value of a parameter has to be. -/
inductive ValueKind where
  | text
  /-- A text that is not empty. -/
  | path
  /-- A number below 2 ^ 64. -/
  | word64
  /-- A number below 2 ^ 32. -/
  | word32
  | real
deriving DecidableEq

/-- Why a command line cannot be used; the last two end the program without being faults. -/
inductive UsageError where
  | unknownArgument
  | missingValue
  | unreadableValue
  | repeated
  | needlessValue
  | help
  | version
deriving DecidableEq

/-- Read a number without sign or with `+`. -/
def readWord? (bound : Nat) (text : List Char) : Option Nat :=
  let digits := match text with
    | '+' :: rest => rest
    | other => other
  (Text.readDecimal? digits).filter (· < bound)

/-- Read a number with any sign; the sign of zero says nothing. -/
def readSignedWord? (bound : Nat) : List Char → Option Nat
  | '-' :: rest => (Text.readDecimal? rest).filter (· = 0)
  | text => readWord? bound text

namespace ValueKind

/-- Can a text be the value? -/
def check (kind : ValueKind) (value : String) : Except UsageError Unit :=
  let readable (isReadable : Bool) : Except UsageError Unit :=
    if isReadable then .ok () else .error .unreadableValue
  match kind with
  | text => .ok ()
  | path => if value.isEmpty then .error .missingValue else .ok ()
  | word64 => readable (readWord? (Number.wordBound 64) value.toList).isSome
  | word32 => readable (readSignedWord? (Number.wordBound 32) value.toList).isSome
  | real => readable (Number.readBinary64? value.toList).isSome

end ValueKind

namespace Parameter

/-- All parameters, in the order in which the environment is asked. -/
def all : List Parameter := [
  config, mode, listen, routes, backendTimeout, backendRetries, healthInterval, jwtSecret,
  maxBodyBytes, circuitWindow, circuitThreshold, circuitCooldown, privateKey, certificate,
  logLevel, sampleConfig]

/-- The name after two dashes. -/
def name : Parameter → String
  | config => "config"
  | mode => "mode"
  | listen => "listen"
  | routes => "routes"
  | backendTimeout => "upstream-timeout"
  | backendRetries => "upstream-retries"
  | healthInterval => "health-interval"
  | jwtSecret => "jwt-secret"
  | maxBodyBytes => "max-body-bytes"
  | circuitWindow => "circuit-window"
  | circuitThreshold => "circuit-threshold"
  | circuitCooldown => "circuit-cooldown"
  | privateKey => "private-key"
  | certificate => "certificate"
  | logLevel => "log-level"
  | sampleConfig => "generate-config"

/-- The letter after one dash. -/
def letter? : Parameter → Option Char
  | config => some 'c'
  | mode => some 'm'
  | listen => some 'l'
  | routes => some 'r'
  | _ => none

/-- The environment variable. -/
def environmentName? : Parameter → Option String
  | config => some "GATEWAY_CONFIG"
  | mode => some "GATEWAY_MODE"
  | listen => some "GATEWAY_LISTEN"
  | routes => some "GATEWAY_ROUTES_FILE"
  | backendTimeout => some "UPSTREAM_TIMEOUT"
  | backendRetries => some "UPSTREAM_RETRIES"
  | healthInterval => some "HEALTH_INTERVAL"
  | jwtSecret => some "JWT_SECRET"
  | maxBodyBytes => some "MAX_BODY_BYTES"
  | circuitWindow => some "CIRCUIT_WINDOW"
  | circuitThreshold => some "CIRCUIT_THRESHOLD"
  | circuitCooldown => some "CIRCUIT_COOLDOWN"
  | privateKey | certificate | logLevel | sampleConfig => none

def kind : Parameter → ValueKind
  | routes => .path
  | backendTimeout | healthInterval | maxBodyBytes | circuitWindow | circuitCooldown => .word64
  | backendRetries => .word32
  | circuitThreshold => .real
  | _ => .text

def ofName? (name : String) : Option Parameter :=
  all.find? fun parameter => parameter.name == name

def ofLetter? (letter : Char) : Option Parameter :=
  all.find? fun parameter => parameter.letter? == some letter

end Parameter

end ApiGateway.CommandLine
