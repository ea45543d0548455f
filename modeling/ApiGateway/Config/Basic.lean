import ApiGateway.Backend.Status
import ApiGateway.Error
import ApiGateway.Log.Level
import ApiGateway.Net.Address
import ApiGateway.Text.Blank
import ApiGateway.Text.LowerCase

/-!
# Configuration

What the gateway can be told before it starts, with the defaults of every
setting and the words that modes and severities are given in.
-/

namespace ApiGateway

/-- What happens to paths that are not the gateway's own. -/
inductive Mode where
  /-- They are not found. -/
  | whitelist
  /-- They go through the route table. -/
  | proxyAll
deriving DecidableEq

namespace Mode

def name : Mode → String
  | whitelist => "whitelist"
  | proxyAll => "proxy_all"

/-- The mode of its exact name. -/
def ofName? (name : String) : Option Mode :=
  if name = "whitelist" then some whitelist
  else if name = "proxy_all" then some proxyAll
  else none

/-- Read a mode in any case with blanks around it; no text is the whitelist. -/
def parse (text : String) : Except GatewayError Mode :=
  let folded := String.ofList (Text.lowerCase (Text.trim text.toList))
  if folded = "whitelist" ∨ folded = "" then .ok whitelist
  else if folded = "proxy_all" ∨ folded = "proxy-all" then .ok proxyAll
  else .error (.config
    ("Invalid gateway mode: " ++ folded ++ ". Must be one of: whitelist, proxy_all"))

end Mode

namespace Log

/-- Read a severity in any case. The error repeats the text as it was given. -/
def Level.parse (text : String) : Except String Level :=
  match Level.ofName? (String.ofList (Text.lowerCase text.toList)) with
  | some level => .ok level
  | none => .error
    ("Invalid log level: " ++ text ++ ". Must be one of: trace, debug, info, warn, error")

/-- How lines are written. -/
inductive Format where
  | text | json
deriving DecidableEq

namespace Format

def name : Format → String
  | text => "text"
  | json => "json"

def ofName? (name : String) : Option Format :=
  if name = "text" then some text else if name = "json" then some json else none

end Format

/-- Where lines go. -/
inductive Sink where
  | stdout | file
deriving DecidableEq

namespace Sink

def name : Sink → String
  | stdout => "stdout"
  | file => "file"

def ofName? (name : String) : Option Sink :=
  if name = "stdout" then some stdout else if name = "file" then some file else none

end Sink

/-- One place that lines go to, with a threshold of its own. -/
structure Target where
  sink : Sink
  path : Option String
  level : Option Level
deriving DecidableEq

/-- The settings of the log. -/
structure Settings where
  level : Option Level
  format : Option Format
  targets : Option (List Target)
deriving DecidableEq

namespace Settings

/-- Text lines of `info` and above on standard output. -/
def standard : Settings := ⟨some .info, some .text, some [⟨.stdout, none, none⟩]⟩

end Settings

end Log

/-- All settings of the gateway. -/
structure Config where
  listen : Net.SocketAddress
  mode : Mode
  routesFile : Option String
  backendTimeoutSeconds : Nat
  backendRetries : Nat
  healthIntervalSeconds : Nat
  jwtSecret : Option String
  circuitWindowSeconds : Nat
  circuitThreshold : Binary64
  circuitCooldownSeconds : Nat
  poolMaxIdlePerHost : Nat
  poolIdleTimeoutSeconds : Nat
  connectTimeoutSeconds : Nat
  maxBodyBytes : Nat
  privateKey : Option String
  certificate : Option String
  logging : Option Log.Settings
deriving DecidableEq

namespace Config

/-- The settings when nothing is said. -/
def standard : Config where
  listen := .v4 127 0 0 1 8088
  mode := .whitelist
  routesFile := none
  backendTimeoutSeconds := 10
  backendRetries := 1
  healthIntervalSeconds := 10
  jwtSecret := none
  circuitWindowSeconds := 30
  circuitThreshold := Backend.CircuitPolicy.half
  circuitCooldownSeconds := 30
  poolMaxIdlePerHost := 32
  poolIdleTimeoutSeconds := 90
  connectTimeoutSeconds := 5
  maxBodyBytes := 10 * 1024 * 1024
  privateKey := none
  certificate := none
  logging := none

/-- An example to start from. -/
def sample : Config :=
  { standard with
    mode := .proxyAll
    routesFile := some "routes.yml"
    jwtSecret := some "change-me"
    logging := some .standard }

def backendTimeout (config : Config) : Duration := .ofSeconds config.backendTimeoutSeconds

def healthInterval (config : Config) : Duration := .ofSeconds config.healthIntervalSeconds

/-- The secret, unless it is empty. -/
def secret? (config : Config) : Option String :=
  config.jwtSecret.filter fun secret => !secret.isEmpty

def circuitPolicy (config : Config) : Backend.CircuitPolicy where
  window := .ofSeconds config.circuitWindowSeconds
  threshold := config.circuitThreshold
  cooldown := .ofSeconds config.circuitCooldownSeconds

/-- The listener speaks TLS when a key and a certificate are named. -/
def usesTls (config : Config) : Bool :=
  config.privateKey.isSome && config.certificate.isSome

end Config

end ApiGateway
