import ApiGateway.Config.Basic
import ApiGateway.Number.Shortest

/-!
# Checking a configuration

`validate` lists what forbids a start and what deserves a warning. It is told
about the files that the configuration names by a function from paths.
-/

namespace ApiGateway

/-- What a look at the files finds at a path: nothing wrong, or why it cannot be reached. -/
abbrev PathCheck := String → Except IoError Unit

/-- The outcome of a check. -/
structure Validation where
  errors : List String
  warnings : List String
deriving DecidableEq

namespace Validation

def isValid (validation : Validation) : Bool := validation.errors.isEmpty

def none : Validation := ⟨[], []⟩
def error (text : String) : Validation := ⟨[text], []⟩
def warning (text : String) : Validation := ⟨[], [text]⟩

instance : Append Validation where
  append first second := ⟨first.errors ++ second.errors, first.warnings ++ second.warnings⟩

/-- A warning under a condition. -/
def warnIf (condition : Bool) (text : String) : Validation :=
  if condition then warning text else none

/-- An error under a condition. -/
def errorIf (condition : Bool) (text : String) : Validation :=
  if condition then error text else none

end Validation

namespace Config

open Validation (warnIf errorIf)

private def validateListen (config : Config) : Validation :=
  let number := config.listen.socketNumber.toNat
  if number = 0 then .error "Port 0 is reserved and cannot be used"
  else warnIf (number < 1024)
    ("Using privileged port " ++ toString number ++ " - may require elevated privileges")

private def validateRoutes (config : Config) (check : PathCheck) : Validation :=
  match config.routesFile, config.mode with
  | none, .proxyAll => .error "proxy_all mode requires routes_file"
  | none, .whitelist => .none
  | some path, mode =>
    if (check path).isOk then .none
    else match mode with
      | .proxyAll => .error ("Routes file not found: " ++ path)
      | .whitelist => .warning ("Routes file not found: " ++ path ++ "; dynamic routing disabled")

/-- A threshold above one, or none at all, forbids the start; one of zero or less gives way to
the default. -/
def validateCircuit (config : Config) : Validation :=
  let threshold := config.circuitThreshold
  (if threshold.isNaN || Binary64.one.lt threshold then
    .error ("circuit_threshold must not exceed 1, got " ++ Number.plainText threshold)
  else warnIf (threshold.le (.zero false))
    ("circuit_threshold is " ++ Number.plainText threshold ++ "; the 0.5 default applies")) ++
  warnIf (config.circuitWindowSeconds = 0) "circuit_window_secs is 0; the 30s default applies" ++
  warnIf (config.circuitCooldownSeconds = 0)
    "circuit_cooldown_secs is 0; a tripped circuit closes immediately"

private def validateLimits (config : Config) : Validation :=
  errorIf (config.backendTimeoutSeconds = 0) "upstream_timeout_secs must be greater than 0" ++
  warnIf (config.healthIntervalSeconds = 0)
    "health_interval_secs is 0; the 10s default applies" ++
  errorIf (config.maxBodyBytes = 0) "max_body_bytes must be greater than 0" ++
  warnIf (5 < config.backendRetries)
    ("upstream_retries = " ++ toString config.backendRetries ++
      " may multiply load on failing upstreams")

private def validateTls (config : Config) (check : PathCheck) : Validation :=
  let accessible (label path : String) : Validation :=
    match check path with
    | .ok () => .none
    | .error error => .error (label ++ " file not accessible: " ++ error.message)
  match config.privateKey, config.certificate with
  | some key, some certificate =>
    accessible "Private key" key ++ accessible "Certificate" certificate
  | none, none => .none
  | _, _ => .error "TLS requires both private_key and certificate"

private def validateAuth (config : Config) : Validation :=
  warnIf (config.mode = .proxyAll && config.secret?.isNone)
    "jwt_secret is not set; routes using the validate strategy will reject every request"

/-- Everything that is wrong or doubtful about a configuration, in a fixed order. -/
def validate (config : Config) (check : PathCheck) : Validation :=
  validateListen config ++ validateRoutes config check ++ validateCircuit config ++
    validateLimits config ++ validateTls config check ++ validateAuth config

end Config

end ApiGateway
