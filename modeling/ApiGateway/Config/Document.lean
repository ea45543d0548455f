import ApiGateway.Config.Basic
import ApiGateway.Json.Reader
import ApiGateway.Json.Record
import ApiGateway.Json.Writer
import ApiGateway.Number.Word

/-!
# The configuration file

A configuration is a JSON document with a member a setting. `Config.ofText?`
gives missing settings their defaults and passes over unknown members;
`Config.toText` writes every setting.
-/

namespace ApiGateway

namespace Log

def Level.decode? : Json → Option Level := Json.decodeChoice Level.ofName?
def Format.decode? : Json → Option Format := Json.decodeChoice Format.ofName?
def Sink.decode? : Json → Option Sink := Json.decodeChoice Sink.ofName?

namespace Target

/-- Only the kind of sink is required; an array states all three members. -/
def decode? (document : Json) : Option Target := do
  let fields ← Json.fieldsOf? ["type", "path", "level"] document
  if fields.positional && fields.values.any Option.isNone then none
  else match fields.values with
    | [some sink, path, level] =>
      return {
        sink := ← Sink.decode? sink
        path := ← Json.optional Json.decodeString (path.getD .null)
        level := ← Json.optional Level.decode? (level.getD .null) }
    | _ => none

def toJson (target : Target) : Json :=
  .object [
    ("type", .string target.sink.name),
    ("path", .ofOption .string target.path),
    ("level", .ofOption (fun level => .string level.name) target.level)]

end Target

namespace Settings

/-- Every member is optional; an array states all three. -/
def decode? (document : Json) : Option Settings := do
  let fields ← Json.fieldsOf? ["level", "format", "targets"] document
  if fields.positional && fields.values.any Option.isNone then none
  else match fields.values with
    | [level, format, targets] =>
      return {
        level := ← Json.optional Level.decode? (level.getD .null)
        format := ← Json.optional Format.decode? (format.getD .null)
        targets := ← Json.optional (Json.decodeList Target.decode?) (targets.getD .null) }
    | _ => none

def toJson (settings : Settings) : Json :=
  .object [
    ("level", .ofOption (fun level => .string level.name) settings.level),
    ("format", .ofOption (fun format => .string format.name) settings.format),
    ("targets", .ofOption (fun targets => .array (targets.map Target.toJson)) settings.targets)]

end Settings

end Log

namespace Config

/-- The members of a configuration in their order. -/
def memberNames : List String := [
  "listen_addr", "mode", "routes_file", "upstream_timeout_secs", "upstream_retries",
  "health_interval_secs", "jwt_secret", "circuit_window_secs", "circuit_threshold",
  "circuit_cooldown_secs", "pool_max_idle_per_host", "pool_idle_timeout_secs",
  "connect_timeout_secs", "max_body_bytes", "private_key", "certificate", "logging"]

def decodeListen : Json → Option Net.SocketAddress
  | .string text => Net.SocketAddress.parse? text
  | _ => none

def decodeWord64 : Json → Option Nat := Json.decodeNatBelow (Number.wordBound 64)
def decodeWord32 : Json → Option Nat := Json.decodeNatBelow (Number.wordBound 32)
def decodeText : Json → Option (Option String) := Json.optional Json.decodeString

/-- Read the members; an array may end early. -/
def decode? (document : Json) : Option Config := do
  let fields ← Json.fieldsOf? memberNames document
  match fields.values with
  | [listen, mode, routesFile, timeout, retries, interval, secret, window, threshold, cooldown,
      poolMax, poolIdle, connect, maxBody, key, certificate, logging] =>
    return {
      listen := ← Json.fieldOr standard.listen decodeListen listen
      mode := ← Json.fieldOr standard.mode (Json.decodeChoice Mode.ofName?) mode
      routesFile := ← Json.fieldOr none decodeText routesFile
      backendTimeoutSeconds := ← Json.fieldOr standard.backendTimeoutSeconds decodeWord64 timeout
      backendRetries := ← Json.fieldOr standard.backendRetries decodeWord32 retries
      healthIntervalSeconds := ← Json.fieldOr standard.healthIntervalSeconds decodeWord64 interval
      jwtSecret := ← Json.fieldOr none decodeText secret
      circuitWindowSeconds := ← Json.fieldOr standard.circuitWindowSeconds decodeWord64 window
      circuitThreshold := ← Json.fieldOr standard.circuitThreshold Json.decodeBinary64 threshold
      circuitCooldownSeconds := ←
        Json.fieldOr standard.circuitCooldownSeconds decodeWord64 cooldown
      poolMaxIdlePerHost := ← Json.fieldOr standard.poolMaxIdlePerHost decodeWord64 poolMax
      poolIdleTimeoutSeconds := ←
        Json.fieldOr standard.poolIdleTimeoutSeconds decodeWord64 poolIdle
      connectTimeoutSeconds := ← Json.fieldOr standard.connectTimeoutSeconds decodeWord64 connect
      maxBodyBytes := ← Json.fieldOr standard.maxBodyBytes decodeWord64 maxBody
      privateKey := ← Json.fieldOr none decodeText key
      certificate := ← Json.fieldOr none decodeText certificate
      logging := ← Json.fieldOr none (Json.optional Log.Settings.decode?) logging }
  | _ => none

def toJson (config : Config) : Json :=
  .object [
    ("listen_addr", .string config.listen.text),
    ("mode", .string config.mode.name),
    ("routes_file", .ofOption .string config.routesFile),
    ("upstream_timeout_secs", .ofNat config.backendTimeoutSeconds),
    ("upstream_retries", .ofNat config.backendRetries),
    ("health_interval_secs", .ofNat config.healthIntervalSeconds),
    ("jwt_secret", .ofOption .string config.jwtSecret),
    ("circuit_window_secs", .ofNat config.circuitWindowSeconds),
    ("circuit_threshold", .ofBinary64 config.circuitThreshold),
    ("circuit_cooldown_secs", .ofNat config.circuitCooldownSeconds),
    ("pool_max_idle_per_host", .ofNat config.poolMaxIdlePerHost),
    ("pool_idle_timeout_secs", .ofNat config.poolIdleTimeoutSeconds),
    ("connect_timeout_secs", .ofNat config.connectTimeoutSeconds),
    ("max_body_bytes", .ofNat config.maxBodyBytes),
    ("private_key", .ofOption .string config.privateKey),
    ("certificate", .ofOption .string config.certificate),
    ("logging", .ofOption Log.Settings.toJson config.logging)]

/-- Read a configuration file. -/
def ofText (text : String) : Except GatewayError Config :=
  match (Json.parse? text).bind decode? with
  | some config => .ok config
  | none => .error .json

/-- The configuration file that states every setting. -/
def toText (config : Config) : String :=
  config.toJson.pretty

end Config

end ApiGateway
