import ApiGateway.CommandLine.Overrides
import ApiGateway.Config.File
import ApiGateway.Config.Validation
import ApiGateway.Engine.Schedule
import ApiGateway.Log.Console
import ApiGateway.Routing.Loading
import ApiGateway.Server.Listener

/-!
# From the command line to a running gateway

`Startup.run` is the whole course of the program up to the moment at which the listener is
open: it ends earlier with a sample configuration, or with the first thing that is wrong.
-/

namespace ApiGateway.CommandLine

/-- What a run of the program left behind. Without an exit code it is still running. -/
structure Run where
  exitCode : Option UInt32
  stdout : String
  stderr : String
  files : FileTree

/-- The program once its log is installed. -/
structure Session where
  log : Log.Installed
  outputs : Log.Outputs
  stderr : String
  now : Instant

namespace Session

/-- Log a line. -/
def emit (line : Log.Line) (session : Session) : Session :=
  let record : Log.Record :=
    ⟨line.level, line.component.name, none, none, line.message, session.now⟩
  match session.log with
  | .logger logger => { session with outputs := logger.deliver record session.outputs }
  | .console console => { session with stderr := session.stderr ++ console.textFor record }

def emitAll (lines : List Log.Line) (session : Session) : Session :=
  lines.foldl (fun session line => session.emit line) session

end Session

namespace Startup

/-- The last line of a run that fails. -/
def errorLine (debugText : String) : String :=
  "Error: " ++ debugText ++ "\n"

/-- The end of a run before the log is installed. -/
def fail (files : FileTree) (debugText : String) : Run :=
  ⟨some 1, "", errorLine debugText, files⟩

/-- The end of a run after the log is installed. -/
def failIn (session : Session) (debugText : String) : Run :=
  ⟨some 1, session.outputs.stdout, session.stderr ++ errorLine debugText, session.outputs.files⟩

/-- A command line that cannot be used. -/
def refuse (files : FileTree) (error : UsageError) : Run :=
  ⟨some (if error = .help || error = .version then 0 else 2), "", "", files⟩

/-- Write the sample configuration. -/
def writeSample (files : FileTree) (path : String) : Run :=
  match Config.sample.toFile files path with
  | .ok files => ⟨some 0, "Sample configuration file generated: " ++ path ++ "\n", "", files⟩
  | .error error => fail files error.debugText

/-- The configuration of a file, or the standard one; a failure is given in the words of the
end of the program. -/
def loadConfig (files : FileTree) : Option String → Except String Config
  | none => .ok .standard
  | some path =>
    if !(files.check path).isOk then
      .error (Text.quoted ("Configuration file not found: " ++ path))
    else (Config.ofFile files path).mapError GatewayError.debugText

/-- The failure to install the log, in the words of the end of the program. -/
def setupText : Log.SetupError → String
  | .pathRequired => Text.quoted Log.SetupError.pathRequired.message
  | .io error => error.debugText

/-- A bound on the moves until the gateway is ready. Each backend is probed once. -/
def movesUntilReady (engine : Engine) : Nat :=
  4 * engine.table.backends.length + 8

/-- The lines until the gateway is ready. -/
def readyLines (engine : Engine) (now : Instant) : List Log.Line :=
  let started := (Engine.World.initial engine .empty now).move engine .start
  (started.runUntil engine (·.ready) none (movesUntilReady engine)).lines

/-- Open the listener, once the gateway is ready. -/
def serve (session : Session) (config : Config) : Run :=
  match Server.Listener.prepare session.outputs.files config.listen config.privateKey
      config.certificate with
  | .error error => failIn session error.debugText
  | .ok listener =>
    let session := session.emitAll listener.openingLines
    ⟨none, session.outputs.stdout, session.stderr, session.outputs.files⟩

/-- Build the engine and start it. -/
def startEngine (session : Session) (config : Config) : Run :=
  let session := session.emit
    (.info .program ("Starting gateway in " ++ config.mode.name ++ " mode..."))
  match Engine.ofLoaded config (Routing.loadDefinitions session.outputs.files config.routesFile)
      ⟨.connection, some config.backendRetries⟩ with
  | .error failure => failIn (session.emitAll failure.lines) failure.error.debugText
  | .ok built =>
    let session := (session.emitAll built.lines).emitAll (readyLines built.engine session.now)
    serve (session.emit (.info .program "Gateway ready")) config

/-- Go on if nothing forbids it; warnings are logged in any case. -/
def validate (session : Session) (config : Config) : Run :=
  let validation := config.validate session.outputs.files.check
  let session := session.emitAll (validation.warnings.map (.warn .program))
  if validation.isValid then startEngine session config
  else
    failIn (session.emitAll (validation.errors.map (.error .program)))
      (GatewayError.config ("; ".intercalate validation.errors)).debugText

/-- Install the log and go on. -/
def installLog (files : FileTree) (environment : Environment) (now : Instant) (config : Config) :
    Run :=
  match Log.install config.logging (List.lookup Log.filterVariable environment) files with
  | (files, .error error) => fail files (setupText error)
  | (files, .ok log) => validate ⟨log, ⟨"", files⟩, "", now⟩ config

/-- A run of the program on the words of its command line. -/
def run (files : FileTree) (environment : Environment) (now : Instant) (words : List String) :
    Run :=
  match Arguments.parse words environment with
  | .error error => refuse files error
  | .ok arguments =>
    match arguments.value? .sampleConfig with
    | some path => writeSample files path
    | none =>
      match loadConfig files (arguments.value? .config) with
      | .error text => fail files text
      | .ok config =>
        match arguments.override config with
        | ⟨_, some error⟩ => fail files error.debugText
        | ⟨config, none⟩ => installLog files environment now config

end Startup

end ApiGateway.CommandLine
