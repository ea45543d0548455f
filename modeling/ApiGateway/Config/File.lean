import ApiGateway.Config.Document
import ApiGateway.Files.Tree

/-!
# Configurations at a path

`Config.ofFile` reads what `Config.toFile` wrote.
-/

namespace ApiGateway.Config

/-- Read the configuration file at a path. -/
def ofFile (files : FileTree) (path : String) : Except GatewayError Config :=
  match files.readText path with
  | .error error => .error (.io error)
  | .ok text => ofText text

/-- Write a configuration to a path. -/
def toFile (config : Config) (files : FileTree) (path : String) : Except GatewayError FileTree :=
  (files.write path config.toText.toUTF8).mapError .io

end ApiGateway.Config
