import ApiGateway.Files.Tree
import ApiGateway.Routing.Definition
import ApiGateway.Text.Blank
import ApiGateway.Yaml.Decoding

/-!
# Loading routing documents

A routing document is a YAML mapping. Fields that it leaves out have their defaults, and
a document without anything but white space defines no routes.
-/

namespace ApiGateway.Routing

open Yaml

/-- The names of a definition's fields in documents. -/
def Definition.fieldNames : List String :=
  ["name", "prefix", "upstream", "strip_prefix", "rewrite", "require_auth", "auth_strategy",
    "health_path", "methods", "timeout_secs"]

def Definition.decode (node : Node) : Decode Definition := do
  let known ← Decode.fields Definition.fieldNames node
  return {
    name := ← Decode.fieldOr "" Decode.text "name" known
    pathPrefix := ← Decode.fieldOr "" Decode.text "prefix" known
    target := ← Decode.fieldOr "" Decode.text "upstream" known
    stripPrefix := ← Decode.fieldOr false Decode.bool "strip_prefix" known
    replacement := ← Decode.fieldOr "" Decode.text "rewrite" known
    requireAuth := ← Decode.fieldOr false Decode.bool "require_auth" known
    authStrategy := ← Decode.fieldOr "" Decode.text "auth_strategy" known
    healthPath := ← Decode.fieldOr "" Decode.text "health_path" known
    methods := ← Decode.fieldOr [] (Decode.list Decode.text) "methods" known
    timeoutSeconds := ← Decode.fieldOr none (Decode.optional Decode.word) "timeout_secs" known }

def FallbackMapping.decode (node : Node) : Decode FallbackMapping := do
  let known ← Decode.fields
    ["upstream", "strip_prefix", "require_auth", "auth_strategy", "health_path"] node
  return {
    target := ← Decode.fieldOr "" Decode.text "upstream" known
    stripPrefix := ← Decode.fieldOr false Decode.bool "strip_prefix" known
    requireAuth := ← Decode.fieldOr false Decode.bool "require_auth" known
    authStrategy := ← Decode.fieldOr "" Decode.text "auth_strategy" known
    healthPath := ← Decode.fieldOr "" Decode.text "health_path" known }

/-- Pairs in ascending order of their keys; the last one of a repeated key counts. -/
def ascending {α : Type} (pairs : List (String × α)) : List (String × α) :=
  let last := pairs.foldl
    (fun kept pair => pair :: kept.filter fun other => other.1 != pair.1) []
  last.mergeSort fun left right => left.1 ≤ right.1

def decodeMappings (node : Node) : Decode (List (String × FallbackMapping)) := do
  let pairs ← (← Decode.entries node).mapM fun (key, value) =>
    return (key, ← FallbackMapping.decode value)
  return ascending pairs

def Fallback.decode (node : Node) : Decode Fallback := do
  let known ← Decode.fields ["base_path", "strip_base", "health_path", "mapping"] node
  return {
    basePath := ← Decode.fieldOr "" Decode.text "base_path" known
    stripBase := ← Decode.fieldOr false Decode.bool "strip_base" known
    healthPath := ← Decode.fieldOr "" Decode.text "health_path" known
    mappings := ← Decode.fieldOr [] decodeMappings "mapping" known }

def Document.decode (node : Node) : Decode Document := do
  let known ← Decode.fields ["routes", "fallback"] node
  return {
    routes := ← Decode.fieldOr [] (Decode.list Definition.decode) "routes" known
    fallback := ← Decode.fieldOr none (Decode.optional Fallback.decode) "fallback" known }

/-- The definitions of a document. -/
def parseDefinitions (text : String) : Except GatewayError (List Definition) :=
  if text.toList.all Text.isBlank then .ok []
  else match (Yaml.Document.parse? text).bind (Decode.run? Document.decode) with
    | some document => .ok document.definitions
    | none => .error .routesFile

/-- The definitions of the document at a path. -/
def loadDefinitions (files : FileTree) (path : Option String) :
    Except GatewayError (List Definition) :=
  match path.filter fun path => !path.isEmpty with
  | none => .error (.config "routes file path is empty")
  | some path =>
    match files.readText path with
    | .error error => .error (.io error)
    | .ok text => parseDefinitions text

end ApiGateway.Routing
