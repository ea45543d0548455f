/-!
# Route definitions

What a routing document says about routes, before anything is checked: the
explicit routes and the fallback block, which maps keys under a shared base path
and is flattened into further definitions.
-/

namespace ApiGateway.Routing

/-- The path that health probes request unless a definition says otherwise. -/
def defaultHealthPath : String := "/healthz"

/-- The base path of a fallback block whose own is made of slashes only. -/
def defaultFallbackBase : String := "/api"

/-- One route as a document states it. -/
structure Definition where
  name : String := ""
  pathPrefix : String := ""
  target : String := ""
  stripPrefix : Bool := false
  replacement : String := ""
  requireAuth : Bool := false
  authStrategy : String := ""
  healthPath : String := ""
  methods : List String := []
  timeoutSeconds : Option Nat := none
deriving DecidableEq, Inhabited

/-- One mapping of a fallback block. -/
structure FallbackMapping where
  target : String := ""
  stripPrefix : Bool := false
  requireAuth : Bool := false
  authStrategy : String := ""
  healthPath : String := ""
deriving DecidableEq, Inhabited

/-- Keys under a shared base path, in ascending order. -/
structure Fallback where
  basePath : String := ""
  stripBase : Bool := false
  healthPath : String := ""
  mappings : List (String × FallbackMapping) := []
deriving DecidableEq, Inhabited

/-- A routing document. -/
structure Document where
  routes : List Definition := []
  fallback : Option Fallback := none
deriving DecidableEq, Inhabited

namespace Fallback

/-- A block without a base path or without mappings defines nothing. -/
def isActive (fallback : Fallback) : Bool :=
  !fallback.basePath.isEmpty && !fallback.mappings.isEmpty

/-- The base path without trailing slashes. -/
def base (fallback : Fallback) : String :=
  let trimmed := (fallback.basePath.toList.reverse.dropWhile (· = '/')).reverse
  if trimmed.isEmpty then defaultFallbackBase else String.ofList trimmed

private def firstNonEmpty (texts : List String) : String :=
  (texts.find? fun text => !text.isEmpty).getD ""

/-- The definition that a key expands to. -/
def definitionOf (fallback : Fallback) (key : String) (mapping : FallbackMapping) : Definition :=
  { name := "fallback-" ++ key
    pathPrefix := fallback.base ++ "/" ++ key
    target := mapping.target
    stripPrefix := fallback.stripBase || mapping.stripPrefix
    requireAuth := mapping.requireAuth
    authStrategy := mapping.authStrategy
    healthPath := firstNonEmpty [mapping.healthPath, fallback.healthPath, defaultHealthPath] }

/-- One definition a key, in the order of the keys. -/
def expand (fallback : Fallback) : List Definition :=
  fallback.mappings.map fun (key, mapping) => fallback.definitionOf key mapping

end Fallback

namespace Document

/-- The explicit routes and then the expansion of an active fallback block. -/
def definitions (document : Document) : List Definition :=
  document.routes ++
    match document.fallback with
    | some fallback => if fallback.isActive then fallback.expand else []
    | none => []

end Document

end ApiGateway.Routing
