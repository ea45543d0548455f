import ApiGateway.Auth.Bearer
import ApiGateway.Backend.Basic
import ApiGateway.Error
import ApiGateway.Http.Message
import ApiGateway.Log.Level
import ApiGateway.Routing.Definition
import ApiGateway.Routing.Path
import ApiGateway.Text.LowerCase
import ApiGateway.Text.Quoted

/-!
# The route table

`build` checks definitions one by one and sorts the routes by the length of their
prefix, longest first, definitions of equal length in their order. `match?` takes
the first route that covers a path. Routes whose locators have one canonical text
share one backend.
-/

namespace ApiGateway.Routing

/-- A checked route. -/
structure Route where
  name : String
  pathPrefix : String
  stripPrefix : Bool
  replacement : String
  requireAuth : Bool
  strategy : Auth.Strategy
  /-- No methods mean every method. -/
  methods : List String
  timeout : Duration
  target : Url
deriving DecidableEq

namespace Route

/-- The key of the backend that the route forwards to. -/
def backendKey (route : Route) : String := route.target.text

/-- The root prefix covers every path; any other covers itself and what lies below it. -/
def coversChars (routePrefix path : List Char) : Bool :=
  if routePrefix = ['/'] then true
  else match Text.dropPrefix? routePrefix path with
    | some [] => true
    | some (c :: _) => c = '/'
    | none => false

def covers (route : Route) (path : String) : Bool :=
  coversChars route.pathPrefix.toList path.toList

def allows (route : Route) (method : String) : Bool :=
  route.methods.isEmpty || route.methods.contains method

/-- The path sent on for a path that the route covers. The root never changes it; a
replacement for the prefix wins over stripping it. -/
def forwardedChars (route : Route) (path : List Char) : List Char :=
  let routePrefix := route.pathPrefix.toList
  if routePrefix = ['/'] then path
  else if !route.replacement.isEmpty then
    cleanPathChars (route.replacement.toList ++ (Text.dropPrefix? routePrefix path).getD path)
  else if route.stripPrefix then
    match Text.dropPrefix? routePrefix path with
    | some rest => rooted rest
    | none => path
  else path

def forwardedPath (route : Route) (path : String) : String :=
  String.ofList (route.forwardedChars path.toList)

end Route

/-- A definition whose prefix an earlier one already serves. -/
structure Shadowing where
  name : String
  pathPrefix : String
  servedBy : String
deriving DecidableEq

namespace Shadowing

def line (shadowing : Shadowing) : Log.Line :=
  .warn .routing ("Route " ++ Text.quoted shadowing.name ++ " shadowed: prefix " ++
    shadowing.pathPrefix ++ " is already served by route " ++ Text.quoted shadowing.servedBy)

end Shadowing

/-- Routes in matching order and the distinct backends in the order of their keys. -/
structure Table where
  routes : List Route
  backends : List Backend
deriving DecidableEq

/-- A table under construction: routes in the order of their definitions. -/
structure Draft where
  routes : List Route
  backends : List Backend
  shadowings : List Shadowing

/-- Why a definition spoils the table, with what was noticed before. -/
structure BuildFailure where
  error : GatewayError
  shadowings : List Shadowing

/-- Insert a backend in key order unless its key is there. -/
def insertBackend (backend : Backend) : List Backend → List Backend
  | [] => [backend]
  | first :: rest =>
    if backend.key < first.key then backend :: first :: rest
    else if backend.key = first.key then first :: rest
    else first :: insertBackend backend rest

/-- A method name is trimmed and folded to upper case; the result must be a method. -/
def method? (text : String) : Option String := do
  let folded ← Text.upperAscii? (Text.trim text.toList)
  if Http.isMethod folded then return String.ofList folded else none

/-- The methods of a definition in ascending order, or the first text that is none. -/
def methodsOf (texts : List String) : Except String (List String) := do
  let methods ← texts.mapM fun text =>
    match method? text with
    | some method => .ok method
    | none => .error text
  return (methods.mergeSort fun a b => a ≤ b).eraseDups

/-- Definitions without a prefix or a target are passed over. -/
def Definition.isUsable (definition : Definition) : Bool :=
  !definition.pathPrefix.isEmpty && !definition.target.isEmpty

/-- The backend of a definition with the given locator. -/
def Definition.backend (definition : Definition) (url : Url) : Backend :=
  ⟨url, if definition.healthPath.isEmpty then defaultHealthPath else definition.healthPath⟩

/-- The route of a definition whose locator and methods are known. -/
def Definition.route (definition : Definition) (defaultTimeout : Duration) (url : Url)
    (methods : List String) : Route :=
  let pathPrefix := normalizePrefix definition.pathPrefix
  { name := if definition.name.isEmpty then pathPrefix else definition.name
    pathPrefix
    stripPrefix := definition.stripPrefix
    replacement := definition.replacement
    requireAuth := definition.requireAuth
    strategy := .parse definition.authStrategy
    methods
    timeout := (definition.timeoutSeconds.map Duration.ofSeconds).getD defaultTimeout
    target := url }

/-- The shadowing of a definition by the routes before it, if there is one. -/
def shadowingOf (routes : List Route) (definition : Definition) : Option Shadowing :=
  let pathPrefix := normalizePrefix definition.pathPrefix
  (routes.find? fun route => route.pathPrefix == pathPrefix).map fun existing =>
    ⟨definition.name, pathPrefix, existing.name⟩

/-- Add a usable definition to the draft. -/
def Draft.add (defaultTimeout : Duration) (draft : Draft) (definition : Definition) :
    Except BuildFailure Draft :=
  match Url.parse definition.target with
  | .error error =>
    .error ⟨.config ("invalid upstream for prefix " ++ definition.pathPrefix ++ ": " ++
      error.message), draft.shadowings⟩
  | .ok url =>
    let shadowings := draft.shadowings ++ (shadowingOf draft.routes definition).toList
    match methodsOf definition.methods with
    | .error text =>
      .error ⟨.config ("invalid method " ++ Text.quoted text ++ " for prefix " ++
        normalizePrefix definition.pathPrefix), shadowings⟩
    | .ok methods =>
      .ok {
        routes := draft.routes ++ [definition.route defaultTimeout url methods]
        backends := insertBackend (definition.backend url) draft.backends
        shadowings }

namespace Table

/-- A draft of all usable definitions. -/
def draft (definitions : List Definition) (defaultTimeout : Duration) :
    Except BuildFailure Draft :=
  (definitions.filter Definition.isUsable).foldlM (Draft.add defaultTimeout) ⟨[], [], []⟩

/-- Longest prefix first; routes of equal length keep their order. -/
def sortRoutes (routes : List Route) : List Route :=
  routes.mergeSort fun a b => b.pathPrefix.utf8ByteSize ≤ a.pathPrefix.utf8ByteSize

/-- The table of a list of definitions, with the shadowings noticed on the way. -/
def build (definitions : List Definition) (defaultTimeout : Duration) :
    Except BuildFailure (Table × List Shadowing) :=
  (draft definitions defaultTimeout).map fun draft =>
    (⟨sortRoutes draft.routes, draft.backends⟩, draft.shadowings)

/-- The first route that covers a path. -/
def match? (table : Table) (path : String) : Option Route :=
  table.routes.find? fun route => route.covers path

def isEmpty (table : Table) : Bool := table.routes.isEmpty

/-- The backend of a key. -/
def backend? (table : Table) (key : String) : Option Backend :=
  table.backends.find? fun backend => backend.key == key

end Table

end ApiGateway.Routing
