import ApiGateway.Engine.World
import ApiGateway.Metrics.Exposition

/-!
# The gateway's own pages

Three paths are answered by the gateway itself, for `GET` only: the metrics, the
routes with the status of their backends, and the health of all backends. The
answers are read off the present state and change nothing.
-/

namespace ApiGateway.Engine

open Http (Response)

/-- The pages of the gateway. -/
inductive Page where
  | metrics | routes | health
deriving DecidableEq

namespace Page

/-- The page that a request asks for. -/
def ofRequest? (method path : String) : Option Page :=
  if method ≠ "GET" then none
  else if path = "/metrics" then some metrics
  else if path = "/debug/routes" then some routes
  else if path = "/healthz" then some health
  else none

end Page

/-- The document of a backend's status. -/
def statusJson (statuses : Backend.StatusBook) (key : String) : Json :=
  match statuses.get? key with
  | some status => status.toJson
  | none => .null

/-- One object a route, in matching order. -/
def routesJson (engine : Engine) (statuses : Backend.StatusBook) : Json :=
  .array (engine.table.routes.map fun route => .object [
    ("name", .string route.name),
    ("prefix", .string route.pathPrefix),
    ("upstream", .string route.target.text),
    ("require_auth", .bool route.requireAuth),
    ("auth_strategy", .string route.strategy.name),
    ("status", statusJson statuses route.backendKey)])

/-- One object a backend, in the order of their keys. -/
def healthJson (engine : Engine) (statuses : Backend.StatusBook) : Json :=
  .array (engine.table.backends.map fun backend => .object [
    ("upstream", .string backend.url.text),
    ("status", statusJson statuses backend.key)])

/-- Is every backend healthy? -/
def allHealthy (engine : Engine) (statuses : Backend.StatusBook) : Bool :=
  engine.table.backends.all fun backend =>
    match statuses.get? backend.key with
    | some status => status.healthy
    | none => true

/-- The answer of a page. -/
def pageResponse (engine : Engine) (statuses : Backend.StatusBook) (metrics : Metrics) :
    Page → Response
  | .metrics => Response.withContentType 200 Metrics.contentType metrics.exposition
  | .routes => Response.json 200 (routesJson engine statuses)
  | .health =>
    Response.json (if allHealthy engine statuses then 200 else 503) (healthJson engine statuses)

end ApiGateway.Engine
