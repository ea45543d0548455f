import ApiGateway.Text.Chars

/-!
# Canonical forms of paths

`normalizePrefix` brings the prefix of a route into its canonical form: a leading
slash, and no trailing slash unless it is the root. `cleanPath` gives a path a
leading slash and leaves no two slashes in a row.
-/

namespace ApiGateway.Routing

/-- A text with a slash in front if it has none. -/
def rooted (text : List Char) : List Char :=
  match text with
  | '/' :: rest => '/' :: rest
  | rest => '/' :: rest

/-- A leading slash, no trailing slashes; the root stays a single slash. -/
def normalizePrefixChars (text : List Char) : List Char :=
  match Text.trimEndWith (· = '/') (rooted text) with
  | [] => ['/']
  | trimmed => trimmed

/-- The canonical prefix of a route. -/
def normalizePrefix (text : String) : String :=
  String.ofList (normalizePrefixChars text.toList)

/-- Drop every slash that follows a slash. -/
def collapseSlashes (afterSlash : Bool) : List Char → List Char
  | [] => []
  | c :: rest =>
    if c = '/' && afterSlash then collapseSlashes true rest
    else c :: collapseSlashes (c = '/') rest

/-- A leading slash and no two slashes in a row. -/
def cleanPathChars (text : List Char) : List Char :=
  '/' :: collapseSlashes true text

/-- The cleaned form of a path. -/
def cleanPath (text : String) : String :=
  String.ofList (cleanPathChars text.toList)

/-- The non-empty pieces of a path between its slashes. -/
def segments (text : List Char) : List (List Char) :=
  (Text.splitOn '/' text).filter fun piece => !piece.isEmpty

end ApiGateway.Routing
