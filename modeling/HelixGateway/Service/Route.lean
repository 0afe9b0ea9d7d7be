import HelixGateway.Query
import HelixGateway.Text.Split

/-!
# Routes

The paths that the service answers. A path fits a route also with one line feed behind it. Queries are served by name, and
by their derived paths with further segments.

Main statements: `ofQueryPath?_name`, `ofQueryPath?_derived`.
-/

namespace HelixGateway

/-- What a path asks for. -/
inductive Route where
  | health
  | schema
  | validation
  | endpoints
  | query (name : List Char)
  | derived (slug rest : List Char)
  | nodesEdges
  | nodesByLabel
  | nodeDetails
  | nodeConnections
  deriving DecidableEq, Repr

namespace Route

/-- The routes with one path each. -/
def fixed : List (String × Route) := [
  ("/api/schema", .schema), ("/api/schema/validate", .validation), ("/api/endpoints", .endpoints),
  ("/nodes-edges", .nodesEdges), ("/nodes-by-label", .nodesByLabel), ("/node-details", .nodeDetails),
  ("/node-connections", .nodeConnections), ("/health", .health)]

/-- What stands before the paths of queries. -/
def queryRoot : List Char := (Query.pathRoot ++ "/").toList

/-- The route of a path below that of queries: a name alone, or a name and further segments, which hold no line feed but
perhaps one at their end. -/
def ofQueryPath? (s : List Char) : Option Route :=
  match Text.cut ['/'] s with
  | none => if s.isEmpty then none else some (.query s)
  | some (slug, rest) =>
    if slug.isEmpty || (Text.dropFinalNewline rest).contains '\n' then none else some (.derived slug (Text.dropFinalNewline rest))

/-- The route that a path fits. -/
def ofPath? (path : List Char) : Option Route :=
  match fixed.find? fun r => r.1.toList = Text.dropFinalNewline path with
  | some r => some r.2
  | none => (Text.afterPrefix? queryRoot path).bind ofQueryPath?

/-- The methods of a route, in the order of their names. -/
def methods : Route → List String
  | .query _ | .derived _ _ => ["DELETE", "GET", "POST", "PUT"]
  | _ => ["GET"]

/-- The path that differs from this one in the slashes at its end, unless this is the root. -/
def otherSlash? (path : List Char) : Option (List Char) :=
  if path = ['/'] then none
  else if path.getLast? = some '/' then some (Text.dropEndWhile (· == '/') path)
  else some (path ++ ['/'])

/-- A name without slashes is the route of a query. -/
theorem ofQueryPath?_name {name : List Char} (hn : name ≠ []) (hs : '/' ∉ name) :
    ofQueryPath? name = some (.query name) := by
  rw [ofQueryPath?, Text.cut_eq_none_of_not_mem hs]
  simp [hn]

/-- A slug with segments behind it is a derived route. -/
theorem ofQueryPath?_derived {slug rest : List Char} (hn : slug ≠ []) (hs : '/' ∉ slug) (hr : '\n' ∉ rest) :
    ofQueryPath? (slug ++ '/' :: rest) = some (.derived slug rest) := by
  rw [ofQueryPath?, Text.cut_append_of_not_mem hs]
  simp [Text.dropFinalNewline_of_not_mem hr, hn, hr]

end Route

end HelixGateway
