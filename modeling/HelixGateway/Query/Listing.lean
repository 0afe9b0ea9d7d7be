import HelixGateway.Json.Value
import HelixGateway.Query

/-!
# Listing endpoints

The endpoints of queries as a JSON list, for those who look for what is served and where.
-/

namespace HelixGateway

def Parameter.toJson (p : Parameter) : Json := .obj [("name", .str p.name), ("param_type", .str p.type)]

namespace Query

/-- The endpoint of a query. -/
def toJson (q : Query) : Json :=
  .obj [("path", .str q.path), ("method", .str q.method.text), ("query_name", .str q.name),
    ("parameters", .arr (q.parameters.map (·.toJson)))]

/-- The endpoints of queries, in order. -/
def listing (queries : List Query) : Json := .arr (queries.map toJson)

end Query

end HelixGateway
