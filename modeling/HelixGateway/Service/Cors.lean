import HelixGateway.Service.Message

/-!
# Requests from other origins

A request that names an origin is told whether that origin may read the answer: the origin comes back when it is allowed,
and a star among the allowed origins stands for all. A browser may ask beforehand, on any path, and is answered without the
request being looked at further.
-/

namespace HelixGateway.Cors

/-- Whether an origin may read answers. -/
def isAllowed (origins : List String) (origin : String) : Bool := origins.contains "*" || origins.contains origin

/-- The methods that may be asked for beforehand. -/
def methods : List String := ["DELETE", "GET", "HEAD", "OPTIONS", "PATCH", "POST", "PUT"]

/-- The headers for an origin. -/
def headers (origins : List String) (origin : String) : Entries String :=
  (if isAllowed origins origin then [("access-control-allow-origin", origin)] else []) ++
    [("access-control-allow-credentials", "true")]

/-- The answer to a question asked beforehand. -/
def preflight (origins : List String) (origin method : String) : WebResponse :=
  let refused :=
    (if isAllowed origins origin then [] else ["origin"]) ++ (if methods.contains method then [] else ["method"])
  if refused.isEmpty then ⟨200, headers origins origin, .text "OK"⟩
  else ⟨400, headers origins origin, .text ("Disallowed CORS " ++ ", ".intercalate refused)⟩

end HelixGateway.Cors
