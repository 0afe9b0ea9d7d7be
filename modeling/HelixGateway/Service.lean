import HelixGateway.Json.Canonical
import HelixGateway.Metadata
import HelixGateway.Parameters
import HelixGateway.Passthrough
import HelixGateway.Query.Listing
import HelixGateway.Service.Cors
import HelixGateway.Service.Route

/-!
# The service

The service answers requests over HTTP: schema, validation and endpoints from the metadata, queries by running them on the
database, and four inspection endpoints by passing them on. What goes wrong at the database becomes an answer with an
`error` and an empty payload. Every JSON answer has its keys in canonical order, and numbers that are not finite are null.
-/

namespace HelixGateway

/-- A service: its configuration, and the files it finds. -/
structure Service where
  config : Config
  disk : Disk

namespace Service

def client (s : Service) : Client := ⟨s.config.helixUrl, s.config.apiKey⟩

def metadata (s : Service) : Metadata :=
  ⟨s.config.source, s.client, s.disk, s.config.settings.schemaPath, s.config.settings.queriesPath⟩

/-- What the service writes to the log when it starts. -/
def start (s : Service) : Session Unit :=
  Session.log .info ("Helixboard serving " ++ s.config.source.text ++ " metadata from " ++ s.config.helixUrl)

/-- The response to a request that ends with a fault. -/
def failed : WebResponse := ⟨500, [], .text "Internal Server Error"⟩

/-- A JSON answer with a status. -/
def withStatus (status : Nat) (v : Json) : WebResponse := ⟨status, [], .json v⟩

/-- A JSON answer with its keys in canonical order. -/
def answer (v : Json) : Session WebResponse :=
  match v.canonicalize with
  | .ok v => pure (withStatus 200 v.finiteOrNull)
  | .error e => Session.fault (.tooManyDigits e)

/-- The answer that says what is wrong with a request. -/
def detail (v : Json) : Json := .obj [("detail", v)]

/-! ## Metadata -/

def answerSchema (s : Service) : Session WebResponse := do
  let schema ← s.metadata.schema
  answer schema.toJson

def answerValidation (s : Service) : Session WebResponse := do
  let schema ← s.metadata.schema
  answer (.obj [("dangling_references", .arr (schema.dangling.map (·.toJson)))])

def answerEndpoints (s : Service) : Session WebResponse := do
  let queries ← s.metadata.queries
  answer (Query.listing queries)

/-! ## Queries -/

/-- The blanks that an empty body may consist of. -/
def isBodyBlank (b : UInt8) : Bool := (9 ≤ b && b ≤ 13) || b == 32

/-- The JSON value in the body, if the body holds one. All of it is sent on, which is a fault if that cannot be done. -/
def readBody (r : WebRequest) : Session (Except Fault (Option Json)) :=
  if r.body.all isBodyBlank then pure (.ok none)
  else
    match Json.readBytes r.body with
    | .ok v => pure ((Client.sendable v).map some)
    | .error _ => do
      Session.log .warning ("Ignoring non-JSON request body for " ++ r.loggedPath)
      pure (.ok none)

/-- What the database answered to a query, or what went wrong. -/
def queryResult (name : String) : Except ServiceError Json → Json
  | .ok v => v
  | .error e => .obj [("error", .str ("Failed to execute query: " ++ e.message)), ("query", .str name)]

/-- Runs a query on the database. -/
def runQuery (s : Service) (name : String) (parameters : Entries Json) : Session WebResponse := do
  let outcome ← s.client.query name (.obj parameters)
  match outcome with
  | .ok _ => pure ()
  | .error e => Session.log .error ("Error executing query '" ++ name ++ "': " ++ e.message)
  answer (queryResult name outcome)

/-- The name of the query that a single segment asks for: with a hyphen in it, it may be the slug of one without path
parameters. -/
def flatName (s : Service) (segment : String) : Session String :=
  if segment.toList.contains '-' then do
    let queries ← s.metadata.queries
    pure (((Query.resolve queries segment []).map fun found => found.1.name).getD segment)
  else pure segment

/-- Runs the query that a single segment asks for. -/
def answerQuery (s : Service) (r : WebRequest) (segment : String) : Session WebResponse := do
  let body ← readBody r
  let name ← s.flatName segment
  let catalogue ← s.metadata.catalogue name
  let parameters ← Session.ofExcept (body.bind fun body => Parameters.merge r.parameters body catalogue)
  s.runQuery name parameters

/-- The segments of the rest of a path, empty ones left out. -/
def segments (rest : List Char) : List String :=
  ((Text.pieces (· == '/') rest).filter (!·.isEmpty)).map String.ofList

/-- The answer when no query fits a derived path. -/
def noQuery (slug rest : List Char) : WebResponse :=
  withStatus 404 (detail (.obj [("error", .str (String.ofList
    ("No query matches ".toList ++ (Route.queryRoot ++ (slug ++ '/' :: rest)))))]))

/-- Runs the query that a derived path fits. Its path parameters count before those of the query string. -/
def answerDerived (s : Service) (r : WebRequest) (slug rest : List Char) : Session WebResponse := do
  let queries ← s.metadata.queries
  match Query.resolve queries (String.ofList slug) (segments rest) with
  | none => pure (noQuery slug rest)
  | some (q, values) =>
    let body ← readBody r
    let parameters ← Session.ofExcept (body.bind fun body =>
      Parameters.merge (r.parameters.insertAll values) body (Query.catalogue queries q.name))
    s.runQuery q.name parameters

/-! ## Inspection -/

/-- What the database answered to an inspection, or what went wrong beside an empty payload. -/
def inspectionResult (fallback : Entries Json) : Except ServiceError Json → Json
  | .ok v => v
  | .error e => .obj (("error", .str ("Request failed: " ++ e.message)) :: fallback)

/-- Reads an inspection endpoint at an address of it. -/
def inspectAt (s : Service) (endpoint url : String) (fallback : Entries Json) : Session WebResponse := do
  let outcome ← s.client.get url
  match outcome with
  | .ok _ => pure ()
  | .error e => Session.log .error ("Error with " ++ endpoint ++ " request: " ++ e.message)
  answer (inspectionResult fallback outcome)

/-- Passes an inspection on to the database. -/
def inspect (s : Service) (endpoint : String) (p : Passthrough) (fallback : Entries Json) : Session WebResponse := do
  let url ← Session.ofExcept (p.url endpoint)
  s.inspectAt endpoint url fallback

def emptyGraph : Entries Json := [("data", .obj [("nodes", .arr []), ("edges", .arr []), ("vectors", .arr [])])]

def emptyConnections : Entries Json :=
  ["connected_nodes", "incoming_edges", "outgoing_edges"].map fun k => (k, .obj [("values", .arr [])])

/-- Checks a limit of an inspection, which is no negative number. -/
def checkLimit (v : Json) : Checked (Option Int) :=
  match v.checkInteger with
  | .error e => .error e
  | .ok n => if n < 0 then Checked.fail .tooSmall else .ok (some n)

/-- The parameters of an inspection, each with its value if it has one. -/
def passthrough (limit : Option Int) (extra : Entries (Option String)) : Passthrough :=
  ⟨Passthrough.validLimit limit, none, extra.map fun e => (e.1, (e.2.map Json.str).getD .null)⟩

/-- The limit of an inspection. -/
def limitOf (r : WebRequest) : Checked (Option Int) := Json.optional checkLimit r.parameterFields ["limit"] none

/-- A text that an inspection has to have. -/
def textOf (r : WebRequest) (k : String) : Checked String := Json.required Json.checkText r.parameterFields k

/-- The parameters of the inspection of nodes and edges, a label being optional. -/
def nodesEdgesParameters (r : WebRequest) : Checked Passthrough :=
  ((limitOf r).both (Json.optional (fun v => v.checkText.map some) r.parameterFields ["node_label"] none)).map
    fun (limit, label) => passthrough limit [("node_label", label)]

/-- The parameters of the inspection of the nodes with a label. -/
def nodesByLabelParameters (r : WebRequest) : Checked Passthrough :=
  ((textOf r "label").both (limitOf r)).map fun (label, limit) => passthrough limit [("label", some label)]

/-- The parameters of an inspection with a single one, which it has to have. -/
def singleParameter (r : WebRequest) (k : String) : Checked Passthrough :=
  (textOf r k).map fun value => passthrough none [(k, some value)]

/-- Passes an inspection on if its parameters pass the checks, and tells what is wrong with them otherwise. -/
def answerInspection (s : Service) (endpoint : String) (parameters : Checked Passthrough) (fallback : Entries Json) :
    Session WebResponse :=
  match parameters with
  | .ok p => s.inspect endpoint p fallback
  | .error issues => pure ⟨422, [], .issues (issues.map (Issue.under (.name "query")))⟩

/-! ## All requests -/

/-- Answers a request for a route. -/
def answerRoute (s : Service) (r : WebRequest) : Route → Session WebResponse
  | .schema => s.answerSchema
  | .validation => s.answerValidation
  | .endpoints => s.answerEndpoints
  | .query name => s.answerQuery r (String.ofList name)
  | .derived slug rest => s.answerDerived r slug rest
  | .nodesEdges => s.answerInspection "nodes-edges" (nodesEdgesParameters r) emptyGraph
  | .nodesByLabel => s.answerInspection "nodes-by-label" (nodesByLabelParameters r) emptyGraph
  | .nodeDetails => s.answerInspection "node-details" (singleParameter r "id") [("data", .obj [])]
  | .nodeConnections => s.answerInspection "node-connections" (singleParameter r "node_id") emptyConnections
  | .health => answer (.obj [("status", .str "ok")])

/-- The answer to a request for a path that fits no route: the path with other slashes at its end, if that fits one. -/
def unrouted (r : WebRequest) : WebResponse :=
  match (Route.otherSlash? r.path).filter fun p => (Route.ofPath? p).isSome with
  | some path => ⟨307, [("location", r.locationAt path)], .text ""⟩
  | none => withStatus 404 (detail (.str "Not Found"))

/-- Answers a request by its path and its method. -/
def dispatch (s : Service) (r : WebRequest) : Session WebResponse :=
  match Route.ofPath? r.path with
  | none => pure (unrouted r)
  | some route =>
    if route.methods.contains r.method then s.answerRoute r route
    else
      pure { withStatus 405 (detail (.str "Method Not Allowed")) with
        headers := [("allow", ", ".intercalate route.methods)] }

/-- The method that a request asks for beforehand, if that is what it does. -/
def askedMethod? (r : WebRequest) : Option String :=
  if r.method = "OPTIONS" then r.header? "access-control-request-method" else none

/-- Answers a request, and tells the origin it names whether it may read the answer. -/
def respond (s : Service) (r : WebRequest) : Session WebResponse :=
  match r.header? "origin" with
  | none => s.dispatch r
  | some origin =>
    match askedMethod? r with
    | some method => pure (Cors.preflight s.config.settings.origins origin method)
    | none => do
      let response ← s.dispatch r
      pure { response with headers := response.headers ++ Cors.headers s.config.settings.origins origin }

end Service

end HelixGateway
