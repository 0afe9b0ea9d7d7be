import HelixGateway.Introspection
import HelixGateway.Json.Reader
import HelixGateway.Json.Writer
import HelixGateway.Session

/-!
# The client of a database

A client sends requests to one database and reads the JSON that comes back. Queries are posted to their names, inspection
endpoints are read, and `introspect` asks the database about itself. A request fails when there is no connection, when the
status is not one of success, or when what comes back is no JSON; redirects are not followed. A value that comes back with a
text that is not well formed can be sent to nobody, and whoever asked for it sees a fault.

Main statements: `resolve_of_absolute`, `resolve_of_relative`.
-/

namespace HelixGateway

/-- Why a request failed. -/
inductive ServiceFailure where
  | unreachable (reason : String)
  | status (code : Nat) (text : String)
  | notJson (e : Json.ReadError)
  deriving DecidableEq, Repr

/-- A failed request, with the address as it was resolved. -/
structure ServiceError where
  url : String
  failure : ServiceFailure
  deriving DecidableEq, Repr

/-- The status of a failed request, zero if it is not for its status that it failed. -/
def ServiceError.status (e : ServiceError) : Nat :=
  match e.failure with
  | .status code _ => code
  | _ => 0

def ServiceError.message (e : ServiceError) : String :=
  match e.failure with
  | .status code text => "Server returned error: " ++ toString code ++ " - " ++ (if text = "" then "Unknown error" else text)
  | .unreachable reason => "HTTP request failed: " ++ reason
  | .notJson r => "HTTP request failed: Invalid JSON response: " ++ r.message

/-- Why a database could not be asked about itself. -/
inductive IntrospectionFailure where
  | service (e : ServiceError)
  | invalid (issues : List Issue)
  deriving DecidableEq, Repr

/-- A failed introspection. -/
structure IntrospectionError where
  url : String
  failure : IntrospectionFailure
  deriving DecidableEq, Repr

def IntrospectionError.message (e : IntrospectionError) : String :=
  "Failed to fetch introspect data from " ++ e.url ++ ": " ++
    match e.failure with
    | .service s => s.message
    | .invalid _ => "Invalid introspect payload: ..."

/-- A client: the address of its database and the API key. -/
structure Client where
  baseUrl : String
  apiKey : Option String
  deriving DecidableEq, Repr

namespace Client

/-- Whether an endpoint is an address of its own. -/
def isFullUrl (endpoint : String) : Bool :=
  "http://".toList.isPrefixOf endpoint.toList || "https://".toList.isPrefixOf endpoint.toList

/-- The address of an endpoint: one slash joins it to that of the database, unless it is an address of its own. -/
def resolve (c : Client) (endpoint : String) : String :=
  if isFullUrl endpoint then endpoint
  else
    String.ofList (Text.dropEndWhile (· == '/') c.baseUrl.toList) ++ "/" ++
      String.ofList (endpoint.toList.dropWhile (· == '/'))

/-- The key that requests carry; an empty one is none. -/
def sentKey (c : Client) : Option String := c.apiKey.filter (· ≠ "")

/-- Whether the key that requests carry can stand in a header. -/
def hasPlainKey (c : Client) : Bool := c.sentKey.all fun key => key.toList.all Text.isAscii

/-- The text of a body. Null is none, and a number that is not finite has no text. -/
def encodeBody : Json → Except Fault (Option String)
  | .null => .ok none
  | v => if v.isFinite then .ok (some v.compact) else .error .notJson

/-- A value that can be sent on. -/
def sendable (v : Json.Shown Json) : Except Fault Json :=
  if v.isWellFormed then .ok v.value else .error (.notAscii .surrogate)

/-- What a reply means. -/
def readReply (url : String) : DatabaseReply → Except Fault (Except ServiceError Json)
  | .unreachable reason => .ok (.error ⟨url, .unreachable reason⟩)
  | .response status content =>
    if 200 ≤ status ∧ status < 300 then
      match Json.readBytes content with
      | .error e => .ok (.error ⟨url, .notJson e⟩)
      | .ok v => (sendable v).map .ok
    else .ok (.error ⟨url, .status status (String.ofList (Text.Utf8.repair content))⟩)

/-- Checks that the host that a request names can be read and stand in a header. -/
def checkHost (url : Url) : Except Fault Unit :=
  match HostName.checkReadable url.host with
  | .error e => .error (.badHost e)
  | .ok () => if url.location.all Text.isAscii then .ok () else .error (.notAscii (.header url.location))

/-- Puts a request together. -/
def prepare (c : Client) (method endpoint : String) (body : Json) : Except Fault DatabaseRequest :=
  match Url.parse (c.resolve endpoint).toList with
  | .error e => .error (.badUrl e)
  | .ok url =>
    if c.hasPlainKey then
      match encodeBody body with
      | .error e => .error e
      | .ok body =>
        (checkHost url.target).map fun _ =>
          ⟨String.ofList (method.toList.flatMap Text.upper), c.resolve endpoint, url.target, c.sentKey, body⟩
    else .error (.notAscii (.header (c.sentKey.getD "").toList))

/-- What a reply to a request means. A response to a relative address is refused. -/
def accept (r : DatabaseRequest) (reply : DatabaseReply) : Except Fault (Except ServiceError Json) :=
  match reply with
  | .unreachable _ => readReply r.resolved reply
  | .response .. => if r.url.isAbsolute then readReply r.resolved reply else .error (.relativeUrl r.url.text)

/-- Sends a request and reads the answer. -/
def request (c : Client) (method endpoint : String) (body : Json) : Session (Except ServiceError Json) := do
  let r ← Session.ofExcept (c.prepare method endpoint body)
  let reply ← Session.send r
  Session.ofExcept (accept r reply)

/-- Reads an endpoint. -/
def get (c : Client) (endpoint : String) : Session (Except ServiceError Json) := c.request "GET" endpoint .null

/-- Executes a query. -/
def query (c : Client) (name : String) (parameters : Json) : Session (Except ServiceError Json) :=
  c.request "POST" name parameters

/-- What an answer to the question about itself means. -/
def readIntrospection (url : String) : Except ServiceError Json → Except IntrospectionError Introspection
  | .error e => .error ⟨url, .service e⟩
  | .ok v => v.checkIntrospection.mapError fun issues => ⟨url, .invalid issues⟩

/-- Asks the database about itself. -/
def introspect (c : Client) : Session (Except IntrospectionError Introspection) := do
  let url := c.resolve "introspect"
  let answer ← c.get url
  pure (readIntrospection url answer)

/-- A full address is asked for as it is, wherever the database is. -/
theorem resolve_of_absolute {c : Client} {endpoint : String} (h : isFullUrl endpoint = true) :
    c.resolve endpoint = endpoint := by
  rw [resolve, if_pos h]

/-- An endpoint that is no address of its own lies below the address of the database. -/
theorem resolve_of_relative {c : Client} {endpoint : String} (h : isFullUrl endpoint = false) :
    c.resolve endpoint = String.ofList (Text.dropEndWhile (· == '/') c.baseUrl.toList) ++ "/" ++
      String.ofList (endpoint.toList.dropWhile (· == '/')) := by
  rw [resolve, if_neg (by simp [h])]

end Client

end HelixGateway
