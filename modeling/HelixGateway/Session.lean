import HelixGateway.Fault

/-!
# Sessions with a database

A session sends requests to a database and writes to the log. What the database answers may depend on all that it was sent
before, and nothing else is assumed of it. A session leaves a trace: the requests and the log records, in order. It ends
with a value, or with a fault that keeps what came before it in the trace.

Main statements: `run_bind_ok`, `run_bind_error`, `run_send`.
-/

namespace HelixGateway

/-- A request to a database: the address as it was resolved and as it is sent, the API key, and the body. -/
structure DatabaseRequest where
  method : String
  resolved : String
  url : Url
  apiKey : Option String
  body : Option String
  deriving DecidableEq, Repr

/-- What comes of a request: a response with its status, or no connection. -/
inductive DatabaseReply where
  | response (status : Nat) (content : Text.Bytes)
  | unreachable (reason : String)
  deriving DecidableEq, Repr

/-- A database, which answers a request in the light of the requests before it. -/
structure Backend where
  reply : List DatabaseRequest → DatabaseRequest → DatabaseReply

inductive LogLevel where
  | info
  | warning
  | error
  deriving DecidableEq, Repr

def LogLevel.text : LogLevel → String
  | .info => "INFO"
  | .warning => "WARNING"
  | .error => "ERROR"

/-- A line of the log. -/
structure LogRecord where
  level : LogLevel
  message : String
  deriving DecidableEq, Repr

/-- What a session has done so far. -/
structure Trace where
  sent : List DatabaseRequest
  logs : List LogRecord
  deriving DecidableEq, Repr

def Trace.empty : Trace := ⟨[], []⟩

/-- A session that ends with a value, or with a fault. -/
def Session (α : Type) : Type := Backend → Trace → Except Fault α × Trace

namespace Session

variable {α β : Type}

instance : Monad Session where
  pure x := fun _ t => (.ok x, t)
  bind s f := fun b t =>
    match s b t with
    | (.ok x, t) => f x b t
    | (.error e, t) => (.error e, t)

/-- Ends a session with a fault. -/
def fault (e : Fault) : Session α := fun _ t => (.error e, t)

/-- Goes on with a value that may be a fault. -/
def ofExcept (x : Except Fault α) : Session α := fun _ t => (x, t)

/-- Sends a request. -/
def send (r : DatabaseRequest) : Session DatabaseReply := fun b t =>
  (.ok (b.reply t.sent r), { t with sent := t.sent ++ [r] })

/-- Writes to the log. -/
def log (level : LogLevel) (message : String) : Session Unit := fun _ t =>
  (.ok (), { t with logs := t.logs ++ [⟨level, message⟩] })

/-- Behind a session that ends with a value, the next one goes on with the value and the trace. -/
theorem run_bind_ok {s : Session α} {f : α → Session β} {b : Backend} {t t' : Trace} {x : α} (h : s b t = (.ok x, t')) :
    (s >>= f) b t = f x b t' := by
  show (match s b t with
    | (.ok x, t) => f x b t
    | (.error e, t) => (.error e, t)) = _
  rw [h]

/-- A fault ends all that comes behind it. -/
theorem run_bind_error {s : Session α} {f : α → Session β} {b : Backend} {t t' : Trace} {e : Fault}
    (h : s b t = (.error e, t')) : (s >>= f) b t = (.error e, t') := by
  show (match s b t with
    | (.ok x, t) => f x b t
    | (.error e, t) => (.error e, t)) = _
  rw [h]

/-- Sending a request adds it to the trace and gives the reply of the database. -/
theorem run_send (r : DatabaseRequest) (b : Backend) (t : Trace) :
    send r b t = (.ok (b.reply t.sent r), { t with sent := t.sent ++ [r] }) := rfl

end Session

end HelixGateway
