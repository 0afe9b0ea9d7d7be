import HelixGateway.CommandLine.Help
import HelixGateway.CommandLine.Parser
import HelixGateway.Definitions
import HelixGateway.Fault
import HelixGateway.Json.Canonical
import HelixGateway.Json.Writer
import HelixGateway.Query.Listing

/-!
# The command line

A command prints a schema or the endpoints of queries, or it launches a server and says where. What it comes to is what it
prints, how it ends, and the server that it launches.
-/

namespace HelixGateway.CommandLine

/-- A server that is launched. -/
structure Launch where
  config : Config
  host : String
  port : Int
  verbosity : Verbosity

/-- How a command ends: by itself, before it has begun, or by a failure that it has no words for. -/
inductive Ending where
  | returned (code : Nat)
  | stopped (code : Nat)
  | misconfigured (e : ConfigError)
  | broken (f : Fault)
  deriving DecidableEq, Repr

/-- What a command comes to. -/
structure Outcome where
  ending : Ending
  output : String := ""
  launched : Option Launch := none

/-! ## Stops -/

namespace Stop

/-- Only misuse is a failure. -/
def code : Stop → Nat
  | .misuse => 2
  | _ => 0

def output : Stop → String
  | .help scope => CommandLine.help scope
  | .version => versionText
  | .misuse => ""

end Stop

/-! ## Servers -/

/-- The first lines of a server: where it takes schema and queries from. -/
def banner (c : Config) : List String :=
  let endpoint := c.helixUrl ++ "/introspect"
  ("Starting server in " ++ c.source.text ++ " mode") ::
    match c.source with
    | .localDatabase => ["Using local HelixDB introspect endpoint: " ++ endpoint]
    | .localFiles => ["Reading from " ++ c.settings.schemaPath ++ " and " ++ c.settings.queriesPath]
    | .cloud =>
      ["Using cloud HelixDB endpoint: " ++ endpoint,
        if c.apiKey.isSome then "Authentication: Using API key from HELIX_API_KEY environment variable"
        else "Authentication: No API key found, connecting without authentication"]

/-- The server that is asked for. An empty host and the port zero are none. -/
def ServeRequest.launch (r : ServeRequest) (config : Config) : Launch :=
  ⟨config, (r.host.filter (· ≠ "")).getD config.settings.host, (Config.givenPort r.listenPort).getD config.settings.port,
    r.verbosity⟩

/-- Text of lines. -/
def ofLines (ls : List String) : String := String.join (ls.map (· ++ "\n"))

/-- Launches a server. The address of the cloud is missed before the settings are looked at. -/
def serve (environment : Entries String) (disk : Disk) (r : ServeRequest) : Outcome :=
  if r.source = .cloud ∧ (r.cloudUrl.getD "") = "" then
    { ending := .returned 1
      output := ofLines ["Error: " ++ ConfigError.urlRequired.message, "Usage: " ++ programName ++ " cloud <cloud_url>"] }
  else
    match Config.load environment disk r.source.text r.cloudUrl r.databasePort with
    | .error e => { ending := .misconfigured e }
    | .ok config =>
      let launch := r.launch config
      { ending := .returned 0
        output := ofLines (banner config ++ ["Server running on http://" ++ launch.host ++ ":" ++ toString launch.port])
        launched := some launch }

/-! ## Printing -/

/-- Prints what is loaded from a file, its keys in canonical order. -/
def printLoaded (v : Loaded Json) : Outcome :=
  match v with
  | .error f => { ending := .broken f }
  | .ok (.error e) => { ending := .returned 1, output := ofLines ["Error: " ++ e.message] }
  | .ok (.ok v) =>
    match v.canonicalize with
    | .error e => { ending := .broken (.tooManyDigits e) }
    | .ok v => { ending := .returned 0, output := ofLines [v.indented] }

/-- Does what is asked for. -/
def perform (environment : Entries String) (disk : Disk) : Request → Outcome
  | .serve r => serve environment disk r
  | .printSchema path => printLoaded (Loaded.map Schema.toJson (disk.loadSchema path))
  | .printEndpoints path => printLoaded (Loaded.map Query.listing (disk.loadQueries path))

/-- Runs a command line. -/
def run (environment : Entries String) (disk : Disk) (argv : List String) : Outcome :=
  match parse argv with
  | .error s => { ending := .stopped s.code, output := s.output }
  | .ok r => perform environment disk r

end HelixGateway.CommandLine
