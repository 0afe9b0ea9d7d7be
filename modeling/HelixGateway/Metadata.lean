import HelixGateway.Client
import HelixGateway.Config
import HelixGateway.Definitions

/-!
# Metadata

The schema, the queries and the types of their parameters come from local files or from a database, as the data source
says. They are read afresh each time. What cannot be read is logged and counts as empty: no schema, no queries, no types.
-/

namespace HelixGateway

/-- Where metadata is read from. -/
structure Metadata where
  source : DataSource
  client : Client
  disk : Disk
  schemaPath : String
  queriesPath : String

namespace Metadata

/-- A value that was read, or the one for what could not be read, with a warning that says why. -/
def orWarn {ε α : Type} (outcome : Except ε α) (warning : ε → String) (absent : α) : Session α :=
  match outcome with
  | .ok x => pure x
  | .error e => do
    Session.log .warning (warning e)
    pure absent

/-- The schema. -/
def schema (m : Metadata) : Session Schema :=
  if m.source.isRemote then do
    let answer ← m.client.introspect
    orWarn (answer.map (·.schema)) (fun e => "Error fetching schema from " ++ m.client.baseUrl ++ ": " ++ e.message) .empty
  else do
    let outcome ← Session.ofExcept (m.disk.loadSchema m.schemaPath)
    orWarn outcome (fun e => "Error parsing schema: " ++ e.message) .empty

/-- The queries. -/
def queries (m : Metadata) : Session (List Query) :=
  if m.source.isRemote then do
    let answer ← m.client.introspect
    orWarn (answer.map (·.served)) (fun e => "Error fetching endpoints from " ++ m.client.baseUrl ++ ": " ++ e.message) []
  else do
    let outcome ← Session.ofExcept (m.disk.loadQueries m.queriesPath)
    orWarn outcome (fun e => "Error getting endpoints: " ++ e.message) []

/-- The types of the parameters of a query. -/
def catalogue (m : Metadata) (name : String) : Session (OrdMap String) :=
  if m.source.isRemote then do
    let answer ← m.client.introspect
    orWarn (answer.map (·.catalogue name))
      (fun e => "Could not fetch introspect data for parameter types: " ++ e.message) .empty
  else do
    let outcome ← Session.ofExcept (m.disk.loadQueries m.queriesPath)
    orWarn (outcome.map fun qs => Query.catalogue qs name)
      (fun e => "Could not read query definitions for parameter types: " ++ e.message) .empty

end Metadata

end HelixGateway
