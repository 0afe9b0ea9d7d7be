import HelixGateway.Disk
import HelixGateway.Json.Reader
import HelixGateway.Settings.EnvFile
import HelixGateway.Validation

/-!
# Settings

The settings of a process come from its environment and from the file `.env` in the working directory; the environment
counts first. What neither sets has a default.

Main statement: `fileVariables_empty`.
-/

namespace HelixGateway

/-- The settings of a process. -/
structure Settings where
  apiKey : Option String
  helixHost : String
  helixPort : Int
  schemaPath : String
  queriesPath : String
  host : String
  port : Int
  origins : List String
  deriving DecidableEq, Repr

/-- Where a setting may come from. -/
inductive SettingsSource where
  | environment
  | file
  deriving DecidableEq, Repr

def SettingsSource.text : SettingsSource → String
  | .environment => "EnvSettingsSource"
  | .file => "DotEnvSettingsSource"

/-- Why settings cannot be loaded. -/
inductive SettingsError where
  | notJson (field : String) (source : SettingsSource)
  | undecodable (e : Text.DecodeError)
  | invalid (issues : List Issue)
  deriving DecidableEq, Repr

def SettingsError.message : SettingsError → String
  | .notJson field source =>
    "error parsing value for field \"" ++ field ++ "\" from source \"" ++ source.text ++ "\""
  | .undecodable e => e.message
  | .invalid issues => ", ".intercalate (issues.map Issue.text)

namespace Settings

/-- The variable that holds a list of origins, as JSON. -/
def originsKey : String := "CORS_ORIGINS"

/-- A setting as one source has it: a text, or the JSON value of a text. Null counts as not set. -/
def ofSource (source : SettingsSource) (bindings : Entries (Option String)) : Except SettingsError (Entries Json) :=
  let plain := bindings.filterMap fun (k, v) => v.bind fun s => if k = originsKey then none else some (k, Json.str s)
  match (bindings.get? originsKey).join with
  | none => .ok plain
  | some s =>
    match Json.read s.toList with
    | .error _ => .error (.notJson originsKey source)
    | .ok .null => .ok plain
    | .ok v => .ok ((originsKey, v) :: plain)

/-- An API key, unless it is blank. -/
def usableKey (key : String) : Option String := if Text.isBlankText key.toList then none else some key

/-- Checks settings and fills in the defaults. -/
def check (values : Entries Json) : Checked Settings :=
  let text (k : String) (absent : String) : Checked String := Json.optional Json.checkText values [k] absent
  let integer (k : String) (absent : Int) : Checked Int := Json.optional Json.checkInteger values [k] absent
  ((Json.optional (Json.nullable Json.checkText) values ["HELIX_API_KEY"] none).both
    ((text "DOCKER_HOST_INTERNAL" "localhost").both
      ((integer "HELIX_PORT" 6969).both
        ((text "SCHEMA_FILE_PATH" "helixdb-cfg/schema.hx").both
          ((text "QUERIES_FILE_PATH" "helixdb-cfg/queries.hx").both
            ((text "HOST" "0.0.0.0").both
              ((integer "PORT" 8080).both
                (Json.optional (Json.checkList Json.checkText) values [originsKey] ["*"])))))))).map
    fun (key, helixHost, helixPort, schemaPath, queriesPath, host, port, origins) =>
      ⟨key.bind usableKey, helixHost, helixPort, schemaPath, queriesPath, host, port, origins⟩

/-- The name of the file of variables. -/
def fileName : String := ".env"

/-- The text of the file; without a file it is empty. -/
def fileText (disk : Disk) : Except Text.DecodeError (List Char) :=
  match disk.find? (.ofText fileName) with
  | some (.file content) => (Text.Utf8.decode content).map Text.unifyNewlines
  | _ => .ok []

/-- The variables that the file binds. -/
def fileVariables (environment : Entries String) (disk : Disk) : Except SettingsError (Entries (Option String)) :=
  ((fileText disk).map (EnvFile.bindings environment)).mapError .undecodable

/-- An empty disk binds no variables. -/
theorem fileVariables_empty (environment : Entries String) : fileVariables environment (.empty []) = .ok [] := by
  have ht : fileText (.empty []) = .ok [] := rfl
  rw [fileVariables, ht]
  exact congrArg Except.ok (EnvFile.bindings_nil environment)

/-- The names that settings have in an environment. -/
def keys : List String :=
  ["HELIX_API_KEY", "DOCKER_HOST_INTERNAL", "HELIX_PORT", "SCHEMA_FILE_PATH", "QUERIES_FILE_PATH", "HOST", "PORT", originsKey]

/-- The variables of an environment that settings can depend on: those of their own, and those that the file refers to. -/
def variablesInUse (disk : Disk) : List String :=
  match fileText disk with
  | .ok s => (keys ++ EnvFile.references s).eraseDups
  | .error _ => keys

/-- Loads the settings of a process with an environment. -/
def load (environment : Entries String) (disk : Disk) : Except SettingsError Settings :=
  match fileVariables environment disk with
  | .error e => .error e
  | .ok bindings =>
    match ofSource .environment (environment.map fun e => (e.1, some e.2)) with
    | .error e => .error e
    | .ok first =>
      match ofSource .file bindings with
      | .error e => .error e
      | .ok second => (check (first ++ second)).mapError .invalid

end Settings

end HelixGateway
