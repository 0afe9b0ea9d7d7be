import HelixGateway.Settings
import HelixGateway.Text.Quoted

/-!
# The configuration of a server

A server takes its schema and queries from a local database, from local files, or from a database in the cloud. The cloud
needs an address of its own and is the only one that is sent the API key.

Main statements: `apiKey_eq_none`, `helixUrl_local`.
-/

namespace HelixGateway

/-- Where schema and queries come from. -/
inductive DataSource where
  | localDatabase
  | localFiles
  | cloud
  deriving DecidableEq, Repr

namespace DataSource

def text : DataSource → String
  | .localDatabase => "local-introspect"
  | .localFiles => "local-file"
  | .cloud => "cloud"

def all : List DataSource := [.localDatabase, .localFiles, .cloud]

def ofText? (s : String) : Option DataSource := all.find? (·.text = s)

/-- Whether a database is asked. -/
def isRemote (d : DataSource) : Bool := d ≠ .localFiles

end DataSource

/-- A configuration. The cloud is never without an address. -/
structure Config where
  source : DataSource
  settings : Settings
  cloudUrl : Option String
  helixPort : Option Int
  hasUrl : source = .cloud → (cloudUrl.getD "") ≠ ""

/-- Why there is no configuration. -/
inductive ConfigError where
  | settings (e : SettingsError)
  | unknownSource (text : String)
  | urlRequired
  deriving DecidableEq, Repr

def ConfigError.message : ConfigError → String
  | .settings e => e.message
  | .unknownSource text => String.ofList (Text.quoted text.toList) ++ " is not a valid DataSource"
  | .urlRequired => "Cloud URL is required for cloud mode"

namespace Config

/-- Puts a configuration together. -/
def make (source : DataSource) (settings : Settings) (cloudUrl : Option String) (helixPort : Option Int) :
    Except ConfigError Config :=
  if h : source = .cloud → (cloudUrl.getD "") ≠ "" then .ok ⟨source, settings, cloudUrl, helixPort, h⟩
  else .error .urlRequired

/-- Loads the settings and puts a configuration together. -/
def load (environment : Entries String) (disk : Disk) (source : String) (cloudUrl : Option String)
    (helixPort : Option Int) : Except ConfigError Config :=
  match Settings.load environment disk with
  | .error e => .error (.settings e)
  | .ok settings =>
    match DataSource.ofText? source with
    | none => .error (.unknownSource source)
    | some source => make source settings cloudUrl helixPort

/-- A port that is given; zero is none. -/
def givenPort (port : Option Int) : Option Int := port.filter (· ≠ 0)

/-- The address of the database, without slashes at its end if it is in the cloud. -/
def helixUrl (c : Config) : String :=
  match c.source with
  | .cloud => String.ofList (Text.dropEndWhile (· == '/') (c.cloudUrl.getD "").toList)
  | _ => "http://" ++ c.settings.helixHost ++ ":" ++ toString ((givenPort c.helixPort).getD c.settings.helixPort)

/-- The key that the database is sent. -/
def apiKey (c : Config) : Option String := if c.source = .cloud then c.settings.apiKey else none

/-- Only in front of the cloud is there a key. -/
theorem apiKey_eq_none {c : Config} (h : c.source ≠ .cloud) : c.apiKey = none := by
  rw [apiKey, if_neg h]

/-- A local database is at the port that is given, or else at the one of the settings. -/
theorem helixUrl_local {c : Config} (h : c.source ≠ .cloud) :
    c.helixUrl = "http://" ++ c.settings.helixHost ++ ":" ++
      toString ((givenPort c.helixPort).getD c.settings.helixPort) := by
  rw [helixUrl]
  split
  · rename_i hc
    exact absurd hc h
  · rfl

end Config

end HelixGateway
