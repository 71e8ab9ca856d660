import BrowserTelemetry.Browser.Error
import BrowserTelemetry.FilePath
import BrowserTelemetry.Telemetry.Format
import BrowserTelemetry.Text.Blank

/-!
# The configuration of a browser

Every field has a default, and a configuration file needs to give only those that differ. The
default place of the database depends on the environment.
-/

namespace BrowserTelemetry

set_option autoImplicit false

/-- The variables of the environment; one that is not set, or no text, is none. -/
structure Environment where
  dataHome : Option String
  home : Option String
  deriving DecidableEq, Repr, Inhabited

/-- A configuration. -/
structure Config where
  /-- The path of the database. -/
  databasePath : String
  telemetryEnabled : Bool
  logLevel : String
  searchProviders : List SearchProvider
  deriving DecidableEq, Repr, Inhabited

/-- Where applications keep their data. -/
def Environment.localData (env : Environment) : Option String :=
  env.dataHome.or (env.home.map fun h => FilePath.join h ".local/share")

/-- Where the browser keeps its data. -/
def Environment.dataDirectory (env : Environment) : String :=
  match env.localData with
  | some d => FilePath.join d "Kestrel"
  | none => ".kestrel"

/-- What stands under a path that a file is to be loaded from. -/
inductive FileContent where
  | missing
  | directory
  | bytes (b : ByteArray)

/-- The text of a file. -/
def FileContent.text : FileContent → Except FileError String
  | .missing => .error .notFound
  | .directory => .error .isDirectory
  | .bytes b =>
    match String.fromUTF8? b with
    | some s => .ok s
    | none => .error .notText

namespace Config

/-- The configuration with its data in a directory, and all else at its default. -/
def inDirectory (dir : String) : Config :=
  ⟨FilePath.join dir "kestrel.db", true, "info", SearchProvider.defaults⟩

/-- The default configuration. -/
def standard (env : Environment) : Config := inDirectory env.dataDirectory

/-- The fields, with the defaults of an environment. -/
def fields (env : Environment) :
    Fields (String × Bool × String × List SearchProvider × Unit)
      (Option String × Option Bool × Option String × Option (List SearchProvider) × Unit) :=
  let d := standard env
  .field "database_path" Codec.string (some d.databasePath) <|
    .field "telemetry_enabled" Codec.bool (some d.telemetryEnabled) <|
    .field "log_level" Codec.string (some d.logLevel) <|
    .field "search_providers" (Codec.list Codec.searchProvider) (some d.searchProviders) .none

/-- The values of the fields. -/
def parts (c : Config) : String × Bool × String × List SearchProvider × Unit :=
  (c.databasePath, c.telemetryEnabled, c.logLevel, c.searchProviders, ())

/-- The configuration with the given values. -/
def ofParts : String × Bool × String × List SearchProvider × Unit → Config
  | (databasePath, telemetryEnabled, logLevel, searchProviders, _) =>
    ⟨databasePath, telemetryEnabled, logLevel, searchProviders⟩

/-- The JSON form. What is missing takes the default of the environment, also in an array. -/
def codec (env : Environment) : Codec Config where
  encode c := .object ((fields env).encode c.parts)
  decode src d := ((fields env).decode true src d).map ofParts

/-- Is the configuration one to start with? -/
def validate (c : Config) : Except ConfigError Unit :=
  if c.databasePath = "" then .error .noDatabasePath
  else if Text.allBlank c.logLevel then .error .noLogLevel
  else .ok ()

/-- The configuration in a file. -/
def load (env : Environment) (file : FileContent) : Except BrowserError Config :=
  match file.text with
  | .error e => .error (.file e)
  | .ok text =>
    match (codec env).read text with
    | .error issue => .error (.serialization issue)
    | .ok c =>
      match c.validate with
      | .error e => .error (.config e)
      | .ok () => .ok c

/-- Logging is set up once for the whole process; setting it up again changes nothing, and is
    noted. -/
def setUpLogging (_ : Config) : Logged Unit := .log .debug "Logging already initialized" []

end Config

end BrowserTelemetry
