import BrowserTelemetry.Json.Labelled
import BrowserTelemetry.Log

/-!
# The startup log

A list of what happened to the application and its activities (the screens it shows), in order. It
only ever grows.
-/

namespace BrowserTelemetry

set_option autoImplicit false

/-- Something that happens to the application as a whole. -/
inductive AppEvent where
  | started
  | stopped
  deriving DecidableEq, Repr, Inhabited

/-- Something that happens to an activity. -/
inductive ActivityStage where
  | created
  | started
  | stopped
  deriving DecidableEq, Repr, Inhabited

/-- An entry of the startup log. -/
inductive StartupEntry where
  | app (event : AppEvent)
  | activity (stage : ActivityStage) (name : String)
  deriving DecidableEq, Repr, Inhabited

/-- The word for a stage. -/
def ActivityStage.word : ActivityStage → String
  | .created => "created"
  | .started => "started"
  | .stopped => "stopped"

namespace StartupEntry

/-- An entry in words. -/
def text : StartupEntry → String
  | .app .started => "app-started"
  | .app .stopped => "app-stopped"
  | .activity stage name => name ++ "-" ++ stage.word

/-- Entries in words, and the log line that shows them. -/
def logLine (entries : List StartupEntry) : Logged Unit :=
  .log .debug "Startup activity log" [("entries", .string (", ".intercalate (entries.map text)))]

/-- Log entries, if somebody reads at the level of debugging; at any other level it is not worth the
    work. Tells whether they were logged. -/
def logAt (level : LogLevel) (entries : List StartupEntry) : Logged Bool :=
  if level = .debug then do
    logLine entries
    return true
  else return false

end StartupEntry

/-! ## The JSON form -/

/-- The kinds of entries. -/
inductive EntryKind where
  | app (event : AppEvent)
  | activity (stage : ActivityStage)
  deriving DecidableEq, Repr, Inhabited

instance : Named EntryKind where
  all :=
    [.app .started, .app .stopped, .activity .created, .activity .started, .activity .stopped]
  name
    | .app .started => "app_started"
    | .app .stopped => "app_stopped"
    | .activity stage => "activity_" ++ stage.word

namespace Codec

/-- An entry of the startup log, with its kind. -/
def startupEntry : Codec StartupEntry :=
  labelled ⟨"type", "activity"⟩
    (fun
      | .app event => (EntryKind.app event, none)
      | .activity stage name => (.activity stage, some (.string name)))
    (fun
      | .app event =>
        ⟨fun _ d => (readNull d).map fun _ => .app event, some (.app event)⟩
      | .activity stage => ⟨fun src d => (string.decode src d).map (.activity stage), none⟩)

end Codec

end BrowserTelemetry
