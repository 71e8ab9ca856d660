import BrowserTelemetry.Browser.Config
import BrowserTelemetry.Startup.Lifecycle
import BrowserTelemetry.Telemetry.Reporting

/-!
# A browser

The store of the state with the telemetry around it, the stored settings, and the startup log, all
under one configuration. Every change of the state goes through the store.

What a browser cannot know of itself, the id and the time of a new tab, is given to it.
-/

namespace BrowserTelemetry

set_option autoImplicit false

/-- A browser. -/
structure Browser where
  config : Config
  store : Store Telemetry
  lifecycles : Lifecycles

namespace Browser

/-- The key of the setting that holds search providers. -/
def providersKey : String := "search_providers"

/-- The startup log. -/
def startupLog : Nat := 0

/-- The registry of the application. -/
def appRegistry : Nat := 0

/-- The registry of the activities. -/
def activityRegistry : Nat := 1

/-! ## Parts -/

/-- The sinks of the telemetry. -/
def sinks (b : Browser) : Sinks := b.store.env.sinks

/-- The database. -/
def database (b : Browser) : Database := b.sinks.database

/-- The state. -/
def state (b : Browser) : BrowserState := b.store.state

/-- The browser with other sinks. -/
def withSinks (b : Browser) (sinks : Sinks) : Browser :=
  { b with store := { b.store with env := { b.store.env with sinks } } }

/-- The middleware: telemetry, if it is enabled. -/
def middleware (b : Browser) : List (Middleware Telemetry) :=
  if b.config.telemetryEnabled then [Telemetry.middleware] else []

/-! ## Building -/

/-- The search providers: a stored list is preferred to the configured one. -/
def providers (config : Config) (db : Database) :
    Logged (Except StorageError (List SearchProvider)) :=
  match db.getJson (Codec.list Codec.searchProvider) providersKey with
  | .error e => return .error e
  | .ok none => return .ok config.searchProviders
  | .ok (some stored) => do
    Logged.log .debug "Using stored search providers" [("count", .int stored.length)]
    return .ok stored

/-- A browser on a database, with a clock. Logging is taken to be on: the stored number of open tabs
    is read for the log, and this fills its cache. With a log that leaves out such lines nothing
    would be read here, and the cache would be filled when the number is first asked for. -/
def build (config : Config) (db : Database) (clock : Clock) :
    Logged (Except BrowserError Browser) := do
  match ← providers config db with
  | .error e => return .error (.storage e)
  | .ok list =>
    if !config.telemetryEnabled then Logged.log .info "Telemetry disabled" []
    let (previous, openTabs) := OpenTabs.unknown.read db
    Logged.log .info "Browser initialized"
      [("previous_open_tabs", .int (match previous with | .ok n => n | .error _ => 0)),
        ("telemetry", .bool config.telemetryEnabled)]
    let sinks : Sinks :=
      { database := db, openTabs, metrics := .empty, clock, ads := .attribute list, reports := [] }
    return .ok
      { config
        store := ⟨.empty, ⟨sinks, .empty⟩⟩
        lifecycles := Lifecycles.empty.register startupLog activityRegistry appRegistry }

/-! ## Tabs -/

/-- Give an action to the store. -/
def dispatch (b : Browser) (a : BrowserAction) : Logged Browser := do
  let store ← b.store.dispatch b.middleware a
  return { b with store }

/-- Open a tab, select it and attach an engine to it. -/
def openTab (b : Browser) (id url : String) (isPrivate : Bool) (now : Moment) :
    Logged (Except BrowserError String × Browser) :=
  match Session.create id url isPrivate now with
  | .error e => return (.error (.tab e), b)
  | .ok tab => do
    let b ← b.dispatch (.tabList (.add tab true))
    let b ← b.dispatch (.engine (.link id b.sinks.clock.millis))
    Logged.log .info "Opened tab" [("tab_id", .string id), ("private", .bool isPrivate)]
    return (.ok id, b)

/-- Give an action to the store if there is a session with the id. -/
def dispatchFor (b : Browser) (id : String) (a : BrowserAction) :
    Logged (Except BrowserError Unit × Browser) :=
  match b.state.requireSession id with
  | .error e => return (.error (.tab e), b)
  | .ok _ => do
    let b ← b.dispatch a
    return (.ok (), b)

/-- Close a tab. -/
def closeTab (b : Browser) (id : String) : Logged (Except BrowserError Unit × Browser) :=
  b.dispatchFor id (.tabList (.remove id))

/-- Reclaim the engine of a session. -/
def killEngine (b : Browser) (id : String) : Logged (Except BrowserError Unit × Browser) :=
  b.dispatchFor id (.engine (.kill id))

/-! ## Telemetry -/

/-- The number of ad clicks of a provider. -/
def adClicks (b : Browser) (provider : String) : Except BrowserError Nat :=
  (b.database.adClicksOf provider).mapError .attribution

/-- The stored number of open tabs. -/
def openTabsCount (b : Browser) : Except BrowserError Nat × Browser :=
  let (result, openTabs) := b.sinks.openTabs.read b.database
  (result.mapError .setting, b.withSinks { b.sinks with openTabs })

/-! ## Lifecycle -/

/-- An event of the application reaches a registry. -/
def appEvent (b : Browser) (registry : Nat) (e : AppEvent) : Logged Browser := do
  let lifecycles ← b.lifecycles.logAppEvent registry e
  return { b with lifecycles }

/-- An event of an activity reaches a registry. -/
def activityEvent (b : Browser) (registry : Nat) (stage : ActivityStage) (name : String) :
    Browser :=
  { b with lifecycles := b.lifecycles.activityEvent registry stage name }

/-- The entries of the startup log. -/
def entries (b : Browser) : List StartupEntry := b.lifecycles.log startupLog

end Browser

end BrowserTelemetry
