import BrowserTelemetry.Tab.State

/-!
# Actions

Everything that can change the state of a browser. There are five groups: the content of a single
tab, downloads, engines, the list of tabs and the list of custom tabs.
-/

namespace BrowserTelemetry

set_option autoImplicit false

/-- A change to the content of one session. -/
inductive ContentChange where
  | loading (value : Bool)
  | loadRequest (request : LoadRequest)
  /-- The session committed to another address. -/
  | url (value : String)
  | title (value : String)
  deriving DecidableEq, Repr, Inhabited

/-- A change to the content of the session with an id. -/
structure ContentAction where
  sessionId : String
  change : ContentChange
  deriving DecidableEq, Repr, Inhabited

/-- A change to the downloads. -/
inductive DownloadAction where
  | add (download : Download)
  | remove (id : String)
  deriving DecidableEq, Repr, Inhabited

/-- A change to the engine of a session. -/
inductive EngineAction where
  /-- An engine was attached, at a reading of the clock in milliseconds. -/
  | link (sessionId : String) (timestamp : Int64)
  /-- The engine was reclaimed; the tab stays. -/
  | kill (sessionId : String)
  deriving DecidableEq, Repr, Inhabited

/-- A change to the list of tabs. -/
inductive TabListAction where
  | add (tab : Session) (select : Bool)
  | addMultiple (tabs : List Session)
  | select (id : String)
  | remove (id : String)
  | removeAllNormal
  | removeAllPrivate
  | removeAll
  | restore (tabs : List Session) (selected : Option String)
  deriving DecidableEq, Inhabited

/-- A change to the list of custom tabs. -/
inductive CustomTabListAction where
  | add (tab : Session)
  | remove (id : String)
  deriving DecidableEq, Inhabited

/-- A change to the state of a browser. -/
inductive BrowserAction where
  | content (a : ContentAction)
  | download (a : DownloadAction)
  | engine (a : EngineAction)
  | tabList (a : TabListAction)
  | customTabList (a : CustomTabListAction)
  deriving DecidableEq, Inhabited

end BrowserTelemetry
