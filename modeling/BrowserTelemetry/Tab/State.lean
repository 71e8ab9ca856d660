import BrowserTelemetry.SortedMap
import BrowserTelemetry.Tab.Session

/-!
# The state of a browser

The tabs in display order, the tabs opened on behalf of other apps, which of the tabs is selected,
and the downloads by their ids.

Looking for a session by its id, a tab is found before a custom tab, and of several the first.
-/

namespace BrowserTelemetry

set_option autoImplicit false

/-- A download. -/
structure Download where
  id : String
  url : String
  fileName : Option String
  sessionId : Option String
  isPrivate : Bool
  deriving DecidableEq, Repr, Inhabited

/-- The state of a browser. -/
structure BrowserState where
  tabs : List Session
  customTabs : List Session
  selected : Option String
  downloads : SortedMap String Download
  deriving DecidableEq, Inhabited

namespace BrowserState

/-- No tabs, no downloads. -/
def empty : BrowserState := ⟨[], [], none, .empty⟩

/-- A state with the given tabs and nothing else. -/
def withTabs (tabs : List Session) (selected : Option String) : BrowserState :=
  { empty with tabs, selected }

/-- The first session with an id. -/
def findIn (sessions : List Session) (id : String) : Option Session :=
  sessions.find? fun t => t.id = id

/-- The tab with an id. -/
def findTab (s : BrowserState) (id : String) : Option Session := findIn s.tabs id

/-- The custom tab with an id. -/
def findCustomTab (s : BrowserState) (id : String) : Option Session := findIn s.customTabs id

/-- The session with an id. -/
def findSession (s : BrowserState) (id : String) : Option Session :=
  (s.findTab id).or (s.findCustomTab id)

/-- The session with an id, or the error that there is none. -/
def requireSession (s : BrowserState) (id : String) : Except TabError Session :=
  match s.findSession id with
  | some t => .ok t
  | none => .error (.notFound id)

/-- Has one of the tabs the id? -/
def hasTab (s : BrowserState) (id : String) : Bool := (s.findTab id).isSome

/-- The tabs that are not private. -/
def normalTabs (s : BrowserState) : List Session := s.tabs.filter fun t => !t.isPrivate

/-- The number of tabs that are not private. -/
def normalCount (s : BrowserState) : Nat := s.normalTabs.length

/-- Change the first session with an id in a list. -/
def updateFirst (f : Session → Session) (id : String) : List Session → List Session
  | [] => []
  | t :: rest => if t.id = id then f t :: rest else t :: updateFirst f id rest

/-- Change the session that `findSession` finds. -/
def updateSession (s : BrowserState) (id : String) (f : Session → Session) : BrowserState :=
  if s.hasTab id then { s with tabs := updateFirst f id s.tabs }
  else { s with customTabs := updateFirst f id s.customTabs }

end BrowserState

end BrowserTelemetry
