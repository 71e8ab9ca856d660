import BrowserTelemetry.Calendar.Moment

/-!
# Sessions

A session is one tab: what the engine reported last about its page, and whether an engine is
attached to it. The engine may go away under memory pressure while the tab stays.
-/

namespace BrowserTelemetry

set_option autoImplicit false

/-- A request to load a page, which may not have been committed yet. -/
structure LoadRequest where
  url : String
  triggeredByRedirect : Bool
  triggeredByUser : Bool
  deriving DecidableEq, Repr, Inhabited

namespace LoadRequest

/-- A request that came neither from a redirect nor from the user. -/
def plain (url : String) : LoadRequest := ⟨url, false, false⟩

/-- A request that came from a redirect. -/
def redirect (url : String) : LoadRequest := ⟨url, true, false⟩

end LoadRequest

/-- What is known about the page of a tab. -/
structure PageContent where
  /-- The address the tab has committed to. -/
  url : String
  title : String
  loading : Bool
  isPrivate : Bool
  /-- The latest load request. -/
  loadRequest : Option LoadRequest
  deriving DecidableEq, Repr, Inhabited

/-- The engine of a tab. -/
structure EngineState where
  /-- When the engine was attached, in milliseconds of the clock; none while there is no engine. -/
  linkedAt : Option Int64
  deriving DecidableEq, Repr, Inhabited

/-- A tab. -/
structure Session where
  id : String
  content : PageContent
  engine : EngineState
  createdAt : Moment
  deriving DecidableEq, Inhabited

namespace Session

/-- Is the tab private? -/
def isPrivate (t : Session) : Bool := t.content.isPrivate

/-- A new tab: nothing is loading in it and no engine is attached. -/
def fresh (id url : String) (isPrivate : Bool) (createdAt : Moment) : Session where
  id := id
  content := ⟨url, "", false, isPrivate, none⟩
  engine := ⟨none⟩
  createdAt := createdAt

end Session

/-- What can go wrong with a tab. -/
inductive TabError where
  | notFound (id : String)
  | invalidUrl (reason : String)
  deriving DecidableEq, Repr, Inhabited

/-- The error in words. -/
def TabError.message : TabError → String
  | .notFound id => "Tab not found: " ++ id
  | .invalidUrl reason => "Invalid URL: " ++ reason

/-- A new tab for an address, which must not be empty. -/
def Session.create (id url : String) (isPrivate : Bool) (createdAt : Moment) :
    Except TabError Session :=
  if url = "" then .error (.invalidUrl "URL cannot be empty")
  else .ok (fresh id url isPrivate createdAt)

end BrowserTelemetry
