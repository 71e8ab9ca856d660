import BrowserTelemetry.Store.Middleware
import BrowserTelemetry.Telemetry.Attribution
import BrowserTelemetry.Telemetry.Clock
import BrowserTelemetry.Telemetry.Metrics
import BrowserTelemetry.Telemetry.OpenTabs
import BrowserTelemetry.Telemetry.RedirectChain

/-!
# Telemetry of actions

What is reported when an action goes through a store. Content, downloads and engines are looked at
before the action changes the state, the list of tabs after it.

A failure of the storage is logged and otherwise stays without effect.
-/

namespace BrowserTelemetry

set_option autoImplicit false

/-- What takes the reports of redirect chains. -/
inductive AdSink where
  /-- Takes every report and does nothing with it. -/
  | accept
  /-- Fails at every report. -/
  | refuse
  /-- Counts clicks on ads of the providers. -/
  | attribute (providers : List SearchProvider)
  deriving DecidableEq, Repr, Inhabited

/-- Where telemetry reports to. Several parts may share one. -/
structure Sinks where
  database : Database
  openTabs : OpenTabs
  metrics : Metrics
  clock : Clock
  ads : AdSink
  /-- The reports of redirect chains so far. -/
  reports : List RedirectChain
  deriving DecidableEq, Inhabited

/-- One part that does telemetry: the sinks and its own open chains. -/
structure Telemetry where
  sinks : Sinks
  chains : RedirectChains
  deriving DecidableEq, Inhabited

namespace Sinks

/-- Hand a redirect chain to the sink for ads; `false` when that failed. -/
def report (s : Sinks) (c : RedirectChain) : Logged (Bool × Sinks) := do
  let s := { s with reports := s.reports ++ [c] }
  match s.ads with
  | .accept => return (true, s)
  | .refuse => return (false, s)
  | .attribute providers =>
    match ← Attribution.track providers s.database c.root c.chain with
    | .ok db => return (true, { s with database := db })
    | .error _ => return (false, s)

/-- Count an event. -/
def track (s : Sinks) (e : Event) : Logged Sinks := do
  let metrics ← s.metrics.track e
  return { s with metrics }

/-- Store the number of open tabs. -/
def persist (s : Sinks) (count : Nat) : Logged Sinks :=
  match OpenTabs.write s.database count with
  | .ok (openTabs, database) => return { s with openTabs, database }
  | .error _ => do
    Logged.log .warn "Failed to persist open tabs count" [("count", .int count)]
    return s

/-- The number of open tabs may have changed. -/
def openTabsChanged (s : Sinks) (count : Nat) : Logged Sinks := do
  let s ← s.persist count
  s.track (if 0 < count then .haveOpenTabs else .haveNoOpenTabs)

/-- A million: the nanoseconds of a millisecond. -/
def nanosPerMilli : Int64 := 1000000

/-- How long a session has had its engine, in nanoseconds. -/
def engineAge (s : Sinks) (t : Session) : Option Int64 :=
  t.engine.linkedAt.map fun linkedAt =>
    mulClamped (subClamped s.clock.millis linkedAt) nanosPerMilli

/-- An age as the log shows it. -/
def ageText : Option Int64 → String
  | some nanos => "Some(" ++ toString nanos.toInt ++ ")"
  | none => "None"

/-- Record that an engine is killed. -/
def recordKill (s : Sinks) (label : KillLabel) (age : Option Int64) : Sinks :=
  let metrics := s.metrics.recordKill label
  { s with
    metrics :=
      match age with
      | some nanos => metrics.recordAge label nanos
      | none => metrics }

/-- The engine of a session is killed. -/
def engineKilled (s : Sinks) (state : BrowserState) (id : String) : Logged Sinks :=
  match state.findSession id with
  | none => do
    Logged.log .debug "Could not find tab for killed engine session" []
    return s
  | some t => do
    let label := KillLabel.ofSelected (state.selected = some t.id)
    let age := s.engineAge t
    Logged.log .debug "Engine session killed"
      [("tab_id", .string t.id), ("label", .string label.name),
        ("age_nanos", .string (ageText age))]
    return s.recordKill label age

end Sinks

namespace Telemetry

/-- Work on the sinks alone. -/
def onSinks (t : Telemetry) (f : Sinks → Logged Sinks) : Logged Telemetry := do
  let sinks ← f t.sinks
  return { t with sinks }

/-- The loading state of a session changes: a page that is not private may have been loaded. -/
def loadingChanges (t : Telemetry) (state : BrowserState) (id : String) (loading : Bool) :
    Logged Telemetry :=
  match state.findTab id with
  | none => do
    Logged.log .debug "No tab for loading state" [("session_id", .string id)]
    return t
  | some tab =>
    if tab.content.loading && !loading && !tab.isPrivate then
      t.onSinks fun s => s.track .uriOpened
    else return t

/-- A session requests an address. -/
def loadRequested (t : Telemetry) (state : BrowserState) (id url : String) : Logged Telemetry :=
  match state.findTab id with
  | none => do
    Logged.log .debug "No tab for load request" [("session_id", .string id)]
    return t
  | some tab => do
    let chains ← t.chains.logRequest id url tab.content.url
    return { t with chains }

/-- A session commits to an address. -/
def urlCommitted (t : Telemetry) (id : String) : Logged Telemetry := do
  let (chains, sinks) ← t.chains.commitTo id (fun c s => s.report c) t.sinks
  return { sinks, chains }

/-- What is done before an action changes the state. -/
def before : Work Telemetry := fun state a t =>
  match a with
  | .content ⟨id, .loading value⟩ => t.loadingChanges state id value
  | .content ⟨id, .loadRequest request⟩ => t.loadRequested state id request.url
  | .content ⟨id, .url _⟩ => t.urlCommitted id
  | .download (.add _) => t.onSinks fun s => s.track .downloadAdded
  | .engine (.kill id) => t.onSinks fun s => s.engineKilled state id
  | .content ⟨_, .title _⟩ | .download (.remove _) | .engine (.link _ _) | .tabList _
  | .customTabList _ => return t

/-- Can the action change the number of tabs that are not private? -/
def countsTabs : BrowserAction → Bool
  | .tabList (.select _) | .tabList .removeAllPrivate => false
  | .tabList _ => true
  | .content _ | .download _ | .engine _ | .customTabList _ => false

/-- What is done after an action has changed the state. -/
def after : Work Telemetry := fun state a t =>
  if countsTabs a then t.onSinks fun s => s.openTabsChanged state.normalCount else return t

/-- Telemetry as middleware. -/
def middleware : Middleware Telemetry := .around before after

/-- Telemetry as middleware on a part of an environment. -/
def middlewareOn {ε : Type} (get : ε → Telemetry) (put : Telemetry → ε → ε) : Middleware ε :=
  .around (before.onPart get put) (after.onPart get put)

end Telemetry

end BrowserTelemetry
