import BrowserTelemetry.Startup.Log

/-!
# Lifecycles

A registry passes on what happens to the logs that have been hooked into it: events of the
application to those hooked in as its observers, events of activities to those hooked in as
callbacks. A log that was hooked in twice is told twice.

Logs and registries go by numbers, and all of them together are one value (`Lifecycles`).
-/

namespace BrowserTelemetry

set_option autoImplicit false

/-- A registry: the numbers of the logs hooked into it, in order. -/
structure Registry where
  appObservers : List Nat
  activityCallbacks : List Nat
  deriving DecidableEq, Repr, Inhabited

namespace Registry

/-- Nothing hooked in. -/
def empty : Registry := ⟨[], []⟩

/-- The number of hooks. -/
def observerCount (r : Registry) : Nat := r.appObservers.length + r.activityCallbacks.length

end Registry

/-- All logs and registries, by their numbers. -/
structure Lifecycles where
  log : Nat → List StartupEntry
  registry : Nat → Registry

namespace Lifecycles

/-- Empty logs, and registries with nothing hooked in. -/
def empty : Lifecycles := ⟨fun _ => [], fun _ => .empty⟩

/-- Add an entry to a log. -/
def push (l : Lifecycles) (log : Nat) (e : StartupEntry) : Lifecycles :=
  { l with log := fun i => if i = log then l.log i ++ [e] else l.log i }

/-- Change a registry. -/
def update (l : Lifecycles) (registry : Nat) (f : Registry → Registry) : Lifecycles :=
  { l with registry := fun i => if i = registry then f (l.registry i) else l.registry i }

/-- Hook a log into the activities of one registry and into the application of another, which may
    be the same. -/
def register (l : Lifecycles) (log host app : Nat) : Lifecycles :=
  (l.update host fun r => { r with activityCallbacks := r.activityCallbacks ++ [log] }).update app
    fun r => { r with appObservers := r.appObservers ++ [log] }

/-- An event of the application reaches a registry. -/
def appEvent (l : Lifecycles) (registry : Nat) (e : AppEvent) : Lifecycles :=
  (l.registry registry).appObservers.foldl (fun l log => l.push log (.app e)) l

/-- An event of the application reaches a registry, with the log line it makes. -/
def logAppEvent (l : Lifecycles) (registry : Nat) (e : AppEvent) : Logged Lifecycles := do
  Logged.log .debug (match e with | .started => "App started" | .stopped => "App stopped") []
  return l.appEvent registry e

/-- An event of an activity reaches a registry. -/
def activityEvent (l : Lifecycles) (registry : Nat) (stage : ActivityStage) (name : String) :
    Lifecycles :=
  (l.registry registry).activityCallbacks.foldl (fun l log => l.push log (.activity stage name)) l

end Lifecycles

end BrowserTelemetry
