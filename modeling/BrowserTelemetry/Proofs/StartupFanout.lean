import BrowserTelemetry.Proofs.Places
import BrowserTelemetry.Startup.Lifecycle
import Mathlib.Data.List.Basic
import Mathlib.Data.List.Induction

/-!
# What reaches the startup logs

Logs are hooked into registries, any number of times and in either role, and registries pass on what
happens to those that have been hooked in by then. The reference (`entries`) knows neither
registries nor logs: it goes through the events, and **for each one it counts the earlier
registrations** that it goes to.

The two meet in what a registry holds (`registry_run`): in each role it has the logs of the earlier
registrations that name it in this role, so how often a log is told is how often it occurs there.
-/

namespace BrowserTelemetry

set_option autoImplicit false

/-- Something that happens to logs and registries. -/
inductive LifecycleEvent where
  /-- A log is hooked into the activities of one registry and into the application of another. -/
  | register (log host app : Nat)
  | app (registry : Nat) (event : AppEvent)
  | activity (registry : Nat) (stage : ActivityStage) (name : String)
  /-- A log is told directly. -/
  | direct (log : Nat) (entry : StartupEntry)

namespace LifecycleEvent

/-- The log and the registry of a registration, for activities. -/
def activityHook? : LifecycleEvent → Option (Nat × Nat)
  | .register log registry _ => some (log, registry)
  | .app _ _ | .activity _ _ _ | .direct _ _ => none

/-- The log and the registry of a registration, for the application. -/
def appHook? : LifecycleEvent → Option (Nat × Nat)
  | .register log _ registry => some (log, registry)
  | .app _ _ | .activity _ _ _ | .direct _ _ => none

end LifecycleEvent

namespace Lifecycles

variable {events : List LifecycleEvent} {hook? : LifecycleEvent → Option (Nat × Nat)}

/-- One event. -/
def step (l : Lifecycles) : LifecycleEvent → Lifecycles
  | .register log host app => l.register log host app
  | .app registry event => (l.logAppEvent registry event).value
  | .activity registry stage name => l.activityEvent registry stage name
  | .direct log entry => l.push log entry

/-- Events, one after the other, from the beginning. -/
def run (events : List LifecycleEvent) : Lifecycles := events.foldl step empty

theorem run_concat (events : List LifecycleEvent) (e : LifecycleEvent) :
    run (events ++ [e]) = (run events).step e := by
  rw [run, List.foldl_append]
  rfl

/-! ## The reference -/

/-- What a log is told by an event after others: by an event of a registry, once for each of the
    earlier registrations of the log there. -/
def told (log : Nat) (past : List LifecycleEvent) : LifecycleEvent → List StartupEntry
  | .register _ _ _ => []
  | .app registry event =>
    List.replicate (past.countP fun e => e.appHook? = some (log, registry)) (.app event)
  | .activity registry stage name =>
    List.replicate (past.countP fun e => e.activityHook? = some (log, registry))
      (.activity stage name)
  | .direct l entry => if l = log then [entry] else []

/-- All that a log is told, event by event. -/
def entries (log : Nat) (events : List LifecycleEvent) : List StartupEntry :=
  (List.range events.length).flatMap fun n => events[n]?.toList.flatMap (told log (events.take n))

theorem entries_eq_flatMap (log : Nat) (events : List LifecycleEvent) :
    entries log events = (places events).flatMap fun p => p.2.toList.flatMap (told log p.1) := by
  rw [places, List.flatMap_map]
  rfl

theorem entries_concat (log : Nat) (events : List LifecycleEvent) (e : LifecycleEvent) :
    entries log (events ++ [e]) = entries log events ++ told log events e := by
  rw [entries_eq_flatMap, entries_eq_flatMap, places_concat, List.flatMap_append]
  simp

theorem entries_prefix (log : Nat) (events more : List LifecycleEvent) :
    entries log events <+: entries log (events ++ more) := by
  induction more using List.reverseRecOn with
  | nil => simp
  | append_singleton more e ih =>
    rw [← List.append_assoc, entries_concat]
    exact ih.trans (List.prefix_append _ _)

/-! ## What registries hold -/

/-- The logs that events have hooked into a registry, in one of the roles. -/
def hooked (hook? : LifecycleEvent → Option (Nat × Nat)) (registry : Nat)
    (events : List LifecycleEvent) : List Nat :=
  events.filterMap fun e => (hook? e).bind fun x => if x.2 = registry then some x.1 else none

theorem hooked_concat_of_some {e : LifecycleEvent} {log r : Nat} (he : hook? e = some (log, r))
    (registry : Nat) :
    hooked hook? registry (events ++ [e]) =
      hooked hook? registry events ++ if registry = r then [log] else [] := by
  rw [hooked, List.filterMap_append, ← hooked]
  by_cases hr : registry = r
  · simp [he, hr]
  · simp [he, hr, Ne.symm hr]

theorem hooked_concat_of_none {e : LifecycleEvent} (he : hook? e = none) (registry : Nat) :
    hooked hook? registry (events ++ [e]) = hooked hook? registry events := by
  rw [hooked, List.filterMap_append, ← hooked]
  simp [he]

theorem count_hooked (log registry : Nat) (events : List LifecycleEvent) :
    (hooked hook? registry events).count log =
      events.countP fun e => hook? e = some (log, registry) := by
  rw [hooked, List.count, List.countP_filterMap]
  refine List.countP_congr fun e _ => ?_
  cases hook? e with
  | none => simp
  | some x => by_cases hx : x.2 = registry <;> simp [hx, Prod.ext_iff]

theorem length_hooked (registry : Nat) (events : List LifecycleEvent) :
    (hooked hook? registry events).length =
      events.countP fun e => (hook? e).map Prod.snd = some registry := by
  rw [hooked, List.length_filterMap_eq_countP]
  refine List.countP_congr fun e _ => ?_
  cases hook? e with
  | none => simp
  | some x => by_cases hx : x.2 = registry <;> simp [hx]

theorem log_foldl_push (ls : List Nat) (l : Lifecycles) (e : StartupEntry) (log : Nat) :
    (ls.foldl (fun l i => l.push i e) l).log log =
      l.log log ++ List.replicate (ls.count log) e := by
  induction ls generalizing l with
  | nil => exact (List.append_nil _).symm
  | cons i rest ih =>
    rw [List.foldl_cons, ih, push]
    by_cases hi : log = i
    · simp [hi, List.replicate_succ]
    · simp [hi, Ne.symm hi]

theorem registry_foldl_push (ls : List Nat) (l : Lifecycles) (e : StartupEntry) :
    (ls.foldl (fun l i => l.push i e) l).registry = l.registry := by
  induction ls generalizing l with
  | nil => rfl
  | cons i rest ih => exact ih _

theorem registry_register (l : Lifecycles) (log host app r : Nat) :
    (l.register log host app).registry r =
      ⟨(l.registry r).appObservers ++ if r = app then [log] else [],
        (l.registry r).activityCallbacks ++ if r = host then [log] else []⟩ := by
  simp only [register, update]
  split <;> split <;> simp_all

/-- A registry holds, in each role, the logs of the registrations that name it in this role. -/
theorem registry_run (events : List LifecycleEvent) (r : Nat) :
    (run events).registry r =
      ⟨hooked LifecycleEvent.appHook? r events, hooked LifecycleEvent.activityHook? r events⟩ := by
  induction events using List.reverseRecOn with
  | nil => rfl
  | append_singleton events e ih =>
    rw [run_concat]
    cases e with
    | register log host app =>
      rw [step, registry_register, ih, hooked_concat_of_some rfl, hooked_concat_of_some rfl]
    | app registry event =>
      rw [hooked_concat_of_none rfl, hooked_concat_of_none rfl, ← ih]
      exact congrFun (registry_foldl_push _ _ _) r
    | activity registry stage name =>
      rw [hooked_concat_of_none rfl, hooked_concat_of_none rfl, ← ih]
      exact congrFun (registry_foldl_push _ _ _) r
    | direct log entry =>
      rw [hooked_concat_of_none rfl, hooked_concat_of_none rfl, ← ih]
      rfl

theorem log_run (events : List LifecycleEvent) (log : Nat) :
    (run events).log log = entries log events := by
  induction events using List.reverseRecOn with
  | nil => rfl
  | append_singleton events e ih =>
    rw [run_concat, entries_concat, ← ih]
    cases e with
    | register l host app => exact (List.append_nil _).symm
    | app registry event =>
      simp only [step, logAppEvent, Logged.value_bind, Logged.value_pure, appEvent, log_foldl_push,
        registry_run, count_hooked, told]
    | activity registry stage name =>
      simp only [step, activityEvent, log_foldl_push, registry_run, count_hooked, told]
    | direct l entry =>
      simp only [step, push, told]
      by_cases hl : log = l
      · simp [hl]
      · simp [hl, Ne.symm hl]

/-- **What reaches the startup logs.** After any events on any logs and registries

    * a log holds exactly what it was told, event by event: by an event of a registry, once for each
      of its earlier registrations there in that role, and once by a direct call;
    * what a log holds stays at the beginning of what it will ever hold;
    * a registry has as many hooks as there were registrations with it in the one role, and in the
      other. -/
theorem logs_of_events (events : List LifecycleEvent) :
    (∀ log, (run events).log log = entries log events) ∧
    (∀ log more, (run events).log log <+: (run (events ++ more)).log log) ∧
    ∀ r, ((run events).registry r).observerCount =
      (events.countP fun e => e.activityHook?.map Prod.snd = some r) +
        events.countP fun e => e.appHook?.map Prod.snd = some r := by
  refine ⟨fun log => log_run events log, fun log more => ?_, fun r => ?_⟩
  · rw [log_run, log_run]
    exact entries_prefix log events more
  · rw [registry_run, Registry.observerCount, length_hooked, length_hooked, Nat.add_comm]

-- Hooked in too late for the first event, and then twice into the one registry in both roles.
example : (run [.app 0 .started, .register 2 0 0, .register 2 1 0, .app 0 .stopped,
    .activity 0 .created "Home"]).log 2 =
      [.app .stopped, .app .stopped, .activity .created "Home"] := by
  decide

end Lifecycles
end BrowserTelemetry
