import BrowserTelemetry.Browser.Basic
import BrowserTelemetry.Proofs.StateInvariant

/-!
# Runs of a store

A store does not run alone. Between two dispatches the clock goes on, and the database, which others
may have open as well, can lose a table or be written to. A `Turn` is **one dispatch with what has
happened since the last one**; a run is a list of turns.

What a dispatch comes to is said once, for middleware that lets every action through once and
unchanged (`Store.value_dispatch_around`), and everything about runs goes through it: the state of a
run is that of the reducer alone, whatever the middleware does and whatever has happened meanwhile.
-/

namespace BrowserTelemetry

set_option autoImplicit false

/-- A dispatch, with the reading of the clock at it and what has become of the database since the
    last one. -/
structure Turn where
  clock : Clock
  meddle : Database → Database
  action : BrowserAction

/-- What has happened to the sinks by the time of the dispatch. -/
def Turn.prepare (t : Turn) (s : Sinks) : Sinks :=
  { s with clock := t.clock, database := t.meddle s.database }

namespace Store

variable {ε : Type}

/-- A dispatch through middleware that lets every action through once: the work before it sees the
    old state, the work after it the new one. -/
theorem value_dispatch_around (before after : Work ε) (a : BrowserAction) (s : Store ε) :
    (dispatch [.around before after] a s).value =
      ⟨s.state.reduce a, (after (s.state.reduce a) a (before s.state a s.env).value).value⟩ := rfl

/-- A turn: the sinks are as they have become since the last one when the action is dispatched. -/
def play (ms : List (Middleware Telemetry)) (s : Store Telemetry) (t : Turn) :
    Logged (Store Telemetry) :=
  dispatch ms t.action { s with env := { s.env with sinks := t.prepare s.env.sinks } }

/-- Turns, one after the other. -/
def playAll (ms : List (Middleware Telemetry)) (s : Store Telemetry) (ts : List Turn) :
    Logged (Store Telemetry) :=
  ts.foldlM (play ms) s

theorem value_playAll_cons (ms : List (Middleware Telemetry)) (s : Store Telemetry) (t : Turn)
    (ts : List Turn) :
    (playAll ms s (t :: ts)).value = (playAll ms (play ms s t).value ts).value := rfl

theorem value_playAll_concat (ms : List (Middleware Telemetry)) (s : Store Telemetry)
    (ts : List Turn) (t : Turn) :
    (playAll ms s (ts ++ [t])).value = (play ms (playAll ms s ts).value t).value := by
  unfold playAll
  rw [Logged.value_foldlM, Logged.value_foldlM, List.foldl_append]
  rfl

theorem state_play_around (before after : Work Telemetry) (s : Store Telemetry) (t : Turn) :
    (play [.around before after] s t).value.state = s.state.reduce t.action := rfl

theorem state_playAll_around (before after : Work Telemetry) (s : Store Telemetry)
    (ts : List Turn) :
    (playAll [.around before after] s ts).value.state = s.state.reduceAll (ts.map Turn.action) := by
  induction ts generalizing s with
  | nil => rfl
  | cons t ts ih =>
    rw [value_playAll_cons, ih, state_play_around, List.map_cons, BrowserState.reduceAll_cons]

theorem state_playAll_nil (s : Store Telemetry) (ts : List Turn) :
    (playAll [] s ts).value.state = s.state.reduceAll (ts.map Turn.action) := by
  induction ts generalizing s with
  | nil => rfl
  | cons t ts ih =>
    rw [value_playAll_cons, ih, List.map_cons, BrowserState.reduceAll_cons]
    rfl

end Store

namespace Browser

/-- Actions, one after the other. -/
def dispatchAll (b : Browser) (actions : List BrowserAction) : Logged Browser :=
  actions.foldlM dispatch b

/-- A turn of a browser. -/
def play (b : Browser) (t : Turn) : Logged Browser :=
  (b.withSinks (t.prepare b.sinks)).dispatch t.action

/-- Turns of a browser, one after the other. -/
def playAll (b : Browser) (ts : List Turn) : Logged Browser := ts.foldlM play b

theorem value_dispatch (b : Browser) (a : BrowserAction) :
    (b.dispatch a).value = { b with store := (b.store.dispatch b.middleware a).value } := rfl

/-- A browser as it is built, if its providers can be told. Building it looks at the setting of the
    open tabs once. -/
theorem value_build {config : Config} {db : Database} {list : List SearchProvider}
    (h : (providers config db).value = .ok list) (clock : Clock) :
    (build config db clock).value =
      .ok
        { config
          store :=
            ⟨.empty,
              ⟨⟨db, (OpenTabs.unknown.read db).2, .empty, clock, .attribute list, []⟩, .empty⟩⟩
          lifecycles := Lifecycles.empty.register startupLog activityRegistry appRegistry } := by
  simp only [build, Logged.value_bind, h]
  -- Enabled or not, only the log differs.
  split <;> rfl

/-- It has no tabs, has counted nothing, and no chain is open. -/
theorem build_of_providers {config : Config} {db : Database} {list : List SearchProvider}
    (h : (providers config db).value = .ok list) (clock : Clock) :
    ∃ b, (build config db clock).value = .ok b ∧ b.config = config ∧ b.state = .empty ∧
      b.database = db ∧ b.sinks.metrics = .empty ∧ b.sinks.ads = .attribute list ∧
      ∀ session, b.store.env.chains.chain? session = none :=
  ⟨_, value_build h clock, rfl, rfl, rfl, rfl, rfl, fun _ => rfl⟩

/-- What is known of a browser that was built. -/
theorem of_build {config : Config} {db : Database} {clock : Clock} {b : Browser}
    (h : (build config db clock).value = .ok b) :
    b.config = config ∧ b.state = .empty ∧ b.database = db ∧
      b.sinks.openTabs = (OpenTabs.unknown.read db).2 ∧
      ∃ list, (providers config db).value = .ok list := by
  cases hlist : (providers config db).value with
  | error e =>
    simp only [build, Logged.value_bind, hlist] at h
    exact absurd h (by simp)
  | ok list =>
    rw [value_build hlist] at h
    obtain rfl := Except.ok.inj h
    exact ⟨rfl, rfl, rfl, rfl, list, rfl⟩

theorem middleware_enabled {b : Browser} (hon : b.config.telemetryEnabled = true) :
    b.middleware = [Telemetry.middleware] := if_pos hon

theorem value_playAll (b : Browser) (ts : List Turn) :
    (b.playAll ts).value = { b with store := (b.store.playAll b.middleware ts).value } := by
  induction ts generalizing b with
  | nil => rfl
  | cons t ts ih =>
    calc (b.playAll (t :: ts)).value
        = ((b.play t).value.playAll ts).value := rfl
      _ = { b with store := (b.store.playAll b.middleware (t :: ts)).value } := ih _

theorem value_dispatch_disabled {b : Browser} (hoff : b.config.telemetryEnabled = false)
    (a : BrowserAction) :
    (b.dispatch a).value = { b with store := ⟨b.state.reduce a, b.store.env⟩ } := by
  rw [value_dispatch, middleware, hoff]
  rfl

theorem value_dispatchAll_disabled {b : Browser} (hoff : b.config.telemetryEnabled = false)
    (actions : List BrowserAction) :
    (b.dispatchAll actions).value =
      { b with store := ⟨b.state.reduceAll actions, b.store.env⟩ } := by
  induction actions generalizing b with
  | nil => rfl
  | cons a rest ih =>
    calc (b.dispatchAll (a :: rest)).value
        = ((b.dispatch a).value.dispatchAll rest).value := rfl
      _ = ({ b with store := ⟨b.state.reduce a, b.store.env⟩ : Browser }.dispatchAll
            rest).value := by
          rw [value_dispatch_disabled hoff]
      _ = { b with store := ⟨b.state.reduceAll (a :: rest), b.store.env⟩ } := ih hoff

end Browser

end BrowserTelemetry
