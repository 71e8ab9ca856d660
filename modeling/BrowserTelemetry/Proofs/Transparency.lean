import BrowserTelemetry.Proofs.SinkEffects
import BrowserTelemetry.Proofs.Turns
import BrowserTelemetry.Storage.Migration

/-!
# Telemetry is transparent

Two runs of the same actions at the same readings of the clock are compared, on two databases of
which nothing is assumed: tables may be missing, hold odd values, or change between any two
dispatches. The relation that carries the comparison is `Telemetry.Agree`, **everything but the
storage**: the metrics, the clock and the open chains. Every part of the work around an action keeps
it, because each reads nothing but what the relation speaks of, and because what the storage answers
decides nothing but what the storage holds next.
-/

namespace BrowserTelemetry

set_option autoImplicit false

/-! ## What does not depend on the storage -/

/-- The sinks agree on all but the storage. -/
structure Sinks.Agree (s u : Sinks) : Prop where
  metrics : s.metrics = u.metrics
  clock : s.clock = u.clock

namespace Sinks.Agree

variable {s u : Sinks}

theorem track (h : s.Agree u) (e : Event) : (s.track e).value.Agree (u.track e).value := by
  rw [value_track, value_track, h.metrics]
  exact ⟨rfl, h.clock⟩

theorem persist (h : s.Agree u) (count : Nat) :
    (s.persist count).value.Agree (u.persist count).value := by
  obtain ⟨_, _, hs⟩ := persist_eq s count
  obtain ⟨_, _, hu⟩ := persist_eq u count
  rw [hs, hu]
  exact ⟨h.metrics, h.clock⟩

theorem report (h : s.Agree u) (c : RedirectChain) :
    (s.report c).value.2.Agree (u.report c).value.2 := by
  obtain ⟨_, hs⟩ := report_eq s c
  obtain ⟨_, hu⟩ := report_eq u c
  rw [hs, hu]
  exact ⟨h.metrics, h.clock⟩

theorem openTabsChanged (h : s.Agree u) (count : Nat) :
    (s.openTabsChanged count).value.Agree (u.openTabsChanged count).value := by
  rw [value_openTabsChanged, value_openTabsChanged]
  exact (h.persist count).track _

theorem engineKilled (h : s.Agree u) (state : BrowserState) (id : String) :
    (s.engineKilled state id).value.Agree (u.engineKilled state id).value := by
  rw [value_engineKilled, value_engineKilled]
  cases state.findSession id with
  | none => exact h
  | some t =>
    -- The age is told from the clock and the session alone.
    have hage : s.engineAge t = u.engineAge t := by rw [engineAge, engineAge, h.clock]
    refine ⟨?_, h.clock⟩
    simp only [recordKill, h.metrics, hage]

end Sinks.Agree

/-- Two parts that do telemetry agree on all but the storage. -/
structure Telemetry.Agree (t u : Telemetry) : Prop where
  sinks : t.sinks.Agree u.sinks
  chains : t.chains = u.chains

namespace Telemetry.Agree

variable {t u : Telemetry}

theorem onSinks (h : t.Agree u) {f : Sinks → Logged Sinks}
    (hf : ∀ {s v : Sinks}, s.Agree v → (f s).value.Agree (f v).value) :
    (t.onSinks f).value.Agree (u.onSinks f).value := by
  rw [value_onSinks, value_onSinks]
  exact ⟨hf h.sinks, h.chains⟩

theorem loadingChanges (h : t.Agree u) (state : BrowserState) (id : String) (loading : Bool) :
    (t.loadingChanges state id loading).value.Agree (u.loadingChanges state id loading).value := by
  rw [value_loadingChanges, value_loadingChanges]
  cases state.findTab id with
  | none => exact h
  | some tab =>
    simp only
    split
    · exact ⟨h.sinks.track _, h.chains⟩
    · exact h

theorem loadRequested (h : t.Agree u) (state : BrowserState) (id url : String) :
    (t.loadRequested state id url).value.Agree (u.loadRequested state id url).value := by
  rw [value_loadRequested, value_loadRequested]
  cases state.findTab id with
  | none => exact h
  | some tab => exact ⟨h.sinks, by rw [h.chains]⟩

/-- Whether the report is taken shows in the storage alone: the chain is closed before. -/
theorem urlCommitted (h : t.Agree u) (id : String) :
    (t.urlCommitted id).value.Agree (u.urlCommitted id).value := by
  rw [value_urlCommitted, value_urlCommitted, RedirectChains.value_commitTo,
    RedirectChains.value_commitTo, h.chains]
  cases u.chains.chain? id with
  | none => exact ⟨h.sinks, rfl⟩
  | some c => exact ⟨h.sinks.report c, rfl⟩

theorem before (h : t.Agree u) (state : BrowserState) (a : BrowserAction) :
    (before state a t).value.Agree (before state a u).value := by
  cases a with
  | content a =>
    obtain ⟨id, change⟩ := a
    cases change with
    | loading value => exact h.loadingChanges state id value
    | loadRequest request => exact h.loadRequested state id request.url
    | url value => exact h.urlCommitted id
    | title value => exact h
  | download a =>
    cases a with
    | add download => exact h.onSinks fun hs => hs.track _
    | remove id => exact h
  | engine a =>
    cases a with
    | link id timestamp => exact h
    | kill id => exact h.onSinks fun hs => hs.engineKilled state id
  | tabList a => exact h
  | customTabList a => exact h

theorem after (h : t.Agree u) (state : BrowserState) (a : BrowserAction) :
    (after state a t).value.Agree (after state a u).value := by
  rw [value_after, value_after]
  split
  · exact ⟨h.sinks.openTabsChanged _, h.chains⟩
  · exact h

end Telemetry.Agree

/-! ## Runs -/

/-- What two runs have in common at a turn: the reading of the clock and the action. -/
def Turn.shared (t : Turn) : Clock × BrowserAction := (t.clock, t.action)

namespace Store

/-- A turn keeps the agreement, whatever happens to the databases before it. Of the clocks it needs
    nothing, for the turn sets them. -/
theorem agree_play {s : BrowserState} {t u : Telemetry}
    (hmetrics : t.sinks.metrics = u.sinks.metrics) (hchains : t.chains = u.chains) {p q : Turn}
    (hsame : p.shared = q.shared) :
    (play [Telemetry.middleware] ⟨s, t⟩ p).value.env.Agree
      (play [Telemetry.middleware] ⟨s, u⟩ q).value.env := by
  obtain ⟨hclock, haction⟩ := Prod.mk.inj hsame
  have hprepared : Telemetry.Agree { t with sinks := p.prepare t.sinks }
      { u with sinks := q.prepare u.sinks } := ⟨⟨hmetrics, hclock⟩, hchains⟩
  unfold play Telemetry.middleware
  rw [value_dispatch_around, value_dispatch_around, haction]
  exact (hprepared.before s q.action).after (s.reduce q.action) q.action

theorem agree_playAll (s : BrowserState) {t u : Telemetry}
    (hmetrics : t.sinks.metrics = u.sinks.metrics) (hchains : t.chains = u.chains)
    {ps qs : List Turn} (hsame : ps.map Turn.shared = qs.map Turn.shared) :
    let r := (playAll [Telemetry.middleware] ⟨s, t⟩ ps).value
    let v := (playAll [Telemetry.middleware] ⟨s, u⟩ qs).value
    r.env.sinks.metrics = v.env.sinks.metrics ∧ r.env.chains = v.env.chains := by
  induction ps generalizing s t u qs with
  | nil =>
    obtain rfl := List.map_eq_nil_iff.1 hsame.symm
    exact ⟨hmetrics, hchains⟩
  | cons p ps ih =>
    obtain ⟨q, qs, rfl, hpq, hrest⟩ := List.map_eq_cons_iff.1 hsame.symm
    -- The turns do the same to the state, and then there is again one state with two sinks.
    have hstep := agree_play (s := s) hmetrics hchains hpq.symm
    have haction : p.action = q.action := (Prod.mk.inj hpq).2.symm
    have hq : (play [Telemetry.middleware] ⟨s, u⟩ q).value =
        ⟨(play [Telemetry.middleware] ⟨s, t⟩ p).value.state,
          (play [Telemetry.middleware] ⟨s, u⟩ q).value.env⟩ := by
      unfold Telemetry.middleware
      rw [state_play_around, haction]
      rfl
    simp only [value_playAll_cons]
    rw [hq]
    exact ih _ hstep.sinks.metrics hstep.chains hrest.symm

/-- **Telemetry is transparent, and failures of the storage stay invisible.** Two runs share the
    actions and the readings of the clock, and begin with the same metrics and open chains; what the
    databases hold, what becomes of them meanwhile, and where reports go may all differ. After every
    dispatch

    * the state is that of the reducer alone, in both runs and without middleware;
    * the metrics are the same;
    * the open chains are the same.

    With telemetry disabled actions change the state and nothing else. -/
theorem telemetry_is_transparent (s : BrowserState) (t u : Telemetry)
    (hmetrics : t.sinks.metrics = u.sinks.metrics) (hchains : t.chains = u.chains)
    (ps qs : List Turn) (hsame : ps.map Turn.shared = qs.map Turn.shared) :
    (∀ n,
      let r := (playAll [Telemetry.middleware] ⟨s, t⟩ (ps.take n)).value
      let v := (playAll [Telemetry.middleware] ⟨s, u⟩ (qs.take n)).value
      (r.state = s.reduceAll ((ps.map Turn.action).take n) ∧ v.state = r.state ∧
        ∀ env, (playAll [] ⟨s, env⟩ (ps.take n)).value.state = r.state) ∧
      r.env.sinks.metrics = v.env.sinks.metrics ∧
      r.env.chains = v.env.chains) ∧
    ∀ b : Browser, b.config.telemetryEnabled = false → ∀ actions,
      (b.dispatchAll actions).value =
        { b with store := ⟨b.state.reduceAll actions, b.store.env⟩ } := by
  constructor
  · intro n r v
    have hshared : (ps.take n).map Turn.shared = (qs.take n).map Turn.shared := by
      rw [List.map_take, List.map_take, hsame]
    have hactions : (qs.take n).map Turn.action = (ps.take n).map Turn.action := by
      have h := congrArg (List.map Prod.snd) hshared
      rw [List.map_map, List.map_map] at h
      exact h.symm
    have hr : r.state = s.reduceAll ((ps.take n).map Turn.action) := state_playAll_around _ _ _ _
    have hv : v.state = s.reduceAll ((qs.take n).map Turn.action) := state_playAll_around _ _ _ _
    refine ⟨⟨?_, ?_, fun env => ?_⟩, agree_playAll s hmetrics hchains hshared⟩
    · rw [hr, List.map_take]
    · rw [hv, hr, hactions]
    · rw [hr, state_playAll_nil]
  · intro b hoff actions
    exact Browser.value_dispatchAll_disabled hoff actions

/-- A database that works and one that loses all its tables before every dispatch; and a browser
    that does no telemetry. -/
theorem telemetry_is_transparent_without_tables :
    let tab := Session.fresh "a" "https://a.test" false .epoch
    let actions : List BrowserAction :=
      [.tabList (.add tab true), .content ⟨"a", .loadRequest (.plain "https://b.test")⟩,
        .content ⟨"a", .loading true⟩, .content ⟨"a", .loading false⟩, .engine (.kill "a")]
    let ps := actions.map fun a => Turn.mk ⟨5⟩ id a
    let qs := actions.map fun a => Turn.mk ⟨5⟩ (fun _ => .blank) a
    let t : Telemetry :=
      ⟨⟨Database.fresh, .unknown, .empty, ⟨0⟩, .attribute SearchProvider.defaults, []⟩, .empty⟩
    let u : Telemetry := ⟨⟨Database.blank, .unknown, .empty, ⟨0⟩, .refuse, []⟩, .empty⟩
    let r := (playAll [Telemetry.middleware] ⟨.empty, t⟩ (ps.take 5)).value
    let v := (playAll [Telemetry.middleware] ⟨.empty, u⟩ (qs.take 5)).value
    let b : Browser := ⟨⟨"", false, "info", []⟩, ⟨.empty, t⟩, .empty⟩
    t.sinks.metrics = u.sinks.metrics ∧ t.chains = u.chains ∧
    ps.map Turn.shared = qs.map Turn.shared ∧
    v.state = r.state ∧ r.env.sinks.metrics = v.env.sinks.metrics ∧ r.env.chains = v.env.chains ∧
    r.env.sinks.database.settings ≠ v.env.sinks.database.settings ∧
    (b.dispatchAll actions).value = { b with store := ⟨r.state, t⟩ } := by
  intro tab actions ps qs t u r v b
  obtain ⟨hruns, hdisabled⟩ := telemetry_is_transparent .empty t u rfl rfl ps qs rfl
  obtain ⟨⟨-, hstate, -⟩, hmetrics, hchains⟩ := hruns 5
  refine ⟨rfl, rfl, rfl, hstate, hmetrics, hchains, by decide, ?_⟩
  rw [hdisabled b rfl actions]
  rfl

end Store

end BrowserTelemetry
