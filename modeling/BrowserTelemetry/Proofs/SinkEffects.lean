import BrowserTelemetry.Proofs.ClickTable
import BrowserTelemetry.Telemetry.Reporting

/-!
# What telemetry changes

One statement for each thing that telemetry does, saying all that it can change. The two that use
the database (`persist_eq`, `report_eq`) say it whether or not the database plays along: **a failure
and a success differ in one table and in nothing else**.

The work around an action is put together from these, one `value_` lemma for each part of it.
-/

namespace BrowserTelemetry

set_option autoImplicit false

/-! ## The sinks -/

/-- The provider that a chain is a click for, if the sink looks for clicks. -/
def AdSink.clickFor? (ads : AdSink) (c : RedirectChain) : Option String :=
  match ads with
  | .accept | .refuse => none
  | .attribute providers =>
    match Attribution.of providers c.root c.chain with
    | .click p => some p.name
    | .unreadableRoot | .organic => none

/-- A chain that is a click is recorded for its provider, and any other changes nothing. -/
theorem Attribution.value_track (providers : List SearchProvider) (db : Database)
    (c : RedirectChain) :
    (track providers db c.root c.chain).value =
      match (AdSink.attribute providers).clickFor? c with
      | none => .ok db
      | some name => db.recordAdClick name := by
  simp only [track, AdSink.clickFor?]
  cases of providers c.root c.chain with
  | unreadableRoot => rfl
  | organic => rfl
  | click p => rfl

namespace Sinks

theorem value_track (s : Sinks) (e : Event) :
    (s.track e).value = { s with metrics := s.metrics.countEvent e } := rfl

/-- The number of tabs is stored if there is a table for it, and then also in the cache. -/
theorem value_persist (s : Sinks) (count : Nat) :
    ∃ openTabs, (s.persist count).value =
      { s with
        openTabs
        database := { s.database with
          settings := s.database.settings.map fun table =>
            table.insert OpenTabs.key (.text (OpenTabs.print count)) } } := by
  unfold persist OpenTabs.write Database.setSetting Database.putSetting
  cases hset : s.database.settings with
  | none =>
    refine ⟨s.openTabs, ?_⟩
    show s = _
    rw [Option.map_none, ← hset]
  | some table => exact ⟨_, rfl⟩

/-- Storing the number of tabs changes the settings and their cache, if anything. -/
theorem persist_eq (s : Sinks) (count : Nat) :
    ∃ openTabs settings, (s.persist count).value =
      { s with openTabs, database := { s.database with settings } } := by
  obtain ⟨openTabs, hpersist⟩ := s.value_persist count
  exact ⟨openTabs, _, hpersist⟩

theorem value_openTabsChanged (s : Sinks) (count : Nat) :
    (s.openTabsChanged count).value =
      ((s.persist count).value.track
        (if 0 < count then .haveOpenTabs else .haveNoOpenTabs)).value :=
  rfl

/-- The number is stored, and one event is counted. -/
theorem openTabsChanged_eq (s : Sinks) (count : Nat) :
    ∃ openTabs, (s.openTabsChanged count).value =
      { s with
        openTabs
        metrics := s.metrics.countEvent (if 0 < count then .haveOpenTabs else .haveNoOpenTabs)
        database := { s.database with
          settings := s.database.settings.map fun table =>
            table.insert OpenTabs.key (.text (OpenTabs.print count)) } } := by
  obtain ⟨openTabs, hpersist⟩ := s.value_persist count
  rw [value_openTabsChanged, value_track, hpersist]
  exact ⟨openTabs, rfl⟩

/-- A report is written down, and may be an ad click. -/
theorem value_report (s : Sinks) (c : RedirectChain) :
    (s.report c).value.2 =
      { s with
        reports := s.reports ++ [c], database := s.database.clicked (s.ads.clickFor? c) } := by
  unfold report
  match s.ads with
  | .accept => rfl
  | .refuse => rfl
  | .attribute providers =>
    simp only [Logged.value_bind, Attribution.value_track]
    cases (AdSink.attribute providers).clickFor? c with
    | none => rfl
    | some name =>
      cases htable : s.database.adClicks with
      | none => simp [Database.recordAdClick, Database.clicked_of_none htable, htable]
      | some table => simp [Database.recordAdClick_eq htable, Database.clicked, htable]

theorem report_eq (s : Sinks) (c : RedirectChain) :
    ∃ adClicks, (s.report c).value.2 =
      { s with reports := s.reports ++ [c], database := { s.database with adClicks } } := by
  rw [value_report]
  cases s.ads.clickFor? c with
  | none => exact ⟨s.database.adClicks, rfl⟩
  | some name => exact ⟨_, rfl⟩

theorem value_engineKilled (s : Sinks) (state : BrowserState) (id : String) :
    (s.engineKilled state id).value =
      match state.findSession id with
      | none => s
      | some t => s.recordKill (.ofSelected (state.selected = some t.id)) (s.engineAge t) := by
  unfold engineKilled
  cases state.findSession id <;> rfl

end Sinks

/-! ## The work around an action -/

namespace Telemetry

theorem value_onSinks (t : Telemetry) (f : Sinks → Logged Sinks) :
    (t.onSinks f).value = { t with sinks := (f t.sinks).value } := rfl

theorem value_loadingChanges (t : Telemetry) (state : BrowserState) (id : String) (loading : Bool) :
    (t.loadingChanges state id loading).value =
      match state.findTab id with
      | none => t
      | some tab =>
        if tab.content.loading && !loading && !tab.isPrivate then
          { t with sinks := (t.sinks.track .uriOpened).value }
        else t := by
  unfold loadingChanges
  cases state.findTab id with
  | none => rfl
  | some tab =>
    simp only
    split <;> rfl

theorem value_loadRequested (t : Telemetry) (state : BrowserState) (id url : String) :
    (t.loadRequested state id url).value =
      match state.findTab id with
      | none => t
      | some tab => { t with chains := t.chains.request id url tab.content.url } := by
  unfold loadRequested
  cases state.findTab id with
  | none => rfl
  | some tab => simp [RedirectChains.value_logRequest]

theorem value_urlCommitted (t : Telemetry) (id : String) :
    (t.urlCommitted id).value =
      { sinks := (t.chains.commitTo id (fun c s => s.report c) t.sinks).value.2
        chains := (t.chains.commitTo id (fun c s => s.report c) t.sinks).value.1 } := rfl

/-- Before a commit the chain of its session is reported, if there is one. -/
theorem sinks_before_commit (state : BrowserState) (id url : String) (t : Telemetry) :
    (before state (.content ⟨id, .url url⟩) t).value.sinks =
      match t.chains.chain? id with
      | some c => (t.sinks.report c).value.2
      | none => t.sinks := by
  unfold before
  rw [value_urlCommitted, RedirectChains.value_commitTo]
  cases t.chains.chain? id <;> rfl

/-- Before any other action nothing but the metrics can change. -/
theorem sinks_before_of_ne (state : BrowserState) {a : BrowserAction}
    (hne : ∀ id url, a ≠ .content ⟨id, .url url⟩) (t : Telemetry) :
    ∃ metrics, (before state a t).value.sinks = { t.sinks with metrics } := by
  cases a with
  | content a =>
    obtain ⟨id, change⟩ := a
    cases change with
    | loading value =>
      simp only [before, value_loadingChanges]
      cases state.findTab id with
      | none => exact ⟨_, rfl⟩
      | some tab =>
        simp only
        split <;> exact ⟨_, rfl⟩
    | loadRequest request =>
      simp only [before, value_loadRequested]
      cases state.findTab id <;> exact ⟨_, rfl⟩
    | url value => exact absurd rfl (hne id value)
    | title value => exact ⟨_, rfl⟩
  | download a => cases a <;> exact ⟨_, rfl⟩
  | engine a =>
    cases a with
    | link id timestamp => exact ⟨_, rfl⟩
    | kill id =>
      simp only [before, value_onSinks, Sinks.value_engineKilled]
      cases state.findSession id <;> exact ⟨_, rfl⟩
  | tabList a => exact ⟨_, rfl⟩
  | customTabList a => exact ⟨_, rfl⟩

theorem database_before_of_ne (state : BrowserState) {a : BrowserAction}
    (hne : ∀ id url, a ≠ .content ⟨id, .url url⟩) (t : Telemetry) :
    (before state a t).value.sinks.database = t.sinks.database ∧
      (before state a t).value.sinks.ads = t.sinks.ads := by
  obtain ⟨metrics, hsinks⟩ := sinks_before_of_ne state hne t
  rw [hsinks]
  exact ⟨rfl, rfl⟩

/-- Before an action the metrics can change, and what reports of chains are for; the settings and
    their cache cannot. -/
theorem sinks_before_eq (state : BrowserState) (a : BrowserAction) (t : Telemetry) :
    ∃ metrics reports adClicks, (before state a t).value.sinks =
      { t.sinks with metrics, reports, database := { t.sinks.database with adClicks } } := by
  by_cases hcommit : ∃ id url, a = .content ⟨id, .url url⟩
  · obtain ⟨id, url, rfl⟩ := hcommit
    rw [sinks_before_commit]
    cases t.chains.chain? id with
    | none => exact ⟨_, _, t.sinks.database.adClicks, rfl⟩
    | some c =>
      obtain ⟨adClicks, hreport⟩ := t.sinks.report_eq c
      exact ⟨_, _, adClicks, hreport⟩
  · obtain ⟨metrics, hsinks⟩ :=
      sinks_before_of_ne state (fun id url heq => hcommit ⟨id, url, heq⟩) t
    exact ⟨metrics, _, t.sinks.database.adClicks, hsinks⟩

/-- Before any action that kills no engine the metrics can gain events, and nothing else. -/
theorem metrics_before_of_ne (state : BrowserState) {a : BrowserAction}
    (hne : ∀ id, a ≠ .engine (.kill id)) (t : Telemetry) :
    ∃ events, (before state a t).value.sinks.metrics = { t.sinks.metrics with events } := by
  cases a with
  | content a =>
    obtain ⟨id, change⟩ := a
    cases change with
    | loading value =>
      simp only [before, value_loadingChanges]
      cases state.findTab id with
      | none => exact ⟨_, rfl⟩
      | some tab =>
        simp only
        split <;> exact ⟨_, rfl⟩
    | loadRequest request =>
      simp only [before, value_loadRequested]
      cases state.findTab id <;> exact ⟨_, rfl⟩
    | url value =>
      rw [sinks_before_commit]
      cases t.chains.chain? id with
      | none => exact ⟨_, rfl⟩
      | some c =>
        have hmetrics : (t.sinks.report c).value.2.metrics = t.sinks.metrics := by
          obtain ⟨adClicks, hreport⟩ := t.sinks.report_eq c
          rw [hreport]
        exact ⟨t.sinks.metrics.events, hmetrics⟩
    | title value => exact ⟨_, rfl⟩
  | download a => cases a <;> exact ⟨_, rfl⟩
  | engine a =>
    cases a with
    | link id timestamp => exact ⟨_, rfl⟩
    | kill id => exact absurd rfl (hne id)
  | tabList a => exact ⟨_, rfl⟩
  | customTabList a => exact ⟨_, rfl⟩

theorem value_after (state : BrowserState) (a : BrowserAction) (t : Telemetry) :
    (after state a t).value =
      if countsTabs a then { t with sinks := (t.sinks.openTabsChanged state.normalCount).value }
      else t := by
  unfold after
  split <;> rfl

theorem adClicks_after (state : BrowserState) (a : BrowserAction) (t : Telemetry) :
    (after state a t).value.sinks.database.adClicks = t.sinks.database.adClicks ∧
      (after state a t).value.sinks.ads = t.sinks.ads := by
  rw [value_after]
  split
  · obtain ⟨_, _, hpersist⟩ := t.sinks.persist_eq state.normalCount
    simp [Sinks.value_openTabsChanged, Sinks.value_track, hpersist]
  · exact ⟨rfl, rfl⟩

theorem metrics_after (state : BrowserState) (a : BrowserAction) (t : Telemetry) :
    ∃ events, (after state a t).value.sinks.metrics = { t.sinks.metrics with events } := by
  rw [value_after]
  split
  · obtain ⟨_, _, hpersist⟩ := t.sinks.persist_eq state.normalCount
    simp only [Sinks.value_openTabsChanged, Sinks.value_track, hpersist]
    exact ⟨_, rfl⟩
  · exact ⟨_, rfl⟩

end Telemetry

end BrowserTelemetry
