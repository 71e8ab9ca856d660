import BrowserTelemetry.Proofs.OpenChains
import BrowserTelemetry.Proofs.SessionLookup

/-!
# Pages that are loaded

A page counts as loaded when its tab is reported to be no longer loading, and it was loading until
then, and it is not private. What it was is looked up **in the state that the report finds**, and
among the tabs alone; the report itself is then written to whatever session the id names.

That a load is not counted twice rests on one property of the state, that the tab of an id, if there
is one, is not loading (`BrowserState.Settled`). A report that a page is loaded brings it about, and
`BrowserAction.MayLoad` lists what can end it. Every other action keeps it (`Settled.reduce`), which
needs distinct ids: else a tab of the same id might come to light behind one that is removed.
-/

namespace BrowserTelemetry

set_option autoImplicit false

/-! ## Loads in a history -/

/-- The session whose page an action reports to be loaded, if that is to be counted. -/
def Seen.loaded? : Seen → Option String
  | (s, .content ⟨id, .loading false⟩) =>
    (s.findTab id).bind fun t => if t.content.loading && !t.isPrivate then some id else none
  | _ => none

/-- The actions by which the tab of an id can come to be loading: it is reported to be, or a tab of
    the id is brought. -/
inductive BrowserAction.MayLoad (id : String) : BrowserAction → Prop
  | loading : MayLoad id (.content ⟨id, .loading true⟩)
  | add {tab : Session} {select : Bool} (hid : tab.id = id) :
      MayLoad id (.tabList (.add tab select))
  | addMultiple {tabs : List Session} {tab : Session} (htab : tab ∈ tabs) (hid : tab.id = id) :
      MayLoad id (.tabList (.addMultiple tabs))
  | restore {tabs : List Session} {selected : Option String} {tab : Session} (htab : tab ∈ tabs)
      (hid : tab.id = id) : MayLoad id (.tabList (.restore tabs selected))

theorem BrowserAction.MayLoad.of_brings {id : String} {a : TabListAction} {tab : Session}
    (htab : tab ∈ a.brings) (hid : tab.id = id) : MayLoad id (.tabList a) := by
  cases a with
  | add t select =>
    obtain rfl := List.mem_singleton.1 htab
    exact .add hid
  | addMultiple tabs => exact .addMultiple htab hid
  | restore tabs selected => exact .restore htab hid
  | select j => exact absurd htab List.not_mem_nil
  | remove j => exact absurd htab List.not_mem_nil
  | removeAllNormal => exact absurd htab List.not_mem_nil
  | removeAllPrivate => exact absurd htab List.not_mem_nil
  | removeAll => exact absurd htab List.not_mem_nil

namespace BrowserState

variable {s : BrowserState} {id : String}

/-- The tab of an id, if there is one, is not loading. -/
def Settled (s : BrowserState) (id : String) : Prop :=
  ∀ t, s.findTab id = some t → t.content.loading = false

theorem Settled.of_findTab {s' : BrowserState} (h : s.Settled id)
    (hsame : s'.findTab id = s.findTab id) : s'.Settled id :=
  fun t ht => h t (hsame ▸ ht)

theorem Settled.updateSession (h : s.Settled id) {j : String} {f : Session → Session}
    (hf : ∀ t, (f t).id = t.id)
    (hloading : j = id → ∀ t, t.content.loading = false → (f t).content.loading = false) :
    (s.updateSession j f).Settled id := by
  intro t ht
  rw [findTab_updateSession s hf] at ht
  split at ht
  · rename_i hj
    obtain ⟨u, hu, rfl⟩ := Option.map_eq_some_iff.1 ht
    exact hloading hj.symm u (h u hu)
  · exact h t ht

/-- A report that a page is no longer loading is true afterwards. -/
theorem settled_loading (s : BrowserState) (id : String) :
    (s.reduce (.content ⟨id, .loading false⟩)).Settled id := by
  intro t ht
  have hid : ∀ t : Session,
      ({ t with content := (ContentChange.loading false).apply t.content } : Session).id = t.id :=
    fun _ => rfl
  rw [reduce, reduceContent, findTab_updateSession s hid, if_pos rfl] at ht
  obtain ⟨u, -, rfl⟩ := Option.map_eq_some_iff.1 ht
  rfl

theorem Settled.reduceTabList (hnodup : (s.tabs.map Session.id).Nodup) (h : s.Settled id)
    {a : TabListAction} (hno : ¬ BrowserAction.MayLoad id (.tabList a)) :
    (s.reduceTabList a).Settled id := by
  intro t ht
  rw [findTab_reduceTabList hnodup] at ht
  rcases Option.or_eq_some_iff.1 ht with hkept | ⟨-, hbrought⟩
  · exact h t (Option.filter_eq_some_iff.1 hkept).1
  · exact absurd (.of_brings (List.mem_of_find?_eq_some hbrought) (id_of_findIn hbrought)) hno

/-- **A tab that is not loading stays so until it is reported to be or is brought anew.** -/
theorem Settled.reduce (hnodup : (s.tabs.map Session.id).Nodup) (h : s.Settled id)
    {a : BrowserAction} (hno : ¬ a.MayLoad id) : (s.reduce a).Settled id := by
  cases a with
  | content a =>
    obtain ⟨j, change⟩ := a
    refine h.updateSession (fun _ => rfl) fun hj t ht => ?_
    subst hj
    cases change with
    | loading value =>
      cases value with
      | true => exact absurd .loading hno
      | false => rfl
    | loadRequest request => exact ht
    | url value => exact ht
    | title value => exact ht
  | download a => cases a <;> exact h.of_findTab rfl
  | engine a => cases a <;> exact h.updateSession (fun _ => rfl) fun _ _ ht => ht
  | tabList a => exact h.reduceTabList hnodup hno
  | customTabList a => exact h.of_findTab (findTab_reduceCustomTabList s a)

end BrowserState

theorem Seen.eq_of_loaded? {e : Seen} {id : String} (h : e.loaded? = some id) :
    e.2 = .content ⟨id, .loading false⟩ ∧ ¬ e.1.Settled id := by
  unfold Seen.loaded? at h
  split at h
  · rename_i s j
    obtain ⟨t, ht, hcond⟩ := Option.bind_eq_some_iff.1 h
    split at hcond
    · rename_i hloading
      obtain rfl := Option.some.inj hcond
      refine ⟨rfl, fun hsettled => ?_⟩
      rw [hsettled t ht] at hloading
      exact absurd hloading (by simp)
    · exact absurd hcond nofun
  · exact absurd h nofun

/-- Between two loads of a page that count, the page began to load or its tab was brought. -/
theorem mayLoad_between {s : BrowserState} (hs : (s.tabs.map Session.id).Nodup)
    {actions : List BrowserAction} {id : String} {n m : Nat} (hlt : n < m) {e e' : Seen}
    (hn : (history s actions)[n]? = some e) (he : e.loaded? = some id)
    (hm : (history s actions)[m]? = some e') (he' : e'.loaded? = some id) :
    ∃ k f, n < k ∧ k < m ∧ (history s actions)[k]? = some f ∧ f.2.MayLoad id := by
  obtain ⟨haction, -⟩ := Seen.eq_of_loaded? he
  obtain ⟨-, hloading⟩ := Seen.eq_of_loaded? he'
  have hnodup : (e.1.tabs.map Session.id).Nodup := by
    rw [getElem?_history] at hn
    obtain ⟨a, -, rfl⟩ := Option.map_eq_some_iff.1 hn
    exact BrowserState.nodup_ids_reduceAll hs _
  have hafter : ((e.1.reduce e.2).tabs.map Session.id).Nodup ∧ (e.1.reduce e.2).Settled id := by
    refine ⟨BrowserState.nodup_ids_reduce hnodup e.2, ?_⟩
    rw [haction]
    exact e.1.settled_loading id
  refine (holds_or_between (fun s => (s.tabs.map Session.id).Nodup ∧ s.Settled id)
    (fun _ a => a.MayLoad id) ?_ hlt hn hafter hm).resolve_left ?_
  · rintro t a ⟨hnodup, hsettled⟩ hno
    exact ⟨BrowserState.nodup_ids_reduce hnodup a, hsettled.reduce hnodup hno⟩
  · exact fun h => hloading h.2

/-! ## The count -/

namespace Telemetry

/-- Before an action a load is counted as the history says. -/
theorem uriOpened_before (state : BrowserState) (a : BrowserAction) (t : Telemetry) :
    (before state a t).value.sinks.metrics.eventCount .uriOpened =
      t.sinks.metrics.eventCount .uriOpened +
        if (Seen.loaded? (state, a)).isSome = true then 1 else 0 := by
  cases a with
  | content a =>
    obtain ⟨id, change⟩ := a
    cases change with
    | loading value =>
      simp only [before, value_loadingChanges]
      cases htab : state.findTab id with
      | none => cases value <;> simp [Seen.loaded?, htab]
      | some tab =>
        cases value with
        | true => simp [Seen.loaded?]
        | false =>
          have hloaded : Seen.loaded? (state, .content ⟨id, .loading false⟩) =
              if tab.content.loading && !tab.isPrivate then some id else none := by
            rw [Seen.loaded?, htab]
            rfl
          simp only [hloaded, Bool.not_false, Bool.and_true]
          split
          · exact Metrics.eventCount_countEvent _ _ _
          · rfl
    | loadRequest request =>
      simp only [before, value_loadRequested]
      cases state.findTab id <;> rfl
    | url value =>
      rw [sinks_before_commit]
      cases t.chains.chain? id with
      | none => rfl
      | some c =>
        obtain ⟨adClicks, hreport⟩ := t.sinks.report_eq c
        simp only [hreport]
        rfl
    | title value => rfl
  | download a =>
    cases a with
    | add download => exact Metrics.eventCount_countEvent _ _ _
    | remove id => rfl
  | engine a =>
    cases a with
    | link id timestamp => rfl
    | kill id =>
      simp only [before, value_onSinks, Sinks.value_engineKilled]
      cases state.findSession id with
      | none => rfl
      | some tab =>
        simp only [Sinks.recordKill]
        cases t.sinks.engineAge tab with
        | none => rfl
        | some nanos => cases KillLabel.ofSelected (state.selected = some tab.id) <;> rfl
  | tabList a => rfl
  | customTabList a => rfl

/-- After an action no load is counted. -/
theorem uriOpened_after (state : BrowserState) (a : BrowserAction) (t : Telemetry) :
    (after state a t).value.sinks.metrics.eventCount .uriOpened =
      t.sinks.metrics.eventCount .uriOpened := by
  rw [value_after]
  split
  · obtain ⟨openTabs, settings, hpersist⟩ := t.sinks.persist_eq state.normalCount
    simp only [Sinks.value_openTabsChanged, Sinks.value_track, hpersist,
      Metrics.eventCount_countEvent]
    split <;> simp
  · rfl

end Telemetry

namespace Store

theorem uriOpened_play (s : Store Telemetry) (p : Turn) :
    (play [Telemetry.middleware] s p).value.env.sinks.metrics.eventCount .uriOpened =
      s.env.sinks.metrics.eventCount .uriOpened +
        if (Seen.loaded? (s.state, p.action)).isSome = true then 1 else 0 := by
  unfold play Telemetry.middleware
  rw [value_dispatch_around, Telemetry.uriOpened_after, Telemetry.uriOpened_before]
  rfl

theorem uriOpened_playAll (s : Store Telemetry) (ps : List Turn) :
    (playAll [Telemetry.middleware] s ps).value.env.sinks.metrics.eventCount .uriOpened =
      s.env.sinks.metrics.eventCount .uriOpened +
        (history s.state (ps.map Turn.action)).countP fun e => e.loaded?.isSome := by
  induction ps using List.reverseRecOn with
  | nil => rfl
  | append_singleton ps p ih =>
    have hstate : (playAll [Telemetry.middleware] s ps).value.state =
        s.state.reduceAll (ps.map Turn.action) := state_playAll_around _ _ _ _
    rw [value_playAll_concat, uriOpened_play, hstate, ih, List.map_append, List.map_singleton,
      history_concat, List.countP_append, Nat.add_assoc, List.countP_singleton]

/-- **A page load is counted once.** In a run from any state the count of loaded pages grows by the
    number of reports that the page of a session is no longer loading which find a tab of that id
    that was loading and is not private. Nothing else adds to it.

    If the tabs had distinct ids at the beginning, then between two such reports for one id there
    was a report that its page is loading, or a tab of the id was added or restored. -/
theorem uriOpened_of_run (s : Store Telemetry) (ps : List Turn) :
    let h := history s.state (ps.map Turn.action)
    (playAll [Telemetry.middleware] s ps).value.env.sinks.metrics.eventCount .uriOpened =
        s.env.sinks.metrics.eventCount .uriOpened + h.countP (fun e => e.loaded?.isSome) ∧
    ((s.state.tabs.map Session.id).Nodup →
      ∀ (n m : Nat) (id : String) (e e' : Seen), n < m → h[n]? = some e → e.loaded? = some id →
        h[m]? = some e' → e'.loaded? = some id →
        ∃ k f, n < k ∧ k < m ∧ h[k]? = some f ∧ f.2.MayLoad id) := by
  intro h
  refine ⟨uriOpened_playAll s ps, ?_⟩
  intro hs n m id e e' hlt hn he hm he'
  exact mayLoad_between hs hlt hn he hm he'

/-- The second of two reports in a row does not count, nor does that of a tab that is removed; a tab
    that is restored while it was loading is loaded once more. -/
theorem uriOpened_of_run_restored :
    let tab := Session.fresh "a" "https://a.test" false .epoch
    let loading := { tab with content := { tab.content with loading := true } }
    let loaded : BrowserAction := .content ⟨"a", .loading false⟩
    let actions : List BrowserAction := [.tabList (.add loading true), loaded, loaded,
      .tabList (.remove "a"), loaded, .tabList (.restore [loading] none), loaded]
    let t : Telemetry := ⟨⟨Database.blank, .unknown, .empty, ⟨0⟩, .refuse, []⟩, .empty⟩
    let turns := actions.map (Turn.mk ⟨0⟩ id)
    (playAll [Telemetry.middleware] ⟨.empty, t⟩ turns).value.env.sinks.metrics.eventCount
        .uriOpened = 2 ∧
      ∃ k f, 1 < k ∧ k < 6 ∧ (history .empty actions)[k]? = some f ∧ f.2.MayLoad "a" := by
  intro tab loading loaded actions t turns
  obtain ⟨hcount, hbetween⟩ := uriOpened_of_run ⟨.empty, t⟩ turns
  refine ⟨hcount.trans rfl, ?_⟩
  exact hbetween .nil 1 6 "a" _ _ (by decide) rfl rfl rfl rfl

end Store

end BrowserTelemetry
