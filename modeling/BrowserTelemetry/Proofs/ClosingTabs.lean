import BrowserTelemetry.Proofs.SessionLookup
import BrowserTelemetry.Proofs.Turns

/-!
# Closing a tab

A browser closes an id in two steps that look in different places: it refuses unless there is a tab
or a **custom tab** with the id, and then has the id removed from the **tabs**. For the id of a tab
the two agree. For that of a custom tab the closing is reported to have succeeded and nothing is
removed (`custom_tab_survives_closing`), and likewise a custom tab that shares the id of a tab is
left when the tab is gone.
-/

namespace BrowserTelemetry
namespace Browser

set_option autoImplicit false

variable {b : Browser} {id : String}

/-! ## The state of a browser -/

/-- Whether telemetry is enabled or not, the state goes its own way. -/
theorem state_playAll (b : Browser) (ps : List Turn) :
    (b.playAll ps).value.state = b.state.reduceAll (ps.map Turn.action) := by
  rw [value_playAll]
  unfold middleware
  split
  · exact Store.state_playAll_around _ _ _ _
  · exact Store.state_playAll_nil _ _

theorem state_dispatch (b : Browser) (a : BrowserAction) :
    (b.dispatch a).value.state = b.state.reduce a := by
  rw [value_dispatch]
  unfold middleware
  split <;> rfl

/-- No two tabs of a browser share an id, whatever it has gone through since it was built. -/
theorem nodup_ids_playAll (hempty : b.state = .empty) (ps : List Turn) :
    ((b.playAll ps).value.state.tabs.map Session.id).Nodup := by
  rw [state_playAll, hempty]
  exact (BrowserState.wellFormed_empty.reduceAll _).ids_nodup

/-! ## Closing -/

theorem closeTab_of_none (h : b.state.findSession id = none) :
    (b.closeTab id).value = (.error (.tab (.notFound id)), b) := by
  simp only [closeTab, dispatchFor, BrowserState.requireSession, h]
  rfl

theorem closeTab_of_some {t : Session} (h : b.state.findSession id = some t) :
    (b.closeTab id).value = (.ok (), (b.dispatch (.tabList (.remove id))).value) := by
  simp only [closeTab, dispatchFor, BrowserState.requireSession, h]
  rfl

theorem closeTab_eq_ok_iff :
    (b.closeTab id).value.1 = .ok () ↔ (b.state.findSession id).isSome = true := by
  cases h : b.state.findSession id with
  | none => simp [closeTab_of_none h]
  | some t => simp [closeTab_of_some h]

theorem closeTab_eq_notFound_iff :
    (b.closeTab id).value = (.error (.tab (.notFound id)), b) ↔ b.state.findSession id = none := by
  refine ⟨fun hfail => ?_, closeTab_of_none⟩
  cases h : b.state.findSession id with
  | none => rfl
  | some t => exact absurd hfail (by simp [closeTab_of_some h])

/-- What a closing that succeeds does to the state: the tab with the id is gone, and nothing
    else. -/
theorem state_closeTab (hnodup : (b.state.tabs.map Session.id).Nodup)
    (hok : (b.closeTab id).value.1 = .ok ()) :
    (b.closeTab id).value.2.state.tabs = b.state.tabs.filter (fun t => t.id ≠ id) ∧
      (b.closeTab id).value.2.state.customTabs = b.state.customTabs := by
  obtain ⟨t, ht⟩ := Option.isSome_iff_exists.1 (closeTab_eq_ok_iff.1 hok)
  rw [closeTab_of_some ht, state_dispatch]
  exact ⟨BrowserState.tabs_reduceTabList hnodup (.remove id),
    BrowserState.customTabs_reduceTabList _ _⟩

/-- After it, the id can still be that of a custom tab, and no other session's. -/
theorem findSession_closeTab (hnodup : (b.state.tabs.map Session.id).Nodup)
    (hok : (b.closeTab id).value.1 = .ok ()) :
    (b.closeTab id).value.2.state.findSession id = b.state.findCustomTab id := by
  obtain ⟨htabs, hcustom⟩ := state_closeTab hnodup hok
  have hgone : (b.closeTab id).value.2.state.findTab id = none := by
    rw [BrowserState.findTab, htabs]
    exact BrowserState.findIn_filter_ne.trans (if_pos rfl)
  rw [BrowserState.findSession, hgone, Option.none_or, BrowserState.findCustomTab, hcustom,
    BrowserState.findCustomTab]

theorem findSession_closeTab_eq_none_iff (hnodup : (b.state.tabs.map Session.id).Nodup)
    (hok : (b.closeTab id).value.1 = .ok ()) :
    (b.closeTab id).value.2.state.findSession id = none ↔
      ∀ t ∈ b.state.customTabs, t.id ≠ id := by
  rw [findSession_closeTab hnodup hok, BrowserState.findCustomTab, BrowserState.findIn_eq_none_iff]
  simp

/-- **Closing a tab.** A browser is built on any database, with telemetry or without, and has gone
    through any run. To close an id succeeds exactly if a tab or a custom tab has it. If it succeeds

    * the tabs of other ids are there as before, in their order, and all custom tabs are;
    * the id finds nothing any more, and a second closing fails, exactly if no custom tab has it.

    If it fails, the tab is reported not to be found, and the browser is as it was: its state, its
    metrics, the open chains and the database. -/
theorem closeTab_of_run {config : Config} {db : Database} {clock : Clock}
    (hbuild : (build config db clock).value = .ok b) (ps : List Turn) (id : String) :
    let b' := (b.playAll ps).value
    let closed := (b'.closeTab id).value
    (closed.1 = .ok () ↔ ∃ t ∈ b'.state.tabs ++ b'.state.customTabs, t.id = id) ∧
    (closed.1 = .ok () →
      closed.2.state.tabs = b'.state.tabs.filter (fun t => t.id ≠ id) ∧
      closed.2.state.customTabs = b'.state.customTabs ∧
      (closed.2.state.findSession id = none ↔ ∀ t ∈ b'.state.customTabs, t.id ≠ id) ∧
      ((closed.2.closeTab id).value = (.error (.tab (.notFound id)), closed.2) ↔
        ∀ t ∈ b'.state.customTabs, t.id ≠ id)) ∧
    (closed.1 ≠ .ok () → closed = (.error (.tab (.notFound id)), b')) := by
  intro b' closed
  obtain ⟨-, hempty, -⟩ := of_build hbuild
  have hnodup := nodup_ids_playAll hempty ps
  refine ⟨?_, fun hok => ?_, fun hfail => ?_⟩
  · rw [closeTab_eq_ok_iff, BrowserState.findSession_isSome_iff, List.mem_map]
  · obtain ⟨htabs, hcustom⟩ := state_closeTab hnodup hok
    have hnone := findSession_closeTab_eq_none_iff hnodup hok
    exact ⟨htabs, hcustom, hnone, closeTab_eq_notFound_iff.trans hnone⟩
  · exact closeTab_of_none (by simpa using mt closeTab_eq_ok_iff.2 hfail)

/-- A tab is closed twice while a tab of the other mode and a custom tab stand by. -/
theorem closeTab_of_run_twice :
    let tab := fun id isPrivate => Session.fresh id "https://a.test" isPrivate .epoch
    let actions : List BrowserAction :=
      [.tabList (.addMultiple [tab "a" false, tab "p" true]), .customTabList (.add (tab "c" false))]
    let ps := actions.map fun a => Turn.mk ⟨5⟩ (fun db => db) a
    let db : Database := ⟨some .empty, some .empty, none⟩
    ∃ b, (build ⟨"", true, "info", []⟩ db ⟨0⟩).value = .ok b ∧
      let closed := ((b.playAll ps).value.closeTab "a").value
      closed.1 = .ok () ∧ closed.2.state.tabs = [tab "p" true] ∧
        closed.2.state.customTabs = [tab "c" false] ∧ closed.2.state.findSession "a" = none ∧
        (closed.2.closeTab "a").value = (.error (.tab (.notFound "a")), closed.2) ∧
        ((b.playAll ps).value.closeTab "z").value =
          (.error (.tab (.notFound "z")), (b.playAll ps).value) := by
  intro tab actions ps db
  have hlist : (providers ⟨"", true, "info", []⟩ db).value = .ok [] := rfl
  obtain ⟨b, hbuild, -⟩ := build_of_providers hlist ⟨0⟩
  obtain ⟨hiff, hclosed, -⟩ := closeTab_of_run hbuild ps "a"
  obtain ⟨hmissing, -, hfail⟩ := closeTab_of_run hbuild ps "z"
  have hstate : (b.playAll ps).value.state =
      { BrowserState.empty with
        tabs := [tab "a" false, tab "p" true]
        customTabs := [tab "c" false]
        selected := some "a" } := by
    obtain rfl := Except.ok.inj hbuild
    rfl
  rw [hstate] at hiff hclosed hmissing
  have hok := hiff.2 ⟨tab "a" false, by simp, rfl⟩
  obtain ⟨htabs, hcustom, hnone, hagain⟩ := hclosed hok
  have hother : ∀ t ∈ [tab "c" false], t.id ≠ "a" := by decide
  refine ⟨b, hbuild, hok, htabs.trans (by decide), hcustom, hnone.2 hother, hagain.2 hother, ?_⟩
  refine hfail (mt hmissing.1 ?_)
  decide

/-- A custom tab is closed, without an error, and is still there; and so it is when it is closed
    again. -/
theorem custom_tab_survives_closing :
    let custom := Session.fresh "c" "https://c.test" false .epoch
    let db : Database := ⟨some .empty, some .empty, none⟩
    ∃ b, (build ⟨"", true, "info", []⟩ db ⟨0⟩).value = .ok b ∧
      let opened := (b.dispatch (.customTabList (.add custom))).value
      let closed := (opened.closeTab "c").value
      closed.1 = .ok () ∧ closed.2.state.findSession "c" = some custom ∧
        (closed.2.closeTab "c").value.1 = .ok () ∧
        (closed.2.closeTab "c").value.2.state = opened.state := by
  refine ⟨_, rfl, ?_⟩
  exact ⟨rfl, rfl, rfl, rfl⟩

end Browser
end BrowserTelemetry
