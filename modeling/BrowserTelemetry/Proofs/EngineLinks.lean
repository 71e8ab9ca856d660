import BrowserTelemetry.Proofs.SessionLookup

/-!
# Engines come and go

An engine is told by the time at which it was linked to a session. A kill takes it off the session
that is found under the id, the tab before the custom tab, and no other (`reduce_kill`).

From then on the id names no session with an engine, and `Renews` lists what can change that: an
engine is linked, or another session takes the place, one that is added or one that comes to light
behind a tab that is removed. **Every other action keeps it so** (`Unlinked.reduce`).
-/

namespace BrowserTelemetry
namespace BrowserState

set_option autoImplicit false

variable {s : BrowserState} {t : Session} {id : String}

theorem findSession_reduce_kill (s : BrowserState) (id : String) :
    (s.reduce (.engine (.kill id))).findSession id =
      (s.findSession id).map fun t => { t with engine := ⟨none⟩ } := by
  have hid : ∀ t : Session, ({ t with engine := ⟨none⟩ } : Session).id = t.id := fun _ => rfl
  exact (findSession_updateSession s hid).trans (if_pos rfl)

/-- A kill takes the engine off the session that is found under its id, which is then found without
    one. -/
theorem reduce_kill (h : s.findSession id = some t) :
    s.Replaces (s.reduce (.engine (.kill id))) t { t with engine := ⟨none⟩ } ∧
      (s.reduce (.engine (.kill id))).findSession id = some { t with engine := ⟨none⟩ } := by
  refine ⟨updateSession_of_findSession h, ?_⟩
  rw [findSession_reduce_kill, h]
  rfl

/-! ## Until an id has an engine again -/

/-- What can give an id a session with an engine. -/
inductive Renews (id : String) : BrowserState → BrowserAction → Prop
  /-- An engine is linked to it. -/
  | link (s : BrowserState) (timestamp : Int64) : Renews id s (.engine (.link id timestamp))
  /-- A tab of the id is added. -/
  | addTab {s : BrowserState} {a : TabListAction} {tab : Session} (hnew : s.findTab id = none)
      (hbrings : tab ∈ a.brings) (hid : tab.id = id) : Renews id s (.tabList a)
  /-- A custom tab of the id is added. -/
  | addCustomTab {s : BrowserState} {tab : Session} (hnew : s.findSession id = none)
      (hid : tab.id = id) : Renews id s (.customTabList (.add tab))
  /-- The tab of the id is removed, and a custom tab of the id appears behind it. -/
  | uncover {s : BrowserState} {a : TabListAction} {t u : Session} (htab : s.findTab id = some t)
      (hgone : a.keeps t = false) (hcustom : s.findCustomTab id = some u) : Renews id s (.tabList a)

/-- The id names no session that has an engine. -/
def Unlinked (s : BrowserState) (id : String) : Prop :=
  ∀ t, s.findSession id = some t → t.engine.linkedAt = none

theorem Unlinked.of_findSession {s' : BrowserState} (h : s.Unlinked id)
    (hsame : s'.findSession id = s.findSession id) : s'.Unlinked id :=
  fun t ht => h t (hsame ▸ ht)

theorem Unlinked.of_none (h : s.findSession id = none) : s.Unlinked id :=
  fun t ht => absurd (h ▸ ht) (by simp)

theorem Unlinked.updateSession (h : s.Unlinked id) {j : String} {f : Session → Session}
    (hf : ∀ t, (f t).id = t.id)
    (hengine : j = id → ∀ t, t.engine.linkedAt = none → (f t).engine.linkedAt = none) :
    (s.updateSession j f).Unlinked id := by
  intro t ht
  rw [findSession_updateSession s hf] at ht
  split at ht
  · rename_i hj
    obtain ⟨u, hu, rfl⟩ := Option.map_eq_some_iff.1 ht
    exact hengine hj.symm u (h u hu)
  · exact h t ht

theorem unlinked_kill (s : BrowserState) (id : String) :
    (s.reduce (.engine (.kill id))).Unlinked id := by
  intro t ht
  rw [findSession_reduce_kill] at ht
  obtain ⟨u, -, rfl⟩ := Option.map_eq_some_iff.1 ht
  rfl

theorem Unlinked.reduceTabList (hwf : s.WellFormed) (h : s.Unlinked id) (a : TabListAction)
    (hno : ¬ Renews id s (.tabList a)) : (s.reduceTabList a).Unlinked id := by
  have hcustom : (s.reduceTabList a).findCustomTab id = s.findCustomTab id := by
    rw [findCustomTab, customTabs_reduceTabList, findCustomTab]
  have htab : (s.reduceTabList a).findTab id =
      ((s.findTab id).filter a.keeps).or (findIn a.brings id) :=
    findTab_reduceTabList hwf.ids_nodup a
  cases hfound : s.findTab id with
  | none =>
    -- Whatever tabs the action brings, none of them has the id.
    have hbrings : findIn a.brings id = none := by
      rw [Option.eq_none_iff_forall_ne_some]
      intro tab hmem
      exact hno (.addTab hfound (List.mem_of_find?_eq_some hmem) (id_of_findIn hmem))
    refine h.of_findSession ?_
    rw [findSession, findSession, htab, hcustom, hfound, hbrings]
    rfl
  | some t =>
    by_cases hkeeps : a.keeps t = true
    · refine h.of_findSession ?_
      rw [findSession, findSession, htab, hcustom, hfound, Option.filter_some, if_pos hkeeps]
      rfl
    · -- The tab is gone, and no other one comes; a custom tab behind it would appear.
      have hgone : a.keeps t = false := by simpa using hkeeps
      refine .of_none ?_
      rw [findSession, htab, hcustom, hfound, Option.filter_some, if_neg hkeeps,
        TabListAction.brings_eq_nil hgone]
      refine Option.eq_none_iff_forall_ne_some.2 ?_
      intro u hu
      exact hno (.uncover hfound hgone hu)

theorem Unlinked.reduceCustomTabList (h : s.Unlinked id) (a : CustomTabListAction)
    (hno : ¬ Renews id s (.customTabList a)) : (s.reduceCustomTabList a).Unlinked id := by
  intro t ht
  rw [findSession, findTab_reduceCustomTabList, findCustomTab_reduceCustomTabList] at ht
  rcases Option.or_eq_some_iff.1 ht with htab | ⟨hnone, hfound⟩
  · -- A tab stands before all custom tabs.
    exact h t (Option.or_eq_some_iff.2 (.inl htab))
  · cases a with
    | add tab =>
      rcases Option.or_eq_some_iff.1 hfound with hold | ⟨hnew, hadded⟩
      · exact h t (Option.or_eq_some_iff.2 (.inr ⟨hnone, hold⟩))
      · have hid : tab.id = id :=
          Decidable.byContradiction fun hid => absurd hadded (by simp [hid])
        exact absurd (.addCustomTab (Option.or_eq_none_iff.2 ⟨hnone, hnew⟩) hid) hno
    | remove j =>
      have hold : s.findCustomTab id = some t := by
        by_cases hid : id = j
        · exact absurd hfound (by simp [hid])
        · simpa [hid] using hfound
      exact h t (Option.or_eq_some_iff.2 (.inr ⟨hnone, hold⟩))

/-- **After a kill its id has no engine until something gives it one.** -/
theorem Unlinked.reduce (hwf : s.WellFormed) (h : s.Unlinked id) {a : BrowserAction}
    (hno : ¬ Renews id s a) : (s.reduce a).Unlinked id := by
  cases a with
  | content a => exact h.updateSession (fun _ => rfl) fun _ t ht => ht
  | download a => cases a <;> exact h.of_findSession rfl
  | engine a =>
    cases a with
    | link j timestamp =>
      refine h.updateSession (fun _ => rfl) fun hj => ?_
      subst hj
      exact absurd (.link s timestamp) hno
    | kill j => exact h.updateSession (fun _ => rfl) fun _ _ _ => rfl
  | tabList a => exact h.reduceTabList hwf a hno
  | customTabList a => exact h.reduceCustomTabList a hno

end BrowserState
end BrowserTelemetry
