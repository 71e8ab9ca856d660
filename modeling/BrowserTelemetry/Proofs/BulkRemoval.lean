import BrowserTelemetry.Proofs.TabRemoval

/-!
# Removing all tabs of a mode

To remove all tabs of a mode at once, and to remove them one by one, are written differently: the
one drops a selection that is gone, the other passes it on to an heir each time. They come to the
same because **a selection never leaves the mode while it is passed on** (`withoutMode_removeTab`):
whoever inherits it is of the mode too, and goes later. When the last one goes nobody is left to
inherit.

The order does not matter, for each removal leaves what the bulk removal would make of the state.
-/

namespace BrowserTelemetry
namespace BrowserState

set_option autoImplicit false

variable {s : BrowserState} {l : List Session} {t u : Session} {id : String} {mode : Bool}

/-- The action that removes one tab. -/
def removal (id : String) : BrowserAction := .tabList (.remove id)

/-- The ids of the tabs of a mode. -/
def idsOf (s : BrowserState) (mode : Bool) : List String :=
  (s.tabs.filter fun t => t.isPrivate = mode).map Session.id

/-- The state without the tabs of a mode. -/
def withoutMode (s : BrowserState) (mode : Bool) : BrowserState :=
  s.keepTabs fun t => t.isPrivate ≠ mode

theorem mem_idsOf : id ∈ s.idsOf mode ↔ ∃ t ∈ s.tabs, t.isPrivate = mode ∧ t.id = id := by
  simp [idsOf, and_assoc]

theorem reduce_removeAllNormal (s : BrowserState) :
    s.reduce (.tabList .removeAllNormal) = s.withoutMode false := by
  simp only [reduce, reduceTabList, withoutMode]
  congr
  funext t
  cases t.isPrivate <;> rfl

theorem reduce_removeAllPrivate (s : BrowserState) :
    s.reduce (.tabList .removeAllPrivate) = s.withoutMode true := by
  simp only [reduce, reduceTabList, withoutMode]
  congr
  funext t
  cases t.isPrivate <;> rfl

/-! ## One by one -/

/-- Under distinct ids a tab that is not kept is not found among those that are. -/
theorem findIn_filter_of_not_keep {keep : Session → Bool} (h : (l.map Session.id).Nodup)
    (ht : t ∈ l) (hkeep : keep t = false) : findIn (l.filter keep) t.id = none := by
  rw [findIn_filter h, (findIn_eq_some_iff h).2 ⟨ht, rfl⟩, Option.filter_some,
    if_neg (by simp [hkeep])]

/-- Where no tab of the mode is, there is nothing to remove and no selection to drop. -/
theorem withoutMode_of_idsOf_eq_nil (h : s.WellFormed) (hnone : s.idsOf mode = []) :
    s.withoutMode mode = s := by
  have htabs : s.tabs.filter (fun t => t.isPrivate ≠ mode) = s.tabs := by
    rw [List.filter_eq_self]
    intro t ht
    have hmode := List.filter_eq_nil_iff.1 (List.map_eq_nil_iff.1 hnone) t ht
    simpa using hmode
  have hselected : s.selected.filter (fun id => (findIn s.tabs id).isSome) = s.selected := by
    cases hselected : s.selected with
    | none => rfl
    | some id => exact if_pos (findIn_isSome_iff.2 (h.selected_mem id hselected))
  rw [withoutMode, keepTabs, htabs, hselected]

/-- Under distinct ids the tab that goes is of the mode, and so is the one that comes forward. -/
theorem removeTab_of_mem_idsOf (h : s.WellFormed) (hid : id ∈ s.idsOf mode) :
    ∃ before t after, s.tabs = before ++ t :: after ∧ t.id = id ∧ t.isPrivate = mode ∧
      s.removeTab id =
        { s with
          tabs := before ++ after
          selected := if s.selected = some id then heir before after mode else s.selected } := by
  obtain ⟨u, hu, rfl, rfl⟩ := mem_idsOf.1 hid
  obtain ⟨before, t, after, htabs, htu, -, hremove⟩ := removeTab_of_mem (List.mem_map_of_mem hu)
  obtain rfl : t = u := List.inj_on_of_nodup_map h.ids_nodup (by simp [htabs]) hu htu
  exact ⟨before, t, after, htabs, rfl, rfl, hremove⟩

/-- **A removal is swallowed by the bulk removal after it.** -/
theorem withoutMode_removeTab (h : s.WellFormed) (hid : id ∈ s.idsOf mode) :
    (s.removeTab id).withoutMode mode = s.withoutMode mode := by
  obtain ⟨before, t, after, htabs, rfl, hmode, hremove⟩ := removeTab_of_mem_idsOf h hid
  have hkept : (before ++ after).filter (fun u => u.isPrivate ≠ mode) =
      s.tabs.filter fun u => u.isPrivate ≠ mode := by
    simp [htabs, hmode]
  -- A selection in the mode is dropped, be it that of the tab or that of its heir.
  have hdropped : ∀ u ∈ before ++ t :: after, u.isPrivate = mode →
      findIn (s.tabs.filter fun u => u.isPrivate ≠ mode) u.id = none := by
    intro u hu humode
    exact findIn_filter_of_not_keep h.ids_nodup (htabs ▸ hu) (by simpa using humode)
  rw [hremove, withoutMode, withoutMode, keepTabs, keepTabs]
  simp only [hkept]
  congr 1
  by_cases hselected : s.selected = some t.id
  · have hheir : (heir before after mode).filter (fun id =>
        (findIn (s.tabs.filter fun u => u.isPrivate ≠ mode) id).isSome) = none := by
      rw [Option.filter_eq_none_iff]
      intro j hj
      obtain ⟨u, hu, rfl, humode⟩ := of_heir hj
      have hstays : u ∈ before ++ t :: after :=
        List.mem_append.2 ((List.mem_append.1 hu).imp_right (List.mem_cons_of_mem t))
      rw [hdropped u hstays humode]
      exact Bool.false_ne_true
    rw [if_pos hselected, hheir, hselected, Option.filter_some, hdropped t (by simp) hmode]
    rfl
  · rw [if_neg hselected]

/-- A removal leaves the other ids of the mode. -/
theorem perm_idsOf_removeTab (h : s.WellFormed) (hid : id ∈ s.idsOf mode) :
    (s.idsOf mode).Perm (id :: (s.removeTab id).idsOf mode) := by
  obtain ⟨before, t, after, htabs, rfl, hmode, hremove⟩ := removeTab_of_mem_idsOf h hid
  have hperm : ((before ++ t :: after).filter fun u => u.isPrivate = mode).Perm
      (t :: (before ++ after).filter fun u => u.isPrivate = mode) := by
    rw [← List.filter_cons_of_pos (by simpa using hmode)]
    exact List.perm_middle.filter _
  simp only [idsOf, hremove, htabs]
  exact hperm.map Session.id

/-- The tabs of a mode, removed one by one in any order. -/
theorem reduceAll_removals (h : s.WellFormed) {ids : List String} (hids : ids.Perm (s.idsOf mode)) :
    s.reduceAll (ids.map removal) = s.withoutMode mode := by
  induction ids generalizing s with
  | nil => exact (withoutMode_of_idsOf_eq_nil h (List.nil_perm.1 hids)).symm
  | cons id rest ih =>
    have hid : id ∈ s.idsOf mode := hids.subset List.mem_cons_self
    have hrest : rest.Perm ((s.removeTab id).idsOf mode) :=
      (hids.trans (perm_idsOf_removeTab h hid)).cons_inv
    calc s.reduceAll ((id :: rest).map removal)
        = (s.removeTab id).reduceAll (rest.map removal) := rfl
      _ = (s.removeTab id).withoutMode mode := ih (h.removeTab id) hrest
      _ = s.withoutMode mode := withoutMode_removeTab h hid

/-! ## Both modes -/

/-- What is left of a state without tabs of either mode. -/
theorem withoutMode_withoutMode (s : BrowserState) {mode other : Bool} (hne : mode ≠ other) :
    (s.withoutMode mode).withoutMode other = { s with tabs := [], selected := none } := by
  have htabs : (s.tabs.filter fun t => t.isPrivate ≠ mode).filter (fun t => t.isPrivate ≠ other) =
      [] := by
    rw [List.filter_filter, List.filter_eq_nil_iff]
    intro t _
    cases mode <;> cases other <;> cases t.isPrivate <;> simp_all
  simp only [withoutMode, keepTabs, htabs]
  congr 1
  rw [Option.filter_eq_none_iff]
  exact fun _ _ => Bool.false_ne_true

/-- **Removing all tabs of a mode, at once and one by one.** In every state that actions lead to
    from the empty one, to remove all normal tabs is to remove each normal tab by its id, in any
    order; and so for the private tabs. In every state at all, to remove all tabs is to remove those
    of one mode and then those of the other. -/
theorem removeAll_one_by_one :
    (∀ (actions : List BrowserAction) (ids : List String),
      let s := empty.reduceAll actions
      (ids.Perm (s.normalTabs.map Session.id) →
        s.reduceAll (ids.map removal) = s.reduce (.tabList .removeAllNormal)) ∧
      (ids.Perm ((s.tabs.filter Session.isPrivate).map Session.id) →
        s.reduceAll (ids.map removal) = s.reduce (.tabList .removeAllPrivate))) ∧
    ∀ s : BrowserState,
      s.reduce (.tabList .removeAll) =
        (s.reduce (.tabList .removeAllNormal)).reduce (.tabList .removeAllPrivate) ∧
      s.reduce (.tabList .removeAll) =
        (s.reduce (.tabList .removeAllPrivate)).reduce (.tabList .removeAllNormal) := by
  refine ⟨fun actions ids => ⟨fun hids => ?_, fun hids => ?_⟩, fun s => ⟨?_, ?_⟩⟩
  · rw [reduce_removeAllNormal]
    refine reduceAll_removals (wellFormed_empty.reduceAll actions) ?_
    simpa [idsOf, normalTabs] using hids
  · rw [reduce_removeAllPrivate]
    refine reduceAll_removals (wellFormed_empty.reduceAll actions) ?_
    simpa [idsOf] using hids
  · rw [reduce_removeAllNormal, reduce_removeAllPrivate, withoutMode_withoutMode s (by decide)]
    rfl
  · rw [reduce_removeAllNormal, reduce_removeAllPrivate, withoutMode_withoutMode s (by decide)]
    rfl

/-- From the last tab to the first, the selected one in between, and a custom tab under one of the
    ids. -/
theorem removeAll_one_by_one_backwards :
    let tab := fun id isPrivate => Session.fresh id "https://a.test" isPrivate .epoch
    let s := empty.reduceAll
      [.tabList (.addMultiple [tab "a" false, tab "p" true, tab "b" false, tab "c" false]),
        .customTabList (.add (tab "a" false)), .tabList (.select "b")]
    ["c", "b", "a"].Perm (s.normalTabs.map Session.id) ∧
    s.reduceAll (["c", "b", "a"].map removal) = s.reduce (.tabList .removeAllNormal) ∧
    ["p"].Perm ((s.tabs.filter Session.isPrivate).map Session.id) ∧
    s.reduceAll (["p"].map removal) = s.reduce (.tabList .removeAllPrivate) := by
  intro tab s
  have hnormal : ["c", "b", "a"].Perm (s.normalTabs.map Session.id) := by decide
  have hprivate : ["p"].Perm ((s.tabs.filter Session.isPrivate).map Session.id) := by decide
  exact ⟨hnormal, (removeAll_one_by_one.1 _ _).1 hnormal, hprivate,
    (removeAll_one_by_one.1 _ _).2 hprivate⟩

end BrowserState
end BrowserTelemetry
