import BrowserTelemetry.Proofs.SessionLists

/-!
# The invariant of the state

Three things hold of every state that actions lead to, from the empty one on: **no two tabs share an
id**, **the selection names a tab**, and **a download is kept under its own id**. None of the three
is in the type of the state, and the selection is the one that is easily lost: whatever removes tabs
has to repair it.

There is one lemma for each group of actions; the one for all actions only dispatches on the group,
and the one for runs is an induction over the actions.
-/

namespace BrowserTelemetry
namespace BrowserState

set_option autoImplicit false

/-- The state after actions, one after the other. -/
def reduceAll (s : BrowserState) (actions : List BrowserAction) : BrowserState :=
  actions.foldl reduce s

@[simp] theorem reduceAll_nil (s : BrowserState) : s.reduceAll [] = s := rfl

@[simp] theorem reduceAll_cons (s : BrowserState) (a : BrowserAction) (rest : List BrowserAction) :
    s.reduceAll (a :: rest) = (s.reduce a).reduceAll rest := rfl

theorem reduceAll_append (s : BrowserState) (actions rest : List BrowserAction) :
    s.reduceAll (actions ++ rest) = (s.reduceAll actions).reduceAll rest :=
  List.foldl_append

theorem reduceAll_take_add_one {s : BrowserState} {actions : List BrowserAction} {n : Nat}
    {a : BrowserAction} (h : actions[n]? = some a) :
    s.reduceAll (actions.take (n + 1)) = (s.reduceAll (actions.take n)).reduce a := by
  rw [List.take_add_one, h, reduceAll_append]
  rfl

/-- What holds of every state that actions lead to. -/
structure WellFormed (s : BrowserState) : Prop where
  /-- No two tabs share an id. -/
  ids_nodup : (s.tabs.map Session.id).Nodup
  /-- The selection is the id of a tab; a custom tab will not do. -/
  selected_mem : ∀ id, s.selected = some id → id ∈ s.tabs.map Session.id
  /-- A download is kept under its own id. -/
  downloads_keyed : ∀ e ∈ s.downloads.toList, e.1 = e.2.id

variable {s : BrowserState}

instance (s : BrowserState) : Decidable s.WellFormed :=
  decidable_of_iff
    ((s.tabs.map Session.id).Nodup ∧ (∀ id ∈ s.selected, id ∈ s.tabs.map Session.id) ∧
      ∀ e ∈ s.downloads.toList, e.1 = e.2.id)
    ⟨fun ⟨hids, hsel, hdown⟩ => ⟨hids, hsel, hdown⟩,
      fun h => ⟨h.ids_nodup, h.selected_mem, h.downloads_keyed⟩⟩

theorem wellFormed_empty : empty.WellFormed where
  ids_nodup := List.nodup_nil
  selected_mem := by
    intro id h
    exact absurd h (by simp [empty])
  downloads_keyed := by
    intro e he
    exact absurd he (by simp [empty, SortedMap.empty, SortedMap.toList])

/-- Only the ids of the tabs, the selection and the downloads matter. -/
theorem WellFormed.congr {s' : BrowserState} (h : s.WellFormed)
    (hids : s'.tabs.map Session.id = s.tabs.map Session.id) (hsel : s'.selected = s.selected)
    (hdown : s'.downloads = s.downloads) : s'.WellFormed where
  ids_nodup := by rw [hids]; exact h.ids_nodup
  selected_mem := by rw [hids, hsel]; exact h.selected_mem
  downloads_keyed := by rw [hdown]; exact h.downloads_keyed

/-! ## Content, downloads, engines -/

/-- A change to one session that leaves its id alone. -/
theorem WellFormed.updateSession (h : s.WellFormed) (id : String) {f : Session → Session}
    (hf : ∀ t, (f t).id = t.id) : (s.updateSession id f).WellFormed :=
  h.congr (map_tabs_updateSession s hf) (selected_updateSession s f) (downloads_updateSession s f)

theorem WellFormed.reduceEngine (h : s.WellFormed) (a : EngineAction) :
    (s.reduceEngine a).WellFormed := by
  cases a with
  | link id timestamp => exact h.updateSession id fun _ => rfl
  | kill id => exact h.updateSession id fun _ => rfl

theorem WellFormed.reduceDownload (h : s.WellFormed) (a : DownloadAction) :
    (s.reduceDownload a).WellFormed := by
  cases a with
  | add download =>
    refine ⟨h.ids_nodup, h.selected_mem, ?_⟩
    intro e he
    rcases SortedMap.mem_insertEntry he with rfl | he
    · rfl
    · exact h.downloads_keyed e he
  | remove id =>
    refine ⟨h.ids_nodup, h.selected_mem, ?_⟩
    intro e he
    exact h.downloads_keyed e (List.mem_filter.1 he).1

/-! ## The list of tabs -/

/-- A state whose tabs only grew and whose selection is the old one or, if there was none, the id of
    one of its tabs. -/
theorem WellFormed.grow (h : s.WellFormed) {tabs : List Session} {selected : Option String}
    (hnodup : (tabs.map Session.id).Nodup)
    (hgrow : ∀ id ∈ s.tabs.map Session.id, id ∈ tabs.map Session.id)
    (hsel : ∀ id, selected = some id → s.selected = some id ∨ id ∈ tabs.map Session.id) :
    WellFormed { s with tabs, selected } where
  ids_nodup := hnodup
  selected_mem := by
    intro id hid
    rcases hsel id hid with hold | hnew
    · exact hgrow id (h.selected_mem id hold)
    · exact hnew
  downloads_keyed := h.downloads_keyed

theorem WellFormed.addTab (h : s.WellFormed) (tab : Session) (select : Bool) :
    (s.reduceTabList (.add tab select)).WellFormed := by
  simp only [reduceTabList]
  by_cases htab : tab.id ∈ s.tabs.map Session.id
  · rw [if_pos (hasTab_iff.2 htab)]
    exact h
  · rw [if_neg (mt hasTab_iff.1 htab), ← appendTab_of_notMem htab]
    refine h.grow (nodup_ids_appendTab h.ids_nodup) ?_ ?_
    · intro id hid
      exact mem_ids_appendTab.2 (.inl hid)
    · intro id hid
      split at hid
      · obtain rfl := Option.some.inj hid
        exact .inr (mem_ids_appendTab.2 (.inr rfl))
      · exact .inl hid

theorem WellFormed.addMultiple (h : s.WellFormed) (tabs : List Session) :
    (s.reduceTabList (.addMultiple tabs)).WellFormed := by
  refine h.grow (nodup_ids_appendTabs h.ids_nodup) ?_ ?_
  · intro id hid
    exact mem_ids_appendTabs.2 (.inl hid)
  · intro id hid
    rcases Option.or_eq_some_iff.1 hid with hold | ⟨-, hfirst⟩
    · exact .inl hold
    · -- The first of the batch is there afterwards, be it new or not.
      obtain ⟨t, ht, rfl⟩ := Option.map_eq_some_iff.1 hfirst
      exact .inr (mem_ids_appendTabs.2 (.inr (List.mem_map_of_mem (List.mem_of_head? ht))))

theorem WellFormed.restore (h : s.WellFormed) (tabs : List Session) (selected : Option String) :
    (s.reduceTabList (.restore tabs selected)).WellFormed := by
  refine h.grow (nodup_ids_appendTabs h.ids_nodup) ?_ ?_
  · intro id hid
    exact mem_ids_appendTabs.2 (.inl hid)
  · intro id hid
    rcases Option.or_eq_some_iff.1 hid with hold | ⟨-, hnamed⟩
    · exact .inl hold
    · exact .inr (findIn_isSome_iff.1 (Option.filter_eq_some_iff.1 hnamed).2)

theorem WellFormed.selectTab (h : s.WellFormed) (id : String) :
    (s.reduceTabList (.select id)).WellFormed := by
  simp only [reduceTabList]
  split
  · rename_i hid
    refine h.grow h.ids_nodup (fun _ hold => hold) ?_
    intro j hj
    obtain rfl := Option.some.inj hj
    exact .inr (hasTab_iff.1 hid)
  · exact h

theorem WellFormed.removeTab (h : s.WellFormed) (id : String) : (s.removeTab id).WellFormed := by
  by_cases hmem : id ∈ s.tabs.map Session.id
  · obtain ⟨before, removed, after, htabs, hid, -, hremove⟩ := removeTab_of_mem hmem
    rw [hremove]
    refine ⟨?_, ?_, h.downloads_keyed⟩
    · have hsub : List.Sublist (before ++ after) s.tabs := by
        rw [htabs]
        exact (List.Sublist.refl _).append (List.sublist_cons_self _ _)
      exact h.ids_nodup.sublist (hsub.map _)
    · intro j hj
      simp only at hj
      split at hj
      · obtain ⟨heir, hstays, rfl, -⟩ := of_heir hj
        exact List.mem_map_of_mem hstays
      · -- Another selection names a tab that stays: it is not the id that goes.
        rename_i hne
        have hmem := h.selected_mem j hj
        have hj' : j ≠ removed.id := by
          intro heq
          rw [hj, heq, hid] at hne
          exact hne rfl
        rw [htabs] at hmem
        simpa [hj'] using hmem
  · rw [removeTab_of_notMem hmem]
    exact h

theorem WellFormed.keepTabs (h : s.WellFormed) (keep : Session → Bool) :
    (s.keepTabs keep).WellFormed where
  ids_nodup := h.ids_nodup.sublist (List.filter_sublist.map _)
  selected_mem := by
    intro id hid
    exact findIn_isSome_iff.1 (Option.filter_eq_some_iff.1 hid).2
  downloads_keyed := h.downloads_keyed

theorem WellFormed.reduceTabList (h : s.WellFormed) (a : TabListAction) :
    (s.reduceTabList a).WellFormed := by
  cases a with
  | add tab select => exact h.addTab tab select
  | addMultiple tabs => exact h.addMultiple tabs
  | select id => exact h.selectTab id
  | remove id => exact h.removeTab id
  | removeAllNormal => exact h.keepTabs _
  | removeAllPrivate => exact h.keepTabs _
  | removeAll =>
    refine ⟨List.nodup_nil, ?_, h.downloads_keyed⟩
    intro id hid
    exact absurd hid (by simp [BrowserState.reduceTabList])
  | restore tabs selected => exact h.restore tabs selected

/-! ## All actions, and runs of them -/

/-- Every action keeps the invariant. -/
theorem WellFormed.reduce (h : s.WellFormed) (a : BrowserAction) : (s.reduce a).WellFormed := by
  cases a with
  | content a => exact h.updateSession a.sessionId fun _ => rfl
  | download a => exact h.reduceDownload a
  | engine a => exact h.reduceEngine a
  | tabList a => exact h.reduceTabList a
  | customTabList a => cases a <;> exact h.congr rfl rfl rfl

theorem WellFormed.reduceAll (h : s.WellFormed) (actions : List BrowserAction) :
    (s.reduceAll actions).WellFormed := by
  induction actions generalizing s with
  | nil => exact h
  | cons a rest ih => exact ih (h.reduce a)

/-- **The invariant.** It holds of every state that a run of actions leads to from the empty one,
    and every single action keeps it, wherever it holds. -/
theorem wellFormed_of_actions :
    (∀ actions : List BrowserAction, (empty.reduceAll actions).WellFormed) ∧
    ∀ (s : BrowserState) (a : BrowserAction), s.WellFormed → (s.reduce a).WellFormed :=
  ⟨wellFormed_empty.reduceAll, fun _ a h => h.reduce a⟩

/-- The selected tab is removed while a tab of the other mode stands next to it. -/
theorem wellFormed_of_removing_selected :
    let s := withTabs [.fresh "a" "https://a.test" false .epoch,
      .fresh "b" "https://b.test" true .epoch, .fresh "c" "https://c.test" false .epoch] (some "a")
    s.WellFormed ∧ (s.reduce (.tabList (.remove "a"))).WellFormed :=
  ⟨by decide, wellFormed_of_actions.2 _ _ (by decide)⟩

end BrowserState
end BrowserTelemetry
