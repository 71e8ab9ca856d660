import BrowserTelemetry.Proofs.BulkRemoval

/-!
# When the selection moves

A selected tab stays selected **unless the action asks for another tab or takes this one away**.
Where nothing is selected, an action that has a tab to offer gets it selected, and no other action
selects anything.

What an action may ask for is `Demands`, what it may offer is `Offers`; neither looks at the
selection. That the selection names a tab is needed once, in `of_taken_away`: only of a tab that is
in the list can it be said that an action takes it away.
-/

namespace BrowserTelemetry
namespace BrowserState

set_option autoImplicit false

variable {s : BrowserState} {a : BrowserAction} {t : Session} {x id : String}
  {keep : Session → Bool}

/-- The action asks for the tab of an id to be selected, whatever is selected before. -/
inductive Demands (s : BrowserState) : BrowserAction → String → Prop
  | add {tab : Session} (hnew : tab.id ∉ s.tabs.map Session.id) :
      Demands s (.tabList (.add tab true)) tab.id
  | select {id : String} (hid : id ∈ s.tabs.map Session.id) : Demands s (.tabList (.select id)) id

/-- The action has a tab to be selected if nothing is. -/
inductive Offers (s : BrowserState) : BrowserAction → String → Prop
  | add {tab : Session} {select : Bool} (hnew : tab.id ∉ s.tabs.map Session.id) :
      Offers s (.tabList (.add tab select)) tab.id
  | addMultiple {first : Session} {rest : List Session} :
      Offers s (.tabList (.addMultiple (first :: rest))) first.id
  | select {id : String} (hid : id ∈ s.tabs.map Session.id) : Offers s (.tabList (.select id)) id
  | restore {tabs : List Session} {id : String}
      (hid : id ∈ (s.reduce (.tabList (.restore tabs (some id)))).tabs.map Session.id) :
      Offers s (.tabList (.restore tabs (some id))) id

/-! ## Actions that are not about the list of tabs -/

theorem frame_of_ne_tabList (s : BrowserState) (h : ∀ l, a ≠ .tabList l) :
    (s.reduce a).tabs.map Session.id = s.tabs.map Session.id ∧
      (s.reduce a).selected = s.selected := by
  cases a with
  | content a => exact ⟨map_tabs_updateSession s fun _ => rfl, selected_updateSession s _⟩
  | engine a =>
    cases a <;> exact ⟨map_tabs_updateSession s fun _ => rfl, selected_updateSession s _⟩
  | download a => cases a <;> exact ⟨rfl, rfl⟩
  | customTabList a => cases a <;> exact ⟨rfl, rfl⟩
  | tabList l => exact absurd rfl (h l)

/-! ## Removals -/

theorem selected_removeTab_of_ne (h : s.selected ≠ some id) :
    (s.removeTab id).selected = s.selected := by
  by_cases hmem : id ∈ s.tabs.map Session.id
  · obtain ⟨before, t, after, -, -, -, hremove⟩ := removeTab_of_mem hmem
    rw [hremove]
    exact if_neg h
  · rw [removeTab_of_notMem hmem]

/-- The heir of the selected tab. -/
theorem of_selected_removeTab (h : s.WellFormed) (ht : t ∈ s.tabs) (hx : s.selected = some t.id)
    (hnew : (s.removeTab t.id).selected = some id) :
    ∃ u ∈ (s.removeTab t.id).tabs, u.id = id ∧ u.isPrivate = t.isPrivate := by
  obtain ⟨before, u, after, -, -, -, hremove⟩ :=
    removeTab_of_mem_idsOf h (mem_idsOf.2 ⟨t, ht, rfl, rfl⟩)
  rw [hremove] at hnew ⊢
  exact of_heir ((if_pos hx).symm.trans hnew)

theorem selected_keepTabs_of_mem (hx : s.selected = some x)
    (h : x ∈ (s.keepTabs keep).tabs.map Session.id) : (s.keepTabs keep).selected = some x :=
  Option.filter_eq_some_iff.2 ⟨hx, findIn_isSome_iff.2 h⟩

theorem selected_keepTabs_of_notMem (hx : s.selected = some x)
    (h : x ∉ (s.keepTabs keep).tabs.map Session.id) : (s.keepTabs keep).selected = none := by
  refine Option.filter_eq_none_iff.2 fun id hid => ?_
  obtain rfl := Option.some.inj (hx.symm.trans hid)
  exact mt findIn_isSome_iff.1 h

/-! ## Where a tab is selected -/

theorem selected_of_demands (h : Demands s a id) : (s.reduce a).selected = some id := by
  cases h with
  | add hnew =>
    simp only [reduce, reduceTabList]
    rw [if_neg (mt hasTab_iff.1 hnew)]
    rfl
  | select hid =>
    simp only [reduce, reduceTabList]
    rw [if_pos (hasTab_iff.2 hid)]

/-- A change to the list of tabs that leaves the selected tab in it and asks for no other one. -/
theorem selected_reduceTabList (h : s.WellFormed) (hx : s.selected = some x) (a : TabListAction)
    (hthere : x ∈ (s.reduceTabList a).tabs.map Session.id)
    (hno : ∀ id, ¬ Demands s (.tabList a) id) : (s.reduceTabList a).selected = some x := by
  cases a with
  | add tab select =>
    simp only [reduceTabList]
    by_cases htab : tab.id ∈ s.tabs.map Session.id
    · rw [if_pos (hasTab_iff.2 htab), hx]
    · rw [if_neg (mt hasTab_iff.1 htab)]
      cases select with
      | true => exact absurd (.add htab) (hno tab.id)
      | false => simp [hx]
  | addMultiple tabs => simp [reduceTabList, hx]
  | select id =>
    simp only [reduceTabList]
    by_cases hid : id ∈ s.tabs.map Session.id
    · exact absurd (.select hid) (hno id)
    · rw [if_neg (mt hasTab_iff.1 hid), hx]
  | remove id =>
    -- The id that goes is another one, for the selected one is still there.
    have hne : x ≠ id := by
      rintro rfl
      exact notMem_ids_removeTab h.ids_nodup x hthere
    exact (selected_removeTab_of_ne (by simpa [hx] using hne)).trans hx
  | removeAllNormal | removeAllPrivate => exact selected_keepTabs_of_mem hx hthere
  | removeAll => exact absurd hthere List.not_mem_nil
  | restore tabs selected => simp [reduceTabList, hx]

theorem selected_of_not_demands (h : s.WellFormed) (hx : s.selected = some x)
    (hthere : x ∈ (s.reduce a).tabs.map Session.id) (hno : ∀ id, ¬ Demands s a id) :
    (s.reduce a).selected = some x := by
  by_cases hlist : ∃ l, a = .tabList l
  · obtain ⟨l, rfl⟩ := hlist
    exact selected_reduceTabList h hx l hthere hno
  · rw [(frame_of_ne_tabList s (not_exists.1 hlist)).2, hx]

/-- Only a change to the list of tabs takes one away, and only if it does not keep it. -/
theorem not_keeps_of_taken_away (h : s.WellFormed) (hx : x ∈ s.tabs.map Session.id)
    (hgone : x ∉ (s.reduce a).tabs.map Session.id) :
    ∃ l t, a = .tabList l ∧ t ∈ s.tabs ∧ t.id = x ∧ l.keeps t = false := by
  by_cases hlist : ∃ l, a = .tabList l
  · obtain ⟨l, rfl⟩ := hlist
    obtain ⟨t, ht, rfl⟩ := List.mem_map.1 hx
    refine ⟨l, t, rfl, ht, rfl, ?_⟩
    rw [reduce, tabs_reduceTabList h.ids_nodup, mem_ids_appendTabs, not_or] at hgone
    by_contra hkeeps
    exact hgone.1 (List.mem_map_of_mem (List.mem_filter.2 ⟨ht, by simpa using hkeeps⟩))
  · rw [(frame_of_ne_tabList s (not_exists.1 hlist)).1] at hgone
    exact absurd hx hgone

/-- Where the selected tab is taken away, whoever is selected instead stays and is of its mode. -/
theorem of_taken_away (h : s.WellFormed) (hx : s.selected = some x)
    (hgone : x ∉ (s.reduce a).tabs.map Session.id) :
    ∃ t ∈ s.tabs, t.id = x ∧ ∀ new, (s.reduce a).selected = some new →
      ∃ u ∈ s.tabs, u ∈ (s.reduce a).tabs ∧ u.id = new ∧ u.isPrivate = t.isPrivate := by
  have hmem := h.selected_mem x hx
  obtain ⟨l, t, rfl, ht, rfl, hkeeps⟩ := not_keeps_of_taken_away h hmem hgone
  cases l with
  | add | addMultiple | select | restore => exact absurd hkeeps (by simp [TabListAction.keeps])
  | remove id =>
    obtain rfl : t.id = id := by simpa [TabListAction.keeps] using hkeeps
    refine ⟨t, ht, rfl, fun new hnew => ?_⟩
    obtain ⟨u, hu, huid, hmode⟩ := of_selected_removeTab h ht hx hnew
    refine ⟨u, ?_, hu, huid, hmode⟩
    rw [tabs_removeTab h.ids_nodup] at hu
    exact (List.mem_filter.1 hu).1
  | removeAllNormal | removeAllPrivate =>
    -- The bulk removals select nobody instead.
    refine ⟨t, ht, rfl, fun new hnew => ?_⟩
    have hnobody := (selected_keepTabs_of_notMem hx hgone).symm.trans hnew
    exact absurd hnobody (by simp)
  | removeAll =>
    refine ⟨t, ht, rfl, fun new hnew => ?_⟩
    exact absurd hnew (by simp [reduce, reduceTabList])

/-! ## Where nothing is selected -/

theorem selected_reduceTabList_of_none (h : s.selected = none) (a : TabListAction) :
    (s.reduceTabList a).selected = some id ↔ Offers s (.tabList a) id := by
  cases a with
  | add tab select =>
    simp only [reduceTabList]
    by_cases htab : tab.id ∈ s.tabs.map Session.id
    · rw [if_pos (hasTab_iff.2 htab), h]
      refine iff_of_false (by simp) fun hoffers => ?_
      cases hoffers with
      | add hnew => exact hnew htab
    · rw [if_neg (mt hasTab_iff.1 htab)]
      simp only [h, Option.isNone_none, Bool.or_true, if_pos]
      constructor
      · rintro ⟨⟩
        exact .add htab
      · rintro ⟨⟩
        rfl
  | addMultiple tabs =>
    simp only [reduceTabList, h, Option.none_or]
    cases tabs with
    | nil => exact iff_of_false (by simp) (by rintro ⟨⟩)
    | cons first rest =>
      constructor
      · rintro ⟨⟩
        exact .addMultiple
      · rintro ⟨⟩
        rfl
  | select j =>
    simp only [reduceTabList]
    by_cases hj : j ∈ s.tabs.map Session.id
    · rw [if_pos (hasTab_iff.2 hj)]
      constructor
      · rintro ⟨⟩
        exact .select hj
      · rintro ⟨⟩
        rfl
    · rw [if_neg (mt hasTab_iff.1 hj), h]
      refine iff_of_false (by simp) fun hoffers => ?_
      cases hoffers with
      | select hid => exact hj hid
  | remove j =>
    refine iff_of_false ?_ (by rintro ⟨⟩)
    rw [reduceTabList, selected_removeTab_of_ne (by simp [h]), h]
    simp
  | removeAllNormal | removeAllPrivate =>
    exact iff_of_false (by simp [reduceTabList, keepTabs, h]) (by rintro ⟨⟩)
  | removeAll => exact iff_of_false (by simp [reduceTabList]) (by rintro ⟨⟩)
  | restore tabs selected =>
    simp only [reduceTabList, h, Option.none_or, Option.filter_eq_some_iff, findIn_isSome_iff]
    constructor
    · rintro ⟨rfl, hid⟩
      exact .restore hid
    · intro hoffers
      cases hoffers with
      | restore hid => exact ⟨rfl, hid⟩

theorem selected_of_none (h : s.selected = none) :
    (s.reduce a).selected = some id ↔ Offers s a id := by
  by_cases hlist : ∃ l, a = .tabList l
  · obtain ⟨l, rfl⟩ := hlist
    exact selected_reduceTabList_of_none h l
  · rw [(frame_of_ne_tabList s (not_exists.1 hlist)).2, h]
    refine iff_of_false (by simp) fun hoffers => hlist ?_
    cases hoffers <;> exact ⟨_, rfl⟩

/-- **When the selection moves**, in every state that actions lead to from the empty one, and under
    every action. If a tab is selected:

    * a tab that the action asks for is selected instead;
    * if the action takes the selected tab away, the new selection, if there is one, is a tab that
      stays and is of the mode of the one that went;
    * otherwise the tab stays selected.

    If nothing is selected, the tab that the action offers becomes selected, and nothing if it
    offers none. An action that is not about the list of tabs never moves the selection. -/
theorem selection_of_action (actions : List BrowserAction) (a : BrowserAction) :
    let s := empty.reduceAll actions
    let s' := s.reduce a
    (∀ x, s.selected = some x →
      (∀ id, Demands s a id → s'.selected = some id) ∧
      (x ∉ s'.tabs.map Session.id →
        ∃ t ∈ s.tabs, t.id = x ∧ ∀ new, s'.selected = some new →
          ∃ u ∈ s.tabs, u ∈ s'.tabs ∧ u.id = new ∧ u.isPrivate = t.isPrivate) ∧
      (x ∈ s'.tabs.map Session.id → (∀ id, ¬ Demands s a id) → s'.selected = some x)) ∧
    (s.selected = none → ∀ id, s'.selected = some id ↔ Offers s a id) ∧
    ((∀ l, a ≠ .tabList l) → s'.selected = s.selected) := by
  intro s s'
  have hs : s.WellFormed := wellFormed_empty.reduceAll actions
  refine ⟨?_, ?_, fun hother => (frame_of_ne_tabList s hother).2⟩
  · intro x hx
    exact ⟨fun _ hdemands => selected_of_demands hdemands, of_taken_away hs hx,
      selected_of_not_demands hs hx⟩
  · intro hnone id
    exact selected_of_none hnone

/-- A private tab between normal ones is selected: it gives way to the tab asked for, hands over to
    the other private one when it is removed, and stays when the normal tabs go. Nothing is selected
    in the empty state: a restored selection is taken over. -/
theorem selection_of_action_private :
    let tab := fun id isPrivate => Session.fresh id "https://a.test" isPrivate .epoch
    let actions := [BrowserAction.tabList (.addMultiple [tab "a" false, tab "p" true, tab "b" false,
      tab "q" true]), .tabList (.select "p")]
    let s := empty.reduceAll actions
    s.selected = some "p" ∧
    (s.reduce (.tabList (.add (tab "c" false) true))).selected = some "c" ∧
    (∃ t ∈ s.tabs, t.id = "p" ∧ ∃ u ∈ (s.reduce (.tabList (.remove "p"))).tabs,
      u.id = "q" ∧ u.isPrivate = t.isPrivate) ∧
    (s.reduce (.tabList .removeAllNormal)).selected = some "p" ∧
    (empty.reduce (.tabList (.restore [tab "a" false] (some "a")))).selected = some "a" ∧
    (s.reduce (.customTabList (.add (tab "p" false)))).selected = some "p" := by
  intro tab actions s
  have hselected : s.selected = some "p" := by decide
  refine ⟨hselected, ?_, ?_, ?_, ?_, ?_⟩
  · exact ((selection_of_action actions _).1 "p" hselected).1 "c" (.add (by decide))
  · obtain ⟨t, ht, hid, hheir⟩ :=
      ((selection_of_action actions (.tabList (.remove "p"))).1 "p" hselected).2.1 (by decide)
    obtain ⟨u, -, hu, huid, hmode⟩ := hheir "q" (by decide)
    exact ⟨t, ht, hid, u, hu, huid, hmode⟩
  · exact ((selection_of_action actions _).1 "p" hselected).2.2 (by decide) (by rintro id ⟨⟩)
  · exact ((selection_of_action [] _).2.1 rfl "a").2 (.restore (by decide))
  · have hother := (selection_of_action actions (.customTabList (.add (tab "p" false)))).2.2
    exact (hother (by simp)).trans hselected

end BrowserState
end BrowserTelemetry
