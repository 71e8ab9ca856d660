import BrowserTelemetry.Proofs.StateInvariant

/-!
# What an action does to a lookup

Telemetry never looks at a list of sessions, it looks a session up by its id. So most of what there
is to prove of a run asks one thing of an action: **what does the lookup of an id give afterwards?**

* A change to the content or the engine of a session changes what is found under its id
  (`findTab_updateSession`, `findSession_updateSession`). The session found before is the one
  changed.
* A change to the list of tabs keeps some tabs and appends new ones, and that is all it does to them
  (`tabs_reduceTabList`). The lookup of an id gives the tab that was there, if it is kept, or else
  the first of that id among those the action brings (`findTab_reduceTabList`).
-/

namespace BrowserTelemetry

set_option autoImplicit false

/-- Does a change to the list of tabs keep this tab? -/
def TabListAction.keeps : TabListAction → Session → Bool
  | .remove id, t => t.id ≠ id
  | .removeAllNormal, t => t.isPrivate
  | .removeAllPrivate, t => !t.isPrivate
  | .removeAll, _ => false
  | .add _ _, _ | .addMultiple _, _ | .select _, _ | .restore _ _, _ => true

/-- The tabs that a change to the list of tabs brings. -/
def TabListAction.brings : TabListAction → List Session
  | .add tab _ => [tab]
  | .addMultiple tabs | .restore tabs _ => tabs
  | .select _ | .remove _ | .removeAllNormal | .removeAllPrivate | .removeAll => []

/-- A change that removes tabs brings none. -/
theorem TabListAction.brings_eq_nil {a : TabListAction} {t : Session} (h : a.keeps t = false) :
    a.brings = [] := by
  cases a with
  | add | addMultiple | restore => exact absurd h (by simp [keeps])
  | select | remove | removeAllNormal | removeAllPrivate | removeAll => rfl

namespace BrowserState

variable {l new before after : List Session} {t : Session} {id j : String} {f : Session → Session}
  {s : BrowserState}

/-! ## Lists -/

theorem id_of_findIn (h : findIn l id = some t) : t.id = id := by
  simpa using List.find?_some h

theorem findIn_eq_none_iff : findIn l id = none ↔ id ∉ l.map Session.id := by
  rw [← findIn_isSome_iff, Option.not_isSome_iff_eq_none]

theorem findIn_cons (t : Session) :
    findIn (t :: l) id = if t.id = id then some t else findIn l id := by
  by_cases h : t.id = id <;> simp [findIn, h]

theorem findIn_append : findIn (l ++ new) id = (findIn l id).or (findIn new id) :=
  List.find?_append

theorem findIn_appendTab :
    findIn (appendTab l t) id = (findIn l id).or (if t.id = id then some t else none) := by
  by_cases h : t.id ∈ l.map Session.id
  · rw [appendTab_of_mem h]
    -- Its id is taken: under that id something is found without it.
    split
    · rename_i hid
      obtain ⟨u, hu⟩ := Option.isSome_iff_exists.1 (findIn_isSome_iff.2 (hid ▸ h))
      rw [hu, Option.some_or]
    · rw [Option.or_none]
  · rw [appendTab_of_notMem h, findIn_append, findIn_cons]
    rfl

theorem findIn_appendTabs : findIn (appendTabs l new) id = (findIn l id).or (findIn new id) := by
  induction new generalizing l with
  | nil => exact (Option.or_none).symm
  | cons t rest ih =>
    rw [appendTabs_cons, ih, findIn_appendTab, findIn_cons, Option.or_assoc]
    split <;> simp

theorem findIn_updateFirst (hf : ∀ t, (f t).id = t.id) :
    findIn (updateFirst f id l) j = if j = id then (findIn l j).map f else findIn l j := by
  induction l with
  | nil => simp [updateFirst, findIn]
  | cons t rest ih =>
    rw [updateFirst]
    split
    · rename_i ht
      rw [findIn_cons, findIn_cons, hf, ht]
      by_cases hj : j = id
      · simp [hj]
      · simp [hj, Ne.symm hj]
    · rename_i ht
      rw [findIn_cons, findIn_cons, ih]
      by_cases htj : t.id = j
      · have hj : j ≠ id := fun heq => ht (htj.trans heq)
        simp [htj, hj]
      · simp [htj]

/-- With distinct ids what is found is kept or it is gone; nothing else can be found in its
    place. -/
theorem findIn_filter (h : (l.map Session.id).Nodup) (keep : Session → Bool) :
    findIn (l.filter keep) id = (findIn l id).filter keep := by
  induction l with
  | nil => rfl
  | cons t rest ih =>
    obtain ⟨ht, hrest⟩ := List.nodup_cons.1 h
    rw [findIn_cons, List.filter_cons]
    by_cases hid : t.id = id
    · have hnone : findIn (rest.filter keep) id = none := by
        rw [ih hrest, findIn_eq_none_iff.2 (hid ▸ ht), Option.filter_none]
      by_cases hk : keep t = true
      · simp [hk, hid, findIn_cons, Option.filter_some]
      · simp [hk, hid, hnone, Option.filter_some]
    · by_cases hk : keep t = true
      · simp [hk, hid, findIn_cons, ih hrest]
      · simp [hk, hid, ih hrest]

/-- Without the sessions of one id those of other ids are found as before. -/
theorem findIn_filter_ne :
    findIn (l.filter fun t => t.id ≠ j) id = if id = j then none else findIn l id := by
  induction l with
  | nil => simp [findIn]
  | cons t rest ih =>
    rw [List.filter_cons, findIn_cons]
    by_cases ht : t.id = j
    · rw [if_neg (by simp [ht]), ih]
      by_cases hid : id = j
      · rw [if_pos hid, if_pos hid]
      · rw [if_neg hid, if_neg hid, if_neg fun heq => hid (heq.symm.trans ht)]
    · rw [if_pos (by simpa using ht), findIn_cons, ih]
      by_cases htid : t.id = id
      · rw [if_pos htid, if_pos htid, if_neg fun heq => ht (htid.trans heq)]
      · rw [if_neg htid, if_neg htid]

/-- With distinct ids, to cut out the first tab of an id is to keep the tabs of other ids. -/
theorem tabs_removeTab (h : (s.tabs.map Session.id).Nodup) (id : String) :
    (s.removeTab id).tabs = s.tabs.filter fun u => u.id ≠ id := by
  by_cases hmem : id ∈ s.tabs.map Session.id
  · obtain ⟨before, t, after, htabs, rfl, -, hremove⟩ := removeTab_of_mem hmem
    have hnodup : ((t :: (before ++ after)).map Session.id).Nodup :=
      (List.perm_middle.map Session.id).nodup_iff.1 (htabs ▸ h)
    have hout : ∀ u ∈ before ++ after, u.id ≠ t.id := by
      intro u hu heq
      exact (List.nodup_cons.1 hnodup).1 (heq ▸ List.mem_map_of_mem hu)
    have hboth : (before ++ after).filter (fun u => u.id ≠ t.id) = before ++ after :=
      List.filter_eq_self.2 fun u hu => decide_eq_true (hout u hu)
    have hcut : (before ++ t :: after).filter (fun u => u.id ≠ t.id) = before ++ after := by
      rw [List.filter_append, List.filter_cons, if_neg (by simp), ← List.filter_append, hboth]
    rw [hremove, htabs, hcut]
  · have hout : ∀ u ∈ s.tabs, u.id ≠ id := fun u hu heq => hmem (heq ▸ List.mem_map_of_mem hu)
    rw [removeTab_of_notMem hmem, List.filter_eq_self.2 fun u hu => decide_eq_true (hout u hu)]

theorem notMem_ids_removeTab (h : (s.tabs.map Session.id).Nodup) (id : String) :
    id ∉ (s.removeTab id).tabs.map Session.id := by
  rw [tabs_removeTab h, ← findIn_eq_none_iff, findIn_filter_ne, if_pos rfl]

/-! ## Changing a session -/

theorem findTab_updateSession (s : BrowserState) (hf : ∀ t, (f t).id = t.id) :
    (s.updateSession id f).findTab j = if j = id then (s.findTab j).map f else s.findTab j := by
  unfold updateSession
  split
  · exact findIn_updateFirst hf
  · rename_i hno
    -- No tab has the id, so there is nothing to change under it.
    split
    · rename_i hj
      have hnone : s.findTab j = none := by simpa [hasTab, hj] using hno
      rw [hnone]
      exact hnone
    · rfl

theorem hasTab_updateSession (s : BrowserState) (hf : ∀ t, (f t).id = t.id) :
    (s.updateSession id f).hasTab j = s.hasTab j := by
  rw [hasTab, findTab_updateSession s hf, hasTab]
  split
  · exact Option.isSome_map
  · rfl

theorem updateFirst_comm {g : Session → Session} (hf : ∀ t, (f t).id = t.id)
    (hg : ∀ t, (g t).id = t.id) (h : id ≠ j) :
    updateFirst g j (updateFirst f id l) = updateFirst f id (updateFirst g j l) := by
  induction l with
  | nil => rfl
  | cons t rest ih =>
    by_cases hid : t.id = id
    · have hj : t.id ≠ j := fun hj => h (hid.symm.trans hj)
      simp [updateFirst, hf, hid, h]
    · by_cases hj : t.id = j
      · simp [updateFirst, hg, hj, Ne.symm h]
      · simp [updateFirst, hid, hj, ih]

/-- Changes to sessions of different ids can be made in either order. -/
theorem updateSession_comm (s : BrowserState) {g : Session → Session} (hf : ∀ t, (f t).id = t.id)
    (hg : ∀ t, (g t).id = t.id) (h : id ≠ j) :
    (s.updateSession id f).updateSession j g = (s.updateSession j g).updateSession id f := by
  rw [updateSession, hasTab_updateSession s hf, updateSession, updateSession,
    hasTab_updateSession s hg, updateSession]
  -- Neither changes for which ids there is a tab, so each goes to the same list either way.
  cases s.hasTab id <;> cases s.hasTab j <;> simp [updateFirst_comm hf hg h]

/-- The session that is found is the one that is changed, be it a tab or a custom tab. -/
theorem findSession_updateSession (s : BrowserState) (hf : ∀ t, (f t).id = t.id) :
    (s.updateSession id f).findSession j =
      if j = id then (s.findSession j).map f else s.findSession j := by
  unfold findSession
  rw [findTab_updateSession s hf]
  by_cases hj : j = id
  · subst hj
    rw [if_pos rfl, if_pos rfl]
    cases htab : s.findTab j with
    | some t => rfl
    | none =>
      have hno : ¬ s.hasTab j = true := by simp [hasTab, htab]
      rw [Option.map_none, Option.none_or, Option.none_or, updateSession, if_neg hno]
      exact (findIn_updateFirst hf).trans (if_pos rfl)
  · rw [if_neg hj, if_neg hj]
    congr 1
    unfold updateSession
    split
    · rfl
    · exact (findIn_updateFirst hf).trans (if_neg hj)

theorem id_of_findSession (h : s.findSession id = some t) : t.id = id := by
  rcases Option.or_eq_some_iff.1 h with h | ⟨-, h⟩
  · exact id_of_findIn h
  · exact id_of_findIn h

theorem findSession_isSome_iff :
    (s.findSession id).isSome = true ↔ id ∈ (s.tabs ++ s.customTabs).map Session.id := by
  rw [findSession, Option.isSome_or, Bool.or_eq_true, List.map_append, List.mem_append]
  exact or_congr findIn_isSome_iff findIn_isSome_iff

/-- Between two states: `u` stands where `t` stood, and nothing else differs. -/
def Replaces (s s' : BrowserState) (t u : Session) : Prop :=
  ∃ before after,
    (s.tabs = before ++ t :: after ∧ s' = { s with tabs := before ++ u :: after }) ∨
    (s.customTabs = before ++ t :: after ∧ s' = { s with customTabs := before ++ u :: after })

theorem updateFirst_of_findIn {f : Session → Session} (h : findIn l id = some t) :
    ∃ before after, l = before ++ t :: after ∧ updateFirst f id l = before ++ f t :: after := by
  induction l with
  | nil => exact absurd h (by simp [findIn])
  | cons u rest ih =>
    rw [findIn_cons] at h
    rw [updateFirst]
    split at h
    · rename_i hu
      obtain rfl := Option.some.inj h
      exact ⟨[], rest, rfl, if_pos hu⟩
    · rename_i hu
      obtain ⟨before, after, hl, hupdate⟩ := ih h
      exact ⟨u :: before, after, by rw [hl]; rfl, by rw [if_neg hu, hupdate]; rfl⟩

/-- The session that is changed is the one that is found. -/
theorem updateSession_of_findSession {f : Session → Session} (h : s.findSession id = some t) :
    s.Replaces (s.updateSession id f) t (f t) := by
  unfold updateSession
  rcases Option.or_eq_some_iff.1 h with htab | ⟨hnone, hcustom⟩
  · obtain ⟨before, after, htabs, hupdate⟩ := updateFirst_of_findIn (f := f) htab
    refine ⟨before, after, .inl ⟨htabs, ?_⟩⟩
    rw [if_pos (by simp [hasTab, htab]), hupdate]
  · obtain ⟨before, after, htabs, hupdate⟩ := updateFirst_of_findIn (f := f) hcustom
    refine ⟨before, after, .inr ⟨htabs, ?_⟩⟩
    rw [if_neg (by simp [hasTab, hnone]), hupdate]

/-! ## The list of tabs -/

/-- **A change to the list of tabs** keeps some of the tabs, in their order, and appends those it
    brings whose ids are not taken. -/
theorem tabs_reduceTabList (h : (s.tabs.map Session.id).Nodup) (a : TabListAction) :
    (s.reduceTabList a).tabs = appendTabs (s.tabs.filter a.keeps) a.brings := by
  have hall : (∀ t, a.keeps t = true) → s.tabs.filter a.keeps = s.tabs :=
    fun hkeeps => List.filter_eq_self.2 fun t _ => hkeeps t
  cases a with
  | add tab select =>
    rw [hall fun _ => rfl]
    simp only [reduceTabList]
    by_cases htab : tab.id ∈ s.tabs.map Session.id
    · rw [if_pos (hasTab_iff.2 htab)]
      exact (appendTab_of_mem htab).symm
    · rw [if_neg (mt hasTab_iff.1 htab)]
      exact (appendTab_of_notMem htab).symm
  | addMultiple tabs =>
    rw [hall fun _ => rfl]
    rfl
  | select id =>
    rw [hall fun _ => rfl]
    simp only [reduceTabList]
    split <;> rfl
  | remove id => exact tabs_removeTab h id
  | removeAllNormal => rfl
  | removeAllPrivate => rfl
  | removeAll =>
    have hnone : s.tabs.filter TabListAction.removeAll.keeps = [] :=
      List.filter_eq_nil_iff.2 fun _ _ => Bool.false_ne_true
    rw [hnone]
    rfl
  | restore tabs selected =>
    rw [hall fun _ => rfl]
    rfl

theorem findTab_reduceTabList (h : (s.tabs.map Session.id).Nodup) (a : TabListAction) :
    (s.reduceTabList a).findTab id = ((s.findTab id).filter a.keeps).or (findIn a.brings id) := by
  unfold findTab
  rw [tabs_reduceTabList h, findIn_appendTabs, findIn_filter h]

/-- A change to the list of tabs is one to the tabs and the selection. -/
theorem reduceTabList_eq (s : BrowserState) (a : TabListAction) :
    s.reduceTabList a =
      { s with tabs := (s.reduceTabList a).tabs, selected := (s.reduceTabList a).selected } := by
  cases a with
  | add | select =>
    simp only [reduceTabList]
    split <;> rfl
  | remove id =>
    simp only [reduceTabList, removeTab]
    split <;> rfl
  | addMultiple | removeAllNormal | removeAllPrivate | removeAll | restore => rfl

theorem customTabs_reduceTabList (s : BrowserState) (a : TabListAction) :
    (s.reduceTabList a).customTabs = s.customTabs := by
  rw [reduceTabList_eq]

theorem downloads_reduceTabList (s : BrowserState) (a : TabListAction) :
    (s.reduceTabList a).downloads = s.downloads := by
  rw [reduceTabList_eq]

/-! ## The list of custom tabs -/

theorem findCustomTab_reduceCustomTabList (s : BrowserState) (a : CustomTabListAction) :
    (s.reduceCustomTabList a).findCustomTab id =
      match a with
      | .add tab => (s.findCustomTab id).or (if tab.id = id then some tab else none)
      | .remove j => if id = j then none else s.findCustomTab id := by
  cases a with
  | add tab => rw [findCustomTab, reduceCustomTabList, findIn_append, findIn_cons]; rfl
  | remove j => exact findIn_filter_ne

theorem findTab_reduceCustomTabList (s : BrowserState) (a : CustomTabListAction) :
    (s.reduceCustomTabList a).findTab id = s.findTab id := by
  cases a <;> rfl

/-! ## All actions -/

theorem nodup_ids_updateSession (h : (s.tabs.map Session.id).Nodup) {f : Session → Session}
    (hf : ∀ t, (f t).id = t.id) : ((s.updateSession id f).tabs.map Session.id).Nodup := by
  rw [map_tabs_updateSession s hf]
  exact h

theorem nodup_ids_reduce (h : (s.tabs.map Session.id).Nodup) (a : BrowserAction) :
    ((s.reduce a).tabs.map Session.id).Nodup := by
  cases a with
  | content a => exact nodup_ids_updateSession h fun _ => rfl
  | download a => cases a <;> exact h
  | engine a => cases a <;> exact nodup_ids_updateSession h fun _ => rfl
  | tabList a =>
    rw [reduce, tabs_reduceTabList h]
    exact nodup_ids_appendTabs (h.sublist (List.filter_sublist.map _))
  | customTabList a => cases a <;> exact h

theorem nodup_ids_reduceAll (h : (s.tabs.map Session.id).Nodup) (actions : List BrowserAction) :
    ((s.reduceAll actions).tabs.map Session.id).Nodup := by
  induction actions generalizing s with
  | nil => exact h
  | cons a rest ih => exact ih (nodup_ids_reduce h a)

end BrowserState
end BrowserTelemetry
