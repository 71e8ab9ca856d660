import BrowserTelemetry.Proofs.SessionLookup
import Mathlib.Data.List.Nodup

/-!
# The ids of sessions

An id is meant to tell a session from all others. A tab is added only if no other tab has its id;
but nobody looks among the custom tabs then, and a custom tab is added whatever there is. So an id
can come to be shared (`shared_id`), and the actions that do it are just those that bring a session
under an id that is taken and that nothing stops (`Clashes`, `uniqueIds_reduce_iff`).

Until that happens **an id stands for one session, whatever it is used for** (`Denotes`): to look it
up, to change it, or to remove it.
-/

namespace BrowserTelemetry
namespace BrowserState

set_option autoImplicit false

variable {s : BrowserState} {t : Session} {l : List Session} {id : String}

/-- No two sessions share an id, tabs and custom tabs taken together. -/
def UniqueIds (s : BrowserState) : Prop := ((s.tabs ++ s.customTabs).map Session.id).Nodup

instance (s : BrowserState) : Decidable s.UniqueIds :=
  inferInstanceAs (Decidable ((s.tabs ++ s.customTabs).map Session.id).Nodup)

theorem uniqueIds_iff :
    s.UniqueIds ↔ (s.tabs.map Session.id).Nodup ∧ (s.customTabs.map Session.id).Nodup ∧
      ∀ id ∈ s.tabs.map Session.id, id ∉ s.customTabs.map Session.id := by
  rw [UniqueIds, List.map_append, List.nodup_append']
  rfl

/-! ## Which actions make ids shared -/

/-- An action that brings a session under an id that is taken, and is not stopped. -/
inductive Clashes (s : BrowserState) : BrowserAction → Prop
  /-- A tab is brought under the id of a custom tab. -/
  | tab {a : TabListAction} {tab : Session} (hbrings : tab ∈ a.brings)
      (htaken : tab.id ∈ s.customTabs.map Session.id) : Clashes s (.tabList a)
  /-- A custom tab is added under the id of a session. -/
  | customTab {tab : Session} (htaken : tab.id ∈ (s.tabs ++ s.customTabs).map Session.id) :
      Clashes s (.customTabList (.add tab))

theorem uniqueIds_empty : empty.UniqueIds := List.nodup_nil

theorem uniqueIds_updateSession (h : s.UniqueIds) {f : Session → Session}
    (hf : ∀ t, (f t).id = t.id) : (s.updateSession id f).UniqueIds := by
  rw [UniqueIds, List.map_append, map_tabs_updateSession s hf, map_customTabs_updateSession s hf,
    ← List.map_append]
  exact h

/-- A tab that is brought gets past the tabs, if its id is taken there it is dropped; only the
    custom tabs matter. -/
theorem uniqueIds_reduceTabList_iff (h : s.UniqueIds) (a : TabListAction) :
    (s.reduceTabList a).UniqueIds ↔ ¬ s.Clashes (.tabList a) := by
  obtain ⟨htabs, hcustom, hdisjoint⟩ := uniqueIds_iff.1 h
  have hmem : ∀ id, id ∈ (s.reduceTabList a).tabs.map Session.id ↔
      id ∈ (s.tabs.filter a.keeps).map Session.id ∨ id ∈ a.brings.map Session.id := by
    intro id
    rw [tabs_reduceTabList htabs, mem_ids_appendTabs]
  constructor
  · intro hunique hclash
    cases hclash with
    | tab hbrings htaken =>
      have hnew := (uniqueIds_iff.1 hunique).2.2 _
        ((hmem _).2 (.inr (List.mem_map_of_mem hbrings)))
      rw [customTabs_reduceTabList] at hnew
      exact hnew htaken
  · intro hno
    refine uniqueIds_iff.2 ⟨nodup_ids_reduce htabs (.tabList a), ?_, ?_⟩
    · rw [customTabs_reduceTabList]
      exact hcustom
    · intro id hid
      rw [customTabs_reduceTabList]
      rcases (hmem id).1 hid with hold | hnew
      · exact hdisjoint id ((List.filter_sublist.map _).subset hold)
      · intro htaken
        obtain ⟨tab, hbrings, rfl⟩ := List.mem_map.1 hnew
        exact hno (.tab hbrings htaken)

theorem uniqueIds_reduceCustomTabList_iff (h : s.UniqueIds) (a : CustomTabListAction) :
    (s.reduceCustomTabList a).UniqueIds ↔ ¬ s.Clashes (.customTabList a) := by
  cases a with
  | add tab =>
    have hids : ((s.reduceCustomTabList (.add tab)).tabs ++
        (s.reduceCustomTabList (.add tab)).customTabs).map Session.id =
          (s.tabs ++ s.customTabs).map Session.id ++ [tab.id] := by
      simp [reduceCustomTabList]
    rw [UniqueIds, hids, ← List.concat_eq_append, List.nodup_concat]
    constructor
    · intro hunique hclash
      cases hclash with
      | customTab htaken => exact hunique.1 htaken
    · exact fun hno => ⟨fun htaken => hno (.customTab htaken), h⟩
  | remove id =>
    refine iff_of_true ?_ fun hclash => by cases hclash
    exact h.sublist (((List.Sublist.refl _).append List.filter_sublist).map _)

/-- **Which actions make ids shared**: those that clash, and no others. -/
theorem uniqueIds_reduce_iff (h : s.UniqueIds) (a : BrowserAction) :
    (s.reduce a).UniqueIds ↔ ¬ s.Clashes a := by
  cases a with
  | content a => exact iff_of_true (uniqueIds_updateSession h fun _ => rfl) nofun
  | download a => exact iff_of_true (by cases a <;> exact h) nofun
  | engine a =>
    exact iff_of_true (by cases a <;> exact uniqueIds_updateSession h fun _ => rfl) nofun
  | tabList a => exact uniqueIds_reduceTabList_iff h a
  | customTabList a => exact uniqueIds_reduceCustomTabList_iff h a

/-! ## Runs -/

/-- Ids are unique all along a run if none of its actions clashes with what it finds. -/
theorem uniqueIds_reduceAll_iff (h : s.UniqueIds) (actions : List BrowserAction) :
    (∀ n, (s.reduceAll (actions.take n)).UniqueIds) ↔
      ∀ n a, actions[n]? = some a → ¬ (s.reduceAll (actions.take n)).Clashes a := by
  constructor
  · intro hunique n a ha
    rw [← uniqueIds_reduce_iff (hunique n), ← reduceAll_take_add_one ha]
    exact hunique (n + 1)
  · intro hno n
    induction n with
    | zero => exact h
    | succ n ih =>
      cases ha : actions[n]? with
      | none =>
        rw [List.take_add_one, ha, Option.toList_none, List.append_nil]
        exact ih
      | some a =>
        rw [reduceAll_take_add_one ha]
        exact (uniqueIds_reduce_iff ih a).2 (hno n a ha)

/-! ## What an id stands for -/

/-- Whatever the id is used for, it stands for the session. -/
structure Denotes (s : BrowserState) (id : String) (t : Session) : Prop where
  findSession : s.findSession id = some t
  content : ∀ c : ContentChange,
    s.Replaces (s.reduce (.content ⟨id, c⟩)) t { t with content := c.apply t.content }
  link : ∀ timestamp : Int64,
    s.Replaces (s.reduce (.engine (.link id timestamp))) t { t with engine := ⟨some timestamp⟩ }
  kill : s.Replaces (s.reduce (.engine (.kill id))) t { t with engine := ⟨none⟩ }
  /-- To remove the id from either list is to remove the session from it, and nothing else. -/
  removeTab :
    (s.reduce (.tabList (.remove id))).tabs = s.tabs.filter (· ≠ t) ∧
      (s.reduce (.tabList (.remove id))).customTabs = s.customTabs
  removeCustomTab :
    (s.reduce (.customTabList (.remove id))).tabs = s.tabs ∧
      (s.reduce (.customTabList (.remove id))).customTabs = s.customTabs.filter (· ≠ t)

/-- Under distinct ids a session is found under its own. -/
theorem findIn_eq_some_iff (h : (l.map Session.id).Nodup) :
    findIn l id = some t ↔ t ∈ l ∧ t.id = id := by
  constructor
  · intro hfound
    exact ⟨List.mem_of_find?_eq_some hfound, id_of_findIn hfound⟩
  · rintro ⟨ht, rfl⟩
    obtain ⟨u, hu⟩ := Option.isSome_iff_exists.1 (findIn_isSome_iff.2 (List.mem_map_of_mem ht))
    rw [hu, List.inj_on_of_nodup_map h (List.mem_of_find?_eq_some hu) ht (id_of_findIn hu)]

/-- Under distinct ids, to leave out an id is to leave out the session. -/
theorem filter_id_ne (h : s.UniqueIds) (ht : t ∈ s.tabs ++ s.customTabs)
    (hl : ∀ u ∈ l, u ∈ s.tabs ++ s.customTabs) :
    l.filter (fun u => u.id ≠ t.id) = l.filter (· ≠ t) := by
  refine List.filter_congr fun u hu => decide_eq_decide.2 (not_congr ⟨fun heq => ?_, ?_⟩)
  · exact List.inj_on_of_nodup_map h (hl u hu) ht heq
  · rintro rfl
    rfl

/-- While ids are unique, the id of a session stands for it. -/
theorem UniqueIds.denotes (h : s.UniqueIds) (ht : t ∈ s.tabs ++ s.customTabs) :
    s.Denotes t.id t := by
  have hfound : s.findSession t.id = some t :=
    findIn_append.symm.trans ((findIn_eq_some_iff h).2 ⟨ht, rfl⟩)
  refine ⟨hfound, fun c => updateSession_of_findSession hfound,
    fun timestamp => updateSession_of_findSession hfound, updateSession_of_findSession hfound,
    ⟨?_, customTabs_reduceTabList s _⟩, rfl, ?_⟩
  · rw [← filter_id_ne h ht fun u hu => List.mem_append_left _ hu]
    exact tabs_reduceTabList (uniqueIds_iff.1 h).1 (.remove t.id)
  · exact filter_id_ne h ht fun u hu => List.mem_append_right _ hu

/-- **When ids are unique.** All along a run from the empty state no two sessions share an id, tabs
    and custom tabs taken together, exactly if none of its actions brings a tab under the id of a
    custom tab that is there, nor a custom tab under the id of any session that is there. As long as
    it is so, the id of a session stands for it, whatever it is used for. -/
theorem unique_ids_iff_no_clash (actions : List BrowserAction) :
    ((∀ n, (empty.reduceAll (actions.take n)).UniqueIds) ↔
      ∀ n a, actions[n]? = some a → ¬ (empty.reduceAll (actions.take n)).Clashes a) ∧
    ∀ n, (empty.reduceAll (actions.take n)).UniqueIds →
      ∀ t ∈ (empty.reduceAll (actions.take n)).tabs ++
          (empty.reduceAll (actions.take n)).customTabs,
        (empty.reduceAll (actions.take n)).Denotes t.id t :=
  ⟨uniqueIds_reduceAll_iff uniqueIds_empty actions, fun _ h _ ht => h.denotes ht⟩

/-- A custom tab is added under the id of a tab. They are two sessions with one id: it is the tab
    that is found, but the custom tab that is removed by the id. -/
theorem shared_id :
    let tab := Session.fresh "a" "https://a.test" false .epoch
    let custom := Session.fresh "a" "https://b.test" false .epoch
    let s := empty.reduceAll [.tabList (.add tab true), .customTabList (.add custom)]
    ¬ s.UniqueIds ∧ s.tabs = [tab] ∧ s.customTabs = [custom] ∧ s.findSession "a" = some tab ∧
      (s.reduce (.customTabList (.remove "a"))).customTabs = [] ∧
      (s.reduce (.customTabList (.remove "a"))).findSession "a" = some tab := by
  decide

end BrowserState
end BrowserTelemetry
