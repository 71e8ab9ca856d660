import BrowserTelemetry.Proofs.SessionLookup

/-!
# Actions that are replayed

An action may come in more than once. **To reduce it again at once changes nothing**, unless it adds
a custom tab, which is the one action that nothing stops (`reduce_reduce_iff`).

Mostly the second reduction finds in the state what the first one wrote: the tabs of a batch are
there, the selection is made. To remove a tab is different. It is harmless to repeat only because no
other tab has the id, for else it would be the next one's turn.
-/

namespace BrowserTelemetry

set_option autoImplicit false

theorem ContentChange.apply_apply (c : ContentChange) (content : PageContent) :
    c.apply (c.apply content) = c.apply content := by
  cases c <;> rfl

namespace BrowserState

variable {s : BrowserState} {a : BrowserAction} {l new : List Session} {id : String}
  {f : Session → Session}

/-! ## Sessions -/

theorem updateFirst_updateFirst (hid : ∀ t, (f t).id = t.id) (hf : ∀ t, f (f t) = f t) :
    updateFirst f id (updateFirst f id l) = updateFirst f id l := by
  induction l with
  | nil => rfl
  | cons t rest ih =>
    by_cases ht : t.id = id
    · simp [updateFirst, ht, hid, hf]
    · simp [updateFirst, ht, ih]

theorem updateSession_updateSession (s : BrowserState) (hid : ∀ t, (f t).id = t.id)
    (hf : ∀ t, f (f t) = f t) :
    (s.updateSession id f).updateSession id f = s.updateSession id f := by
  rw [updateSession, hasTab_updateSession s hid, updateSession]
  cases s.hasTab id <;> simp [updateFirst_updateFirst hid hf]

theorem reduceEngine_reduceEngine (s : BrowserState) (a : EngineAction) :
    (s.reduceEngine a).reduceEngine a = s.reduceEngine a := by
  cases a with
  | link id timestamp => exact updateSession_updateSession s (fun _ => rfl) fun _ => rfl
  | kill id => exact updateSession_updateSession s (fun _ => rfl) fun _ => rfl

theorem reduceDownload_reduceDownload (s : BrowserState) (a : DownloadAction) :
    (s.reduceDownload a).reduceDownload a = s.reduceDownload a := by
  cases a with
  | add download => simp only [reduceDownload, SortedMap.insert_insert]
  | remove id => simp only [reduceDownload, SortedMap.erase_erase]

/-! ## The list of tabs -/

theorem appendTabs_of_forall_mem (h : ∀ t ∈ new, t.id ∈ l.map Session.id) :
    appendTabs l new = l := by
  induction new with
  | nil => rfl
  | cons t rest ih =>
    rw [appendTabs_cons, appendTab_of_mem (h t List.mem_cons_self)]
    exact ih fun u hu => h u (List.mem_cons_of_mem t hu)

theorem appendTabs_appendTabs : appendTabs (appendTabs l new) new = appendTabs l new :=
  appendTabs_of_forall_mem fun _ ht => mem_ids_appendTabs.2 (.inr (List.mem_map_of_mem ht))

theorem keepTabs_keepTabs (s : BrowserState) (keep : Session → Bool) :
    (s.keepTabs keep).keepTabs keep = s.keepTabs keep := by
  simp [keepTabs]

theorem reduceTabList_reduceTabList (h : (s.tabs.map Session.id).Nodup) (a : TabListAction) :
    (s.reduceTabList a).reduceTabList a = s.reduceTabList a := by
  cases a with
  | add tab select =>
    have hadded : tab.id ∈ (s.reduceTabList (.add tab select)).tabs.map Session.id := by
      rw [tabs_reduceTabList h, mem_ids_appendTabs]
      exact .inr List.mem_cons_self
    exact if_pos (hasTab_iff.2 hadded)
  | addMultiple tabs => simp [reduceTabList, appendTabs_appendTabs, Option.or_assoc]
  | select id =>
    by_cases hid : s.hasTab id = true
    · simp only [reduceTabList, if_pos hid]
      exact if_pos hid
    · simp only [reduceTabList, if_neg hid]
  | remove id =>
    -- Under distinct ids the first removal leaves no tab of the id.
    exact removeTab_of_notMem (notMem_ids_removeTab h id)
  | removeAllNormal | removeAllPrivate => exact keepTabs_keepTabs s _
  | removeAll => rfl
  | restore tabs selected => simp [reduceTabList, appendTabs_appendTabs, Option.or_assoc]

/-! ## All actions, and runs with replays -/

theorem reduce_reduce (h : (s.tabs.map Session.id).Nodup)
    (ha : ∀ tab, a ≠ .customTabList (.add tab)) : (s.reduce a).reduce a = s.reduce a := by
  cases a with
  | content a =>
    refine updateSession_updateSession s (fun _ => rfl) fun t => ?_
    simp only [ContentChange.apply_apply]
  | download a => exact reduceDownload_reduceDownload s a
  | engine a => exact reduceEngine_reduceEngine s a
  | tabList a => exact reduceTabList_reduceTabList h a
  | customTabList a =>
    cases a with
    | add tab => exact absurd rfl (ha tab)
    | remove id => simp [reduce, reduceCustomTabList]

theorem reduce_reduce_addCustomTab (s : BrowserState) (tab : Session) :
    (s.reduce (.customTabList (.add tab))).reduce (.customTabList (.add tab)) ≠
      s.reduce (.customTabList (.add tab)) := by
  intro heq
  have hcustom := congrArg (fun s : BrowserState => s.customTabs.length) heq
  simp [reduce, reduceCustomTabList] at hcustom

theorem reduce_reduce_iff (h : (s.tabs.map Session.id).Nodup) (a : BrowserAction) :
    (s.reduce a).reduce a = s.reduce a ↔ ∀ tab, a ≠ .customTabList (.add tab) := by
  refine ⟨?_, reduce_reduce h⟩
  rintro heq tab rfl
  exact reduce_reduce_addCustomTab s tab heq

theorem reduceAll_replicate (h : (s.tabs.map Session.id).Nodup)
    (ha : ∀ tab, a ≠ .customTabList (.add tab)) (n : Nat) :
    s.reduceAll (List.replicate (n + 1) a) = s.reduce a := by
  induction n generalizing s with
  | zero => rfl
  | succ n ih =>
    rw [List.replicate_succ, reduceAll_cons, ih (nodup_ids_reduce h a)]
    exact reduce_reduce h ha

/-- **A replayed action is harmless.** In a state whose tabs have distinct ids an action that is
    reduced twice in a row has the effect of reducing it once, exactly if it is not one that adds a
    custom tab. So wherever such an action stands in a run from the empty state, it may be replayed
    on the spot any number of times: the run leads to the same state. -/
theorem replay_is_harmless :
    (∀ s : BrowserState, (s.tabs.map Session.id).Nodup → ∀ a : BrowserAction,
      (s.reduce a).reduce a = s.reduce a ↔ ∀ tab, a ≠ .customTabList (.add tab)) ∧
    ∀ (actions rest : List BrowserAction) (a : BrowserAction) (n : Nat),
      (∀ tab, a ≠ .customTabList (.add tab)) →
      empty.reduceAll (actions ++ List.replicate (n + 1) a ++ rest) =
        empty.reduceAll (actions ++ a :: rest) := by
  refine ⟨fun s h a => reduce_reduce_iff h a, ?_⟩
  intro actions rest a n ha
  have hnodup := nodup_ids_reduceAll (s := empty) List.nodup_nil actions
  calc empty.reduceAll (actions ++ List.replicate (n + 1) a ++ rest)
      = ((empty.reduceAll actions).reduceAll (List.replicate (n + 1) a)).reduceAll rest := by
        rw [reduceAll_append, reduceAll_append]
    _ = ((empty.reduceAll actions).reduce a).reduceAll rest := by
        rw [reduceAll_replicate hnodup ha]
    _ = empty.reduceAll (actions ++ a :: rest) := by
        rw [reduceAll_append, reduceAll_cons]

/-- The selected tab is removed, and the removal comes in once more, or twice. -/
theorem replay_is_harmless_removing_selected :
    let tab := fun id => Session.fresh id "https://a.test" false .epoch
    let s := withTabs [tab "a", tab "b", tab "c"] (some "b")
    let again := BrowserAction.tabList (.remove "b")
    let actions := [BrowserAction.tabList (.addMultiple [tab "b", tab "b", tab "c"])]
    let rest := [BrowserAction.tabList (.add (tab "d") true)]
    (s.tabs.map Session.id).Nodup ∧ (∀ tab, again ≠ .customTabList (.add tab)) ∧
    (s.reduce again).reduce again = s.reduce again ∧
    empty.reduceAll (actions ++ List.replicate 3 again ++ rest) =
      empty.reduceAll (actions ++ again :: rest) := by
  intro tab s again actions rest
  have hnodup : (s.tabs.map Session.id).Nodup := by decide
  have hagain : ∀ tab, again ≠ .customTabList (.add tab) := by simp [again]
  exact ⟨hnodup, hagain, (replay_is_harmless.1 s hnodup again).2 hagain,
    replay_is_harmless.2 actions rest again 2 hagain⟩

end BrowserState
end BrowserTelemetry
