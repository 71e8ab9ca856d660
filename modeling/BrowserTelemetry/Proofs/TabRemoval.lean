import BrowserTelemetry.Proofs.SessionIds

/-!
# Which tab comes forward when one is removed

The reducer cuts the tab out of the list, and if it was selected looks for its heir in the two
pieces that are left. Here this is said **in places of the list as it was**: `Inherits` is the tab
of the same mode that is nearest to the removed one, the tabs after it being preferred. That the
pieces are searched in the right order, and to their ends, is `inherits_heir`.

Nothing is asked of the state. Under ids that are shared a selection may mean another tab than the
heir, one that only comes first in the list; with distinct ids it is the heir that comes forward.
-/

namespace BrowserTelemetry
namespace BrowserState

set_option autoImplicit false

variable {l before after : List Session} {t u : Session} {id : String} {mode : Bool} {k : Nat}

/-! ## Places of a mode -/

/-- At this place of the list there is a tab of the mode. -/
def HasMode (l : List Session) (mode : Bool) (k : Nat) : Prop :=
  ∃ u, l[k]? = some u ∧ u.isPrivate = mode

/-- Who is selected in place of the tab at `i`: the first tab of the mode after it; if there is none
    after it, the last one before it; if there is no other tab of the mode, nobody. -/
inductive Inherits (l : List Session) (mode : Bool) (i : Nat) : Option Session → Prop
  | next {j : Nat} {u : Session} (hlt : i < j) (hu : l[j]? = some u) (hmode : u.isPrivate = mode)
      (hleast : ∀ k, i < k → k < j → ¬ HasMode l mode k) : Inherits l mode i (some u)
  | previous {j : Nat} {u : Session} (hlt : j < i) (hu : l[j]? = some u)
      (hmode : u.isPrivate = mode) (hnone : ∀ k, i < k → ¬ HasMode l mode k)
      (hgreatest : ∀ k, j < k → k < i → ¬ HasMode l mode k) : Inherits l mode i (some u)
  | nobody (hnone : ∀ k, k ≠ i → ¬ HasMode l mode k) : Inherits l mode i none

theorem getElem?_after : (before ++ t :: after)[before.length + 1 + k]? = after[k]? := by
  have hplace : before.length + 1 + k - before.length = k + 1 := by omega
  rw [List.getElem?_append_right (by omega), hplace, List.getElem?_cons_succ]

/-- The pieces around the tab at `i` have no tab of the mode but where the list has one. -/
theorem hasMode_or (h : HasMode (before ++ t :: after) mode k) (hne : k ≠ before.length) :
    (k < before.length ∧ HasMode before mode k) ∨
      (before.length < k ∧ HasMode after mode (k - before.length - 1)) := by
  obtain ⟨u, hu, hmode⟩ := h
  rcases Nat.lt_or_gt_of_ne hne with hlt | hgt
  · rw [List.getElem?_append_left hlt] at hu
    exact .inl ⟨hlt, u, hu, hmode⟩
  · rw [show k = before.length + 1 + (k - before.length - 1) by omega, getElem?_after] at hu
    exact .inr ⟨hgt, u, hu, hmode⟩

theorem not_hasMode_of_find?_eq_none (h : l.find? (fun u => u.isPrivate = mode) = none) :
    ¬ HasMode l mode k := by
  rintro ⟨u, hu, hmode⟩
  exact absurd hmode (by simpa using List.find?_eq_none.1 h u (List.mem_of_getElem? hu))

/-- A tab that is found is the first of its mode. -/
theorem of_find?_mode (h : l.find? (fun u => u.isPrivate = mode) = some u) :
    ∃ j, l[j]? = some u ∧ u.isPrivate = mode ∧ ∀ k < j, ¬ HasMode l mode k := by
  obtain ⟨hmode, j, hj, hu, hleast⟩ := List.find?_eq_some_iff_getElem.1 h
  refine ⟨j, hu ▸ List.getElem?_eq_getElem hj, by simpa using hmode, ?_⟩
  rintro k hk ⟨v, hv, hmode'⟩
  obtain ⟨hlt, rfl⟩ := List.getElem?_eq_some_iff.1 hv
  exact absurd hmode' (by simpa using hleast k hk)

/-- A tab that is found from the end is the last of its mode. -/
theorem of_find?_reverse_mode (h : l.reverse.find? (fun u => u.isPrivate = mode) = some u) :
    ∃ j < l.length, l[j]? = some u ∧ u.isPrivate = mode ∧
      ∀ k, j < k → k < l.length → ¬ HasMode l mode k := by
  obtain ⟨j, hj, hmode, hleast⟩ := of_find?_mode h
  have hlt : j < l.length := by
    obtain ⟨hlt, -⟩ := List.getElem?_eq_some_iff.1 hj
    simpa using hlt
  refine ⟨l.length - 1 - j, by omega, ?_, hmode, ?_⟩
  · rw [← hj, List.getElem?_reverse hlt]
  · rintro k hk hlen ⟨v, hv, hmode'⟩
    -- Counted from the end, `k` comes before the place that was found.
    refine hleast (l.length - 1 - k) (by omega) ⟨v, ?_, hmode'⟩
    rw [List.getElem?_reverse (by omega), ← hv]
    congr 1
    omega

/-- What the reducer looks for in the two pieces is the nearest tab of the mode in the whole
    list. -/
theorem inherits_heir (before after : List Session) (t : Session) (mode : Bool) :
    ∃ u?, Inherits (before ++ t :: after) mode before.length u? ∧
      heir before after mode = u?.map Session.id := by
  unfold heir
  cases hnext : after.find? fun u => u.isPrivate = mode with
  | some u =>
    obtain ⟨j, hj, hmode, hleast⟩ := of_find?_mode hnext
    refine ⟨some u, .next (j := before.length + 1 + j) (by omega) ?_ hmode ?_, rfl⟩
    · rw [getElem?_after, hj]
    · intro k hgt hlt hk
      rcases hasMode_or hk (Nat.ne_of_gt hgt) with ⟨hlt', -⟩ | ⟨-, hk⟩
      · omega
      · exact hleast _ (by omega) hk
  | none =>
    have hafter : ∀ k, before.length < k → ¬ HasMode (before ++ t :: after) mode k := by
      intro k hgt hk
      rcases hasMode_or hk (Nat.ne_of_gt hgt) with ⟨hlt, -⟩ | ⟨-, hk⟩
      · omega
      · exact not_hasMode_of_find?_eq_none hnext hk
    cases hprevious : before.reverse.find? fun u => u.isPrivate = mode with
    | some u =>
      obtain ⟨j, hlt, hj, hmode, hgreatest⟩ := of_find?_reverse_mode hprevious
      refine ⟨some u, .previous hlt ?_ hmode hafter ?_, rfl⟩
      · rw [List.getElem?_append_left hlt, hj]
      · intro k hjk hlt' hk
        rcases hasMode_or hk (Nat.ne_of_lt hlt') with ⟨-, hk⟩ | ⟨hgt, -⟩
        · exact hgreatest k hjk hlt' hk
        · omega
    | none =>
      refine ⟨none, .nobody fun k hne hk => ?_, rfl⟩
      rcases hasMode_or hk hne with ⟨hlt, u, hu, hmode⟩ | ⟨hgt, -⟩
      · have hmem : u ∈ before.reverse := List.mem_reverse.2 (List.mem_of_getElem? hu)
        exact absurd hmode (by simpa using List.find?_eq_none.1 hprevious u hmem)
      · exact hafter k hgt hk

/-! ## Removing a tab -/

theorem findIdx?_of_split (hbefore : id ∉ before.map Session.id) (hid : t.id = id) :
    (before ++ t :: after).findIdx? (fun u => u.id = id) = some before.length := by
  have hnone : before.findIdx? (fun u => u.id = id) = none := by
    rw [List.findIdx?_eq_none_iff]
    intro u hu
    exact decide_eq_false fun heq => hbefore (heq ▸ List.mem_map_of_mem hu)
  simp [List.findIdx?_append, hnone, List.findIdx?_cons, hid]

theorem mem_ids_of_findIdx? (h : l.findIdx? (fun u => u.id = id) = some k) :
    id ∈ l.map Session.id := by
  obtain ⟨hlt, hid, -⟩ := List.findIdx?_eq_some_iff_getElem.1 h
  exact List.mem_map.2 ⟨l[k], List.getElem_mem hlt, by simpa using hid⟩

/-- Under distinct ids there is one tab to be found. -/
theorem eq_of_findTab {s : BrowserState} (h : (s.tabs.map Session.id).Nodup) (ht : t ∈ s.tabs)
    (hu : s.findTab t.id = some u) : u = t :=
  Option.some.inj (hu.symm.trans ((findIn_eq_some_iff h).2 ⟨ht, rfl⟩))

/-- **Removing a tab re-selects within its mode.** Under an id that no tab has nothing is removed,
    and nothing changes. Otherwise let `i` be the place of the first tab with the id:

    * that tab is cut out of the list, and besides the list only the selection can change;
    * a selection of another id stays;
    * if it was the selected one, its heir is selected: the next tab of its mode, or else the
      previous one, or else none. So what comes forward is one of the tabs that stay, of the mode of
      the one that went; and with distinct ids it is that tab which the selection finds. -/
theorem remove_reselects_within_mode (s : BrowserState) (id : String) :
    let s' := s.reduce (.tabList (.remove id))
    (id ∉ s.tabs.map Session.id → s' = s) ∧
    ∀ i, s.tabs.findIdx? (fun t => t.id = id) = some i → ∃ t, s.tabs[i]? = some t ∧
      s' = { s with tabs := s.tabs.eraseIdx i, selected := s'.selected } ∧
      (s.selected ≠ some id → s'.selected = s.selected) ∧
      (s.selected = some id →
        (∃ u?, Inherits s.tabs t.isPrivate i u? ∧ s'.selected = u?.map Session.id) ∧
        ∀ new, s'.selected = some new →
          (∃ u ∈ s'.tabs, u.id = new ∧ u.isPrivate = t.isPrivate) ∧
          ((s.tabs.map Session.id).Nodup →
            ∀ u, s'.findTab new = some u → u.isPrivate = t.isPrivate)) := by
  intro s'
  refine ⟨removeTab_of_notMem, fun i hi => ?_⟩
  obtain ⟨before, t, after, htabs, hid, hbefore, hremove⟩ :=
    removeTab_of_mem (mem_ids_of_findIdx? hi)
  have hs' : s' = _ := hremove
  rw [htabs, findIdx?_of_split hbefore hid] at hi
  obtain rfl := Option.some.inj hi
  refine ⟨t, by simp [htabs], ?_, ?_, ?_⟩
  · rw [hs', htabs, List.eraseIdx_append_of_length_le (Nat.le_refl _), Nat.sub_self,
      List.eraseIdx_cons_zero]
  · intro hne
    rw [hs']
    exact if_neg hne
  · intro hselected
    have hheir : s'.selected = heir before after t.isPrivate := by
      rw [hs']
      exact if_pos hselected
    refine ⟨?_, fun new hnew => ?_⟩
    · rw [hheir, htabs]
      exact inherits_heir before after t t.isPrivate
    · have hstays : ∃ u ∈ s'.tabs, u.id = new ∧ u.isPrivate = t.isPrivate := by
        rw [hs']
        exact of_heir (hheir.symm.trans hnew)
      refine ⟨hstays, fun hnodup u hu => ?_⟩
      obtain ⟨v, hv, rfl, hmode⟩ := hstays
      have hnodup' := nodup_ids_reduce hnodup (.tabList (.remove id))
      rw [eq_of_findTab hnodup' hv hu, hmode]

/-- The selected tab has only tabs of the other mode after it. -/
theorem remove_reselects_within_mode_backwards :
    let tab := fun id isPrivate => Session.fresh id "https://a.test" isPrivate .epoch
    let s := withTabs [tab "a" false, tab "p" true, tab "b" false, tab "q" true] (some "b")
    let s' := s.reduce (.tabList (.remove "b"))
    s.tabs.findIdx? (fun t => t.id = "b") = some 2 ∧ s'.tabs = s.tabs.eraseIdx 2 ∧
      s'.selected = some "a" ∧ (∃ u ∈ s'.tabs, u.id = "a" ∧ u.isPrivate = false) ∧
      (∀ u, s'.findTab "a" = some u → u.isPrivate = false) ∧
      "z" ∉ s.tabs.map Session.id ∧ s.reduce (.tabList (.remove "z")) = s := by
  intro tab s s'
  have hplace : s.tabs.findIdx? (fun t => t.id = "b") = some 2 := by decide
  have hmissing : "z" ∉ s.tabs.map Session.id := by decide
  obtain ⟨t, ht, hs', -, hheir⟩ := (remove_reselects_within_mode s "b").2 2 hplace
  obtain rfl : tab "b" false = t := Option.some.inj ht
  obtain ⟨hstays, hfound⟩ := (hheir rfl).2 "a" (by decide)
  exact ⟨hplace, congrArg BrowserState.tabs hs', by decide, hstays, hfound (by decide), hmissing,
    (remove_reselects_within_mode s "z").1 hmissing⟩

end BrowserState
end BrowserTelemetry
