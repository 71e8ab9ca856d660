import BrowserTelemetry.Proofs.TabOrder

/-!
# A batch of tabs against single additions

Tabs can be added in a batch or one after the other. The lists come out the same. The selection need
not: an addition that is dropped selects nothing, whereas a batch that finds nothing selected
selects its first tab **by its id, be it new or not**. So the two differ just where the first tab of
the batch is one that is there already (`batch_against_single_additions`).

Both are compared with a closed form over the newcomers; it is the one for single additions that
needs the induction (`reduceAll_additions`).
-/

namespace BrowserTelemetry
namespace BrowserState

set_option autoImplicit false

variable {s : BrowserState} {t : Session}

/-- The action that adds a tab without asking for its selection. -/
def addition (t : Session) : BrowserAction := .tabList (.add t false)

theorem reduce_addition_of_mem (h : t.id ∈ s.tabs.map Session.id) : s.reduce (addition t) = s :=
  if_pos (hasTab_iff.2 h)

theorem reduce_addition_of_notMem (h : t.id ∉ s.tabs.map Session.id) :
    s.reduce (addition t) =
      { s with tabs := s.tabs ++ [t], selected := s.selected.or (some t.id) } := by
  show s.reduceTabList (.add t false) = _
  simp only [reduceTabList]
  rw [if_neg (mt hasTab_iff.1 h)]
  cases s.selected <;> rfl

/-- Single additions select the first newcomer, if nothing is selected when they begin. -/
theorem reduceAll_additions (s : BrowserState) (tabs : List Session) :
    s.reduceAll (tabs.map addition) =
      { s with
        tabs := appendTabs s.tabs tabs
        selected := s.selected.or ((newcomers s.tabs tabs).head?.map Session.id) } := by
  induction tabs generalizing s with
  | nil => simp [appendTabs]
  | cons t rest ih =>
    rw [List.map_cons, reduceAll_cons, ih, appendTabs_cons]
    by_cases h : t.id ∈ s.tabs.map Session.id
    · rw [reduce_addition_of_mem h, appendTab_of_mem h, newcomers_cons_of_mem h]
    · rw [reduce_addition_of_notMem h, appendTab_of_notMem h, newcomers_cons_of_notMem h]
      -- Whoever is new after the first newcomer finds it selected.
      simp

/-- The first newcomer of a batch is its first tab, unless that one is there already. -/
theorem head?_ne_newcomers_iff {l tabs : List Session} :
    tabs.head?.map Session.id ≠ (newcomers l tabs).head?.map Session.id ↔
      ∃ t, tabs.head? = some t ∧ t.id ∈ l.map Session.id := by
  cases tabs with
  | nil => simp
  | cons t rest =>
    by_cases h : t.id ∈ l.map Session.id
    · refine iff_of_true ?_ ⟨t, rfl, h⟩
      intro heq
      obtain ⟨u, hu, hid⟩ := Option.map_eq_some_iff.1 heq.symm
      exact id_notMem_of_mem_newcomers (List.mem_of_head? hu) (hid ▸ h)
    · refine iff_of_false ?_ ?_
      · rw [newcomers_cons_of_notMem h]
        exact fun hne => hne rfl
      · rintro ⟨u, hu, hmem⟩
        obtain rfl := Option.some.inj hu
        exact h hmem

/-- **A batch against single additions.** To add tabs in a batch and to add them one after the
    other, none of them to be selected, gives the same tabs, custom tabs and downloads. It gives the
    same selection but in one case: nothing is selected, and the first of the tabs has the id of a
    tab that is there. Then the batch selects that tab, and the single additions select the first
    newcomer, or nothing if there is none. -/
theorem batch_against_single_additions (s : BrowserState) (tabs : List Session) :
    let batch := s.reduce (.tabList (.addMultiple tabs))
    let single := s.reduceAll (tabs.map addition)
    batch.tabs = single.tabs ∧ batch.customTabs = single.customTabs ∧
    batch.downloads = single.downloads ∧
    (batch.selected ≠ single.selected ↔
      s.selected = none ∧ ∃ t, tabs.head? = some t ∧ t.id ∈ s.tabs.map Session.id) ∧
    ∀ t, s.selected = none → tabs.head? = some t → t.id ∈ s.tabs.map Session.id →
      batch.selected = some t.id ∧ batch.findTab t.id = s.findTab t.id ∧
      single.selected = (newcomers s.tabs tabs).head?.map Session.id := by
  intro batch single
  have hbatch : batch.selected = s.selected.or (tabs.head?.map Session.id) := rfl
  have hsingle : single = _ := reduceAll_additions s tabs
  refine ⟨by rw [hsingle]; rfl, by rw [hsingle]; rfl, by rw [hsingle]; rfl, ?_, ?_⟩
  · rw [hbatch, hsingle]
    cases hselected : s.selected with
    | none => simpa using head?_ne_newcomers_iff
    | some id => simp
  · intro t hselected ht hmem
    obtain ⟨u, hu⟩ := Option.isSome_iff_exists.1 (findIn_isSome_iff.2 hmem)
    refine ⟨?_, ?_, ?_⟩
    · rw [hbatch, hselected, ht]
      rfl
    · show findIn (appendTabs s.tabs tabs) t.id = findIn s.tabs t.id
      rw [findIn_appendTabs, hu, Option.some_or]
    · rw [hsingle, hselected, Option.none_or]

/-- Nothing is selected; the batch begins with a tab that is there and has a new one twice. -/
theorem batch_against_single_additions_unselected :
    let tab := fun id => Session.fresh id "https://a.test" false .epoch
    let s := withTabs [tab "a", tab "b"] none
    let tabs := [tab "b", tab "c", tab "c", tab "d"]
    tabs.head? = some (tab "b") ∧ (tab "b").id ∈ s.tabs.map Session.id ∧
    (s.reduce (.tabList (.addMultiple tabs))).selected = some "b" ∧
    (s.reduceAll (tabs.map addition)).selected = some "c" := by
  intro tab s tabs
  have hmem : (tab "b").id ∈ s.tabs.map Session.id := by decide
  obtain ⟨-, -, -, -, hdiffer⟩ := batch_against_single_additions s tabs
  obtain ⟨hbatch, -, hsingle⟩ := hdiffer (tab "b") rfl rfl hmem
  exact ⟨rfl, hmem, hbatch, hsingle.trans (by decide)⟩

end BrowserState
end BrowserTelemetry
