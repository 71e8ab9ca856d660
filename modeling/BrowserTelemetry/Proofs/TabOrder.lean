import BrowserTelemetry.Proofs.SessionIds

/-!
# Which tabs there are after a change, and in which order

For each tab of a batch the reducer looks at a list that grows as it goes. What comes of that is
said here without a growing list: first **the tabs that are kept**, as they were and in their order,
and then **the newcomers**, which are those tabs of the batch whose ids were free before it, of
several with one id the first (`appendTabs_eq_append_newcomers`).

So a stale copy of a tab never gets past the tab itself: whatever is not removed is found under its
id as it was.
-/

namespace BrowserTelemetry
namespace BrowserState

set_option autoImplicit false

variable {s : BrowserState} {l new : List Session} {t : Session}

/-- The sessions of `new` whose ids no session of `l` has, of several with one id the first. -/
def newcomers (l new : List Session) : List Session :=
  (new.filter fun t => t.id ∉ l.map Session.id).eraseDupsBy fun t u => t.id = u.id

@[simp] theorem newcomers_nil : newcomers l [] = [] := rfl

theorem newcomers_cons_of_mem (h : t.id ∈ l.map Session.id) :
    newcomers l (t :: new) = newcomers l new := by
  unfold newcomers
  rw [List.filter_cons_of_neg (by simpa using h)]

/-- Once a newcomer is there its id is taken, for the rest of the batch as for any other. -/
theorem newcomers_cons_of_notMem (h : t.id ∉ l.map Session.id) :
    newcomers l (t :: new) = t :: newcomers (l ++ [t]) new := by
  unfold newcomers
  rw [List.filter_cons_of_pos (by simpa using h), List.eraseDupsBy_cons, List.filter_filter]
  congr 2
  refine List.filter_congr fun u _ => ?_
  by_cases hut : u.id = t.id
  · simp [hut]
  · simp [hut]

theorem id_notMem_of_mem_newcomers (h : t ∈ newcomers l new) : t.id ∉ l.map Session.id := by
  induction new generalizing l with
  | nil => exact absurd h (by simp)
  | cons u rest ih =>
    by_cases hu : u.id ∈ l.map Session.id
    · rw [newcomers_cons_of_mem hu] at h
      exact ih h
    · rw [newcomers_cons_of_notMem hu] at h
      rcases List.mem_cons.1 h with rfl | h
      · exact hu
      · intro ht
        exact ih h (by simp only [List.map_append, List.mem_append]; exact .inl ht)

theorem appendTabs_eq_append_newcomers : appendTabs l new = l ++ newcomers l new := by
  induction new generalizing l with
  | nil => exact (List.append_nil l).symm
  | cons t rest ih =>
    by_cases h : t.id ∈ l.map Session.id
    · rw [appendTabs_cons, appendTab_of_mem h, ih, newcomers_cons_of_mem h]
    · rw [appendTabs_cons, appendTab_of_notMem h, ih, newcomers_cons_of_notMem h, List.append_assoc]
      rfl

/-- No change both removes tabs and brings some, so which ids are free is the same before it as
    after the tabs are removed. -/
theorem newcomers_filter_keeps (l : List Session) (a : TabListAction) :
    newcomers (l.filter a.keeps) a.brings = newcomers l a.brings := by
  by_cases hall : ∀ t ∈ l, a.keeps t = true
  · rw [List.filter_eq_self.2 hall]
  · simp only [not_forall] at hall
    obtain ⟨t, -, ht⟩ := hall
    rw [TabListAction.brings_eq_nil (by simpa using ht), newcomers_nil, newcomers_nil]

/-- **The tabs after a change to their list**, where no two of them share an id before it: those
    that the change does not address, as they were and in their order, then the tabs it brings under
    ids that none of the old ones has, in its order and the first of each id. No two share an id
    then either, a tab that is kept is the one that its id finds, and custom tabs and downloads are
    as before. -/
theorem tabs_after_change (h : (s.tabs.map Session.id).Nodup) (a : TabListAction) :
    let s' := s.reduce (.tabList a)
    s'.tabs = s.tabs.filter a.keeps ++ newcomers s.tabs a.brings ∧
    s'.customTabs = s.customTabs ∧ s'.downloads = s.downloads ∧
    (s'.tabs.map Session.id).Nodup ∧
    ∀ t ∈ s.tabs, a.keeps t = true → s'.findTab t.id = some t := by
  intro s'
  have htabs : s'.tabs = s.tabs.filter a.keeps ++ newcomers s.tabs a.brings := by
    show (s.reduceTabList a).tabs = _
    rw [tabs_reduceTabList h, appendTabs_eq_append_newcomers, newcomers_filter_keeps]
  refine ⟨htabs, customTabs_reduceTabList s a, downloads_reduceTabList s a,
    nodup_ids_reduce h (.tabList a), ?_⟩
  intro t ht hkeeps
  show (s.reduceTabList a).findTab t.id = some t
  have hfound : s.findTab t.id = some t := (findIn_eq_some_iff h).2 ⟨ht, rfl⟩
  rw [findTab_reduceTabList h, hfound, Option.filter_some, if_pos hkeeps, Option.some_or]

/-- A session of an earlier run is restored: it has a stale copy of each tab that is there, and two
    copies of one that is not. -/
theorem tabs_after_change_restored :
    let tab := fun id url isPrivate => Session.fresh id url isPrivate .epoch
    let s := withTabs [tab "a" "https://a.test" false, tab "p" "https://p.test" true] (some "a")
    let s' := s.reduce (.tabList (.restore [tab "p" "https://old.test" false,
      tab "b" "https://b.test" false, tab "a" "https://old.test" false,
      tab "b" "https://old.test" true] (some "b")))
    (s.tabs.map Session.id).Nodup ∧
    s'.tabs = [tab "a" "https://a.test" false, tab "p" "https://p.test" true,
      tab "b" "https://b.test" false] ∧
    s'.findTab "p" = some (tab "p" "https://p.test" true) := by
  intro tab s s'
  have hnodup : (s.tabs.map Session.id).Nodup := by decide
  obtain ⟨htabs, -, -, -, hkept⟩ := tabs_after_change hnodup
    (.restore [tab "p" "https://old.test" false, tab "b" "https://b.test" false,
      tab "a" "https://old.test" false, tab "b" "https://old.test" true] (some "b"))
  exact ⟨hnodup, htabs.trans (by decide), hkept (tab "p" "https://p.test" true) (by decide) rfl⟩

end BrowserState
end BrowserTelemetry
