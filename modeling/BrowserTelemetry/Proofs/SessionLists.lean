import BrowserTelemetry.Tab.Reduce

/-!
# Lists of sessions, by their ids

The reducer looks sessions up by id, changes the first one of an id, appends those whose id is not
taken, and cuts one out. What each of these does is said here **in terms of the list of ids**, so
that what is proved of a state never has to look at the recursion behind it.
-/

namespace BrowserTelemetry
namespace BrowserState

set_option autoImplicit false

variable {l new before after : List Session} {t : Session} {id : String}

/-! ## Looking up -/

theorem findIn_isSome_iff : (findIn l id).isSome = true ↔ id ∈ l.map Session.id := by
  simp [findIn, List.find?_isSome]

theorem hasTab_iff {s : BrowserState} : s.hasTab id = true ↔ id ∈ s.tabs.map Session.id :=
  findIn_isSome_iff

/-! ## Changing the first session of an id -/

/-- What a change leaves alone in a session it leaves alone in a list. -/
theorem map_updateFirst {α : Type} {f : Session → Session} {g : Session → α}
    (hf : ∀ t, g (f t) = g t) : (updateFirst f id l).map g = l.map g := by
  induction l with
  | nil => rfl
  | cons t rest ih =>
    rw [updateFirst]
    split
    · simp [hf]
    · simp [ih]

theorem map_tabs_updateSession {α : Type} (s : BrowserState) {f : Session → Session}
    {g : Session → α} (hf : ∀ t, g (f t) = g t) :
    (s.updateSession id f).tabs.map g = s.tabs.map g := by
  unfold updateSession
  split
  · exact map_updateFirst hf
  · rfl

theorem map_customTabs_updateSession {α : Type} (s : BrowserState) {f : Session → Session}
    {g : Session → α} (hf : ∀ t, g (f t) = g t) :
    (s.updateSession id f).customTabs.map g = s.customTabs.map g := by
  unfold updateSession
  split
  · rfl
  · exact map_updateFirst hf

theorem selected_updateSession (s : BrowserState) (f : Session → Session) :
    (s.updateSession id f).selected = s.selected := by
  unfold updateSession
  split <;> rfl

theorem downloads_updateSession (s : BrowserState) (f : Session → Session) :
    (s.updateSession id f).downloads = s.downloads := by
  unfold updateSession
  split <;> rfl

/-! ## Appending -/

theorem appendTab_of_mem (h : t.id ∈ l.map Session.id) : appendTab l t = l :=
  if_pos (findIn_isSome_iff.2 h)

theorem appendTab_of_notMem (h : t.id ∉ l.map Session.id) : appendTab l t = l ++ [t] :=
  if_neg (mt findIn_isSome_iff.1 h)

theorem appendTabs_cons (t : Session) :
    appendTabs l (t :: new) = appendTabs (appendTab l t) new := rfl

theorem mem_ids_appendTab :
    id ∈ (appendTab l t).map Session.id ↔ id ∈ l.map Session.id ∨ id = t.id := by
  by_cases h : t.id ∈ l.map Session.id
  · rw [appendTab_of_mem h]
    constructor
    · exact Or.inl
    · rintro (hid | rfl)
      · exact hid
      · exact h
  · rw [appendTab_of_notMem h]
    simp

/-- Every id that was there or is appended is there afterwards, also when several of the appended
    sessions share one. -/
theorem mem_ids_appendTabs :
    id ∈ (appendTabs l new).map Session.id ↔ id ∈ l.map Session.id ∨ id ∈ new.map Session.id := by
  induction new generalizing l with
  | nil => simp [appendTabs]
  | cons t rest ih =>
    rw [appendTabs_cons, ih, mem_ids_appendTab, List.map_cons, List.mem_cons, or_assoc]

theorem nodup_ids_appendTab (h : (l.map Session.id).Nodup) :
    ((appendTab l t).map Session.id).Nodup := by
  by_cases ht : t.id ∈ l.map Session.id
  · rw [appendTab_of_mem ht]
    exact h
  · rw [appendTab_of_notMem ht, List.map_append, List.map_singleton]
    refine List.nodup_append.2 ⟨h, by simp, ?_⟩
    intro a ha b hb hab
    obtain rfl : a = t.id := hab.trans (List.mem_singleton.1 hb)
    exact ht ha

/-- The batch is looked at against the growing list, so duplicates inside it are dropped too. -/
theorem nodup_ids_appendTabs (h : (l.map Session.id).Nodup) :
    ((appendTabs l new).map Session.id).Nodup := by
  induction new generalizing l with
  | nil => exact h
  | cons t rest ih => exact ih (nodup_ids_appendTab h)

/-! ## Cutting a session out -/

/-- What `splitAt?` finds: the list in three parts, the middle one being the first of its id. -/
theorem eq_of_splitAt? (h : splitAt? id l = some (before, t, after)) :
    l = before ++ t :: after ∧ t.id = id ∧ id ∉ before.map Session.id := by
  induction l generalizing before with
  | nil => exact absurd h (by simp [splitAt?])
  | cons u rest ih =>
    rw [splitAt?] at h
    split at h
    · rename_i hu
      obtain ⟨rfl, rfl, rfl⟩ : [] = before ∧ u = t ∧ rest = after := by simpa using h
      exact ⟨rfl, hu, by simp⟩
    · rename_i hu
      obtain ⟨⟨b, found, a⟩, hsplit, heq⟩ := Option.map_eq_some_iff.1 h
      obtain ⟨rfl, rfl, rfl⟩ : u :: b = before ∧ found = t ∧ a = after := by simpa using heq
      obtain ⟨rfl, hid, hb⟩ := ih hsplit
      exact ⟨rfl, hid, by simpa [Ne.symm hu] using hb⟩

theorem splitAt?_eq_none_iff : splitAt? id l = none ↔ id ∉ l.map Session.id := by
  induction l with
  | nil => simp [splitAt?]
  | cons t rest ih =>
    by_cases ht : t.id = id
    · simp [splitAt?, ht]
    · simp [splitAt?, ht, ih, Ne.symm ht]

/-- An heir is one of the sessions that stay, and of the mode it was looked for in. -/
theorem of_heir {mode : Bool} (h : heir before after mode = some id) :
    ∃ u ∈ before ++ after, u.id = id ∧ u.isPrivate = mode := by
  obtain ⟨u, hu, rfl⟩ := Option.map_eq_some_iff.1 h
  refine ⟨u, ?_, rfl, ?_⟩
  -- It is looked for after the one that goes, and only then before it.
  · rcases Option.or_eq_some_iff.1 hu with hfind | ⟨-, hfind⟩
    · exact List.mem_append_right _ (List.mem_of_find?_eq_some hfind)
    · exact List.mem_append_left _ (List.mem_reverse.1 (List.mem_of_find?_eq_some hfind))
  · rcases Option.or_eq_some_iff.1 hu with hfind | ⟨-, hfind⟩
    · simpa using List.find?_some hfind
    · simpa using List.find?_some hfind

/-- Without a tab of the id there is nothing to remove. -/
theorem removeTab_of_notMem {s : BrowserState} (h : id ∉ s.tabs.map Session.id) :
    s.removeTab id = s := by
  rw [removeTab, splitAt?_eq_none_iff.2 h]

/-- The tab that goes is the first of its id, and its heir comes forward if it was selected. -/
theorem removeTab_of_mem {s : BrowserState} (h : id ∈ s.tabs.map Session.id) :
    ∃ before t after, s.tabs = before ++ t :: after ∧ t.id = id ∧ id ∉ before.map Session.id ∧
      s.removeTab id =
        { s with
          tabs := before ++ after
          selected :=
            if s.selected = some id then heir before after t.isPrivate else s.selected } := by
  cases hsplit : splitAt? id s.tabs with
  | none => exact absurd h (splitAt?_eq_none_iff.1 hsplit)
  | some parts =>
    obtain ⟨before, t, after⟩ := parts
    obtain ⟨htabs, hid, hbefore⟩ := eq_of_splitAt? hsplit
    refine ⟨before, t, after, htabs, hid, hbefore, ?_⟩
    rw [removeTab, hsplit]

end BrowserState
end BrowserTelemetry
