import BrowserTelemetry.Proofs.TabCount

/-!
# Opening a tab

A browser opens a tab with two dispatches: one adds the tab and selects it, the other attaches an
engine to the session with its id. They come to **one new tab with an engine**, because the id finds
the tab that was just added: tabs are found before custom tabs, so a custom tab with the same id is
passed over (`reduce_link_reduce_add`). Of the two dispatches only the first has anything to report.

None of this depends on how the browser came to its state. So the main statement is about every
browser, with whatever in its state, its chains, its metrics and its database.
-/

namespace BrowserTelemetry

set_option autoImplicit false

/-! ## The state -/

namespace BrowserState

variable {s : BrowserState} {l : List Session} {t : Session} {id : String}

theorem updateFirst_append {f : Session → Session} (h : id ∉ l.map Session.id) (ts : List Session) :
    updateFirst f id (l ++ ts) = l ++ updateFirst f id ts := by
  induction l with
  | nil => rfl
  | cons u rest ih =>
    rw [List.map_cons, List.mem_cons, not_or] at h
    obtain ⟨hu, hrest⟩ := h
    rw [List.cons_append, updateFirst, if_neg (Ne.symm hu), ih hrest]
    rfl

/-- A tab is added and selected. -/
theorem reduce_add_selected (h : t.id ∉ s.tabs.map Session.id) :
    s.reduce (.tabList (.add t true)) =
      { s with tabs := s.tabs ++ [t], selected := some t.id } := by
  show s.reduceTabList (.add t true) = _
  simp only [reduceTabList]
  rw [if_neg (mt hasTab_iff.1 h)]
  rfl

/-- The engine that is attached next is that of the tab just added. -/
theorem reduce_link_reduce_add (h : t.id ∉ s.tabs.map Session.id) (millis : Int64) :
    (s.reduce (.tabList (.add t true))).reduce (.engine (.link t.id millis)) =
      { s with tabs := s.tabs ++ [{ t with engine := ⟨some millis⟩ }], selected := some t.id } := by
  rw [reduce_add_selected h]
  have hadded : hasTab { s with tabs := s.tabs ++ [t], selected := some t.id } t.id = true := by
    apply hasTab_iff.2
    simp
  show updateSession _ t.id _ = _
  unfold updateSession
  rw [if_pos hadded]
  simp only [updateFirst_append h, updateFirst, if_pos]

end BrowserState

/-! ## The report -/

/-- What is reported of the tabs: whether one of them is normal, and how many are. -/
theorem Sinks.openTabsChanged_normalCount (s : Sinks) (state : BrowserState) :
    ∃ openTabs, (s.openTabsChanged state.normalCount).value =
      { s with
        openTabs
        metrics := s.metrics.countEvent
          (if ∃ t ∈ state.tabs, t.content.isPrivate = false then .haveOpenTabs
          else .haveNoOpenTabs)
        database := { s.database with
          settings := s.database.settings.map fun table =>
            table.insert OpenTabs.key
              (.text (toString (state.tabs.countP fun t => !t.content.isPrivate))) } } := by
  obtain ⟨openTabs, hchanged⟩ := s.openTabsChanged_eq state.normalCount
  refine ⟨openTabs, ?_⟩
  simp only [hchanged, OpenTabs.print_eq_toString, ← BrowserState.normalCount_pos_iff,
    ← BrowserState.normalCount_eq_countP]

/-! ## The browser -/

namespace Browser

variable {b : Browser} {t : Session} {id url : String} {isPrivate : Bool} {now : Moment}

theorem value_dispatch_link (b : Browser) (id : String) (millis : Int64) :
    (b.dispatch (.engine (.link id millis))).value =
      { b with store := ⟨b.state.reduce (.engine (.link id millis)), b.store.env⟩ } := by
  rw [value_dispatch]
  unfold middleware
  split <;> rfl

theorem value_dispatch_add (b : Browser) (t : Session) (select : Bool) :
    (b.dispatch (.tabList (.add t select))).value =
      let state := b.state.reduce (.tabList (.add t select))
      let sinks :=
        if b.config.telemetryEnabled then (b.sinks.openTabsChanged state.normalCount).value
        else b.sinks
      { b with store := ⟨state, { b.store.env with sinks }⟩ } := by
  rw [value_dispatch]
  unfold middleware
  split <;> rfl

theorem openTab_of_empty (h : url = "") :
    (b.openTab id url isPrivate now).value =
      (.error (.tab (.invalidUrl "URL cannot be empty")), b) := by
  unfold openTab Session.create
  rw [if_pos h]
  rfl

theorem openTab_of_ne_empty (h : url ≠ "") :
    (b.openTab id url isPrivate now).value =
      let added := (b.dispatch (.tabList (.add (.fresh id url isPrivate now) true))).value
      (.ok id, (added.dispatch (.engine (.link id added.sinks.clock.millis))).value) := by
  unfold openTab Session.create
  rw [if_neg h]
  rfl

/-- What the two dispatches come to. -/
theorem value_openTab (hurl : url ≠ "") (hid : id ∉ b.state.tabs.map Session.id) :
    let tab : Session := ⟨id, ⟨url, "", false, isPrivate, none⟩, ⟨some b.sinks.clock.millis⟩, now⟩
    let state := { b.state with tabs := b.state.tabs ++ [tab], selected := some id }
    let sinks :=
      if b.config.telemetryEnabled then (b.sinks.openTabsChanged state.normalCount).value
      else b.sinks
    (b.openTab id url isPrivate now).value =
      (.ok id, { b with store := ⟨state, { b.store.env with sinks }⟩ }) := by
  intro tab state sinks
  let fresh := Session.fresh id url isPrivate now
  let added := b.state.reduce (.tabList (.add fresh true))
  have hstate : added.reduce (.engine (.link id b.sinks.clock.millis)) = state :=
    BrowserState.reduce_link_reduce_add (t := fresh) hid _
  have hcount : added.normalCount = state.normalCount := by
    have hlink : ¬ BrowserAction.MayResize (.engine (.link id b.sinks.clock.millis)) := nofun
    rw [← hstate, added.normalCount_reduce_of_not_mayResize hlink]
  have hadded : (b.dispatch (.tabList (.add fresh true))).value =
      { b with store := ⟨added, { b.store.env with sinks }⟩ } := by
    have hsinks : sinks = if b.config.telemetryEnabled then
        (b.sinks.openTabsChanged added.normalCount).value else b.sinks := by
      rw [hcount]
    rw [hsinks]
    exact value_dispatch_add b fresh true
  -- To report the first dispatch leaves the clock alone.
  have hclock : sinks.clock = b.sinks.clock := by
    simp only [sinks]
    split
    · obtain ⟨openTabs, hchanged⟩ := b.sinks.openTabsChanged_eq state.normalCount
      rw [hchanged]
    · rfl
  rw [openTab_of_ne_empty hurl, hadded]
  simp only [value_dispatch_link]
  show (_, { b with store := ⟨added.reduce (.engine (.link id sinks.clock.millis)), _⟩ }) = _
  rw [hclock, hstate]

/-- **Opening a tab.** The browser may have gone through anything before, and its clock may show
    anything. An empty address is refused, and the browser stays as it was: its state, its metrics,
    the open chains and the database. For any other address, and an id that no tab has,

    * the id is given back;
    * the new tab stands at the end, with an engine attached at the reading of the clock, and is
      selected; all other tabs, the custom tabs, even one with this id, and the downloads are as
      before;
    * no chain is opened, extended, closed or reported;
    * with telemetry enabled exactly one event is counted, for whether one of the tabs is normal
      now, and no kill; the number of normal tabs is stored if there is a table for it, and if there
      is none everything else happens all the same. With telemetry disabled nothing is counted or
      stored. -/
theorem openTab_adds_linked_tab (b : Browser) (id url : String) (isPrivate : Bool) (now : Moment) :
    let r := (b.openTab id url isPrivate now).value
    (url = "" → r = (.error (.tab (.invalidUrl "URL cannot be empty")), b)) ∧
    (url ≠ "" → id ∉ b.state.tabs.map Session.id →
      r.1 = .ok id ∧
      r.2.state =
        { b.state with
          tabs := b.state.tabs ++
            [⟨id, ⟨url, "", false, isPrivate, none⟩, ⟨some b.sinks.clock.millis⟩, now⟩]
          selected := some id } ∧
      r.2.store.env.chains = b.store.env.chains ∧ r.2.sinks.reports = b.sinks.reports ∧
      (b.config.telemetryEnabled = true →
        let tracked : Event :=
          if ∃ t ∈ r.2.state.tabs, t.content.isPrivate = false then .haveOpenTabs
          else .haveNoOpenTabs
        r.2.sinks.metrics.eventCount tracked = b.sinks.metrics.eventCount tracked + 1 ∧
        (∀ e, e ≠ tracked → r.2.sinks.metrics.eventCount e = b.sinks.metrics.eventCount e) ∧
        (∀ l, r.2.sinks.metrics.killCount l = b.sinks.metrics.killCount l ∧
          r.2.sinks.metrics.ages l = b.sinks.metrics.ages l) ∧
        r.2.database =
          { b.database with
            settings := b.database.settings.map fun table =>
              table.insert OpenTabs.key
                (.text (toString (r.2.state.tabs.countP fun t => !t.content.isPrivate))) }) ∧
      (b.config.telemetryEnabled = false → r.2.sinks = b.sinks)) := by
  intro r
  refine ⟨openTab_of_empty, fun hurl hid => ?_⟩
  have hr : r = _ := value_openTab hurl hid
  cases hconfig : b.config.telemetryEnabled with
  | false =>
    rw [hconfig] at hr
    rw [hr]
    exact ⟨rfl, rfl, rfl, rfl, nofun, fun _ => rfl⟩
  | true =>
    obtain ⟨openTabs, hchanged⟩ := b.sinks.openTabsChanged_normalCount _
    rw [hconfig, if_pos rfl, hchanged] at hr
    rw [hr]
    refine ⟨rfl, rfl, rfl, rfl, fun _ => ⟨?_, fun e he => ?_, fun l => ⟨?_, ?_⟩, rfl⟩, nofun⟩
    · exact Metrics.eventCount_countEvent_self _ _
    · exact Metrics.eventCount_countEvent_of_ne _ he
    · exact Metrics.killCount_countEvent _ _ l
    · exact Metrics.ages_countEvent _ _ l

/-- Two tabs are opened where none is normal, the first one under the id of a custom tab and
    private, while a chain is open and the settings are gone. -/
theorem openTab_adds_linked_tab_beside_custom :
    let tab := fun id isPrivate => Session.fresh id "https://a.test" isPrivate .epoch
    let actions : List BrowserAction :=
      [.tabList (.add (tab "m" true) true), .customTabList (.add (tab "n" false)),
        .content ⟨"m", .loadRequest (.plain "https://b.test")⟩]
    let ps := actions.map fun a => Turn.mk ⟨5⟩ (fun db => { db with settings := none }) a
    let db : Database := ⟨some .empty, some .empty, none⟩
    ∃ b, (build ⟨"", true, "info", []⟩ db ⟨0⟩).value = .ok b ∧
      let b' := (b.playAll ps).value
      let one := (b'.openTab "n" "https://c.test" true .epoch).value
      let two := (one.2.openTab "o" "https://d.test" false .epoch).value
      one.1 = .ok "n" ∧ two.1 = .ok "o" ∧
        two.2.state =
          { b'.state with
            tabs := b'.state.tabs ++
              [⟨"n", ⟨"https://c.test", "", false, true, none⟩, ⟨some 5⟩, .epoch⟩] ++
              [⟨"o", ⟨"https://d.test", "", false, false, none⟩, ⟨some 5⟩, .epoch⟩]
            selected := some "o" } ∧
        b'.state.customTabs = [tab "n" false] ∧
        b'.sinks.metrics.eventCount .haveNoOpenTabs = 1 ∧
        one.2.sinks.metrics.eventCount .haveNoOpenTabs = 2 ∧
        one.2.sinks.metrics.eventCount .haveOpenTabs = 0 ∧
        two.2.sinks.metrics.eventCount .haveNoOpenTabs = 2 ∧
        two.2.sinks.metrics.eventCount .haveOpenTabs = 1 ∧
        two.2.store.env.chains.chain? "m" = some ⟨"https://a.test", ["https://b.test"]⟩ ∧
        two.2.database.settings = none ∧
        (b'.openTab "z" "" true .epoch).value =
          (.error (.tab (.invalidUrl "URL cannot be empty")), b') := by
  intro tab actions ps db
  refine ⟨_, rfl, ?_⟩
  intro b' one two
  obtain ⟨hrefuses, -⟩ := openTab_adds_linked_tab b' "z" "" true .epoch
  obtain ⟨-, hopens⟩ := openTab_adds_linked_tab b' "n" "https://c.test" true .epoch
  obtain ⟨hid, hstate, hchains, -, hon, -⟩ := hopens (by decide) (by decide)
  obtain ⟨hhidden, hothers, -, -⟩ := hon rfl
  have hnone : ¬ ∃ t ∈ one.2.state.tabs, t.content.isPrivate = false := by
    rw [hstate]
    decide
  rw [if_neg hnone] at hhidden hothers
  obtain ⟨-, hopens'⟩ := openTab_adds_linked_tab one.2 "o" "https://d.test" false .epoch
  obtain ⟨hid', hstate', hchains', -, hon', -⟩ := hopens' (by decide) (by rw [hstate]; decide)
  obtain ⟨hshown, hothers', -, hdatabase⟩ := hon' rfl
  have hsome : ∃ t ∈ two.2.state.tabs, t.content.isPrivate = false := by
    rw [hstate', hstate]
    decide
  rw [if_pos hsome] at hshown hothers'
  have hhidden' : one.2.sinks.metrics.eventCount .haveNoOpenTabs = 2 := hhidden
  have hshown' : one.2.sinks.metrics.eventCount .haveOpenTabs = 0 := hothers _ (by decide)
  refine ⟨hid, hid', ?_, rfl, rfl, hhidden', hshown', ?_, ?_, ?_, ?_, hrefuses rfl⟩
  · rw [hstate', hstate]
    rfl
  · rw [hothers' _ (by decide), hhidden']
  · rw [hshown, hshown']
  · rw [hchains', hchains]
    rfl
  · rw [hdatabase]
    rfl

end Browser

end BrowserTelemetry
