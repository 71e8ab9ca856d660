import BrowserTelemetry.Proofs.Digits
import BrowserTelemetry.Proofs.SinkEffects
import BrowserTelemetry.Proofs.Turns
import Mathlib.Data.List.Induction

/-!
# The stored number of open tabs

Telemetry counts the tabs anew after some of the actions only, and writes the number to the settings
and to their cache. That the number is right after **every** action rests on two facts that know
nothing of each other: all other actions leave the number of normal tabs alone
(`normalCount_reduce_of_not_mayResize`), and nothing else writes the setting
(`Store.settings_play`). A run puts the two together (`Store.settings_playAll`).

A browser that is built later reads the text that is stored, so its number is the same because the
decimal text of a number reads back as that number (`OpenTabs.parse_print`).
-/

namespace BrowserTelemetry

set_option autoImplicit false

/-! ## The number of normal tabs -/

/-- The actions that can add normal tabs or remove some. -/
inductive BrowserAction.MayResize : BrowserAction → Prop
  | add (tab : Session) (select : Bool) : MayResize (.tabList (.add tab select))
  | addMultiple (tabs : List Session) : MayResize (.tabList (.addMultiple tabs))
  | remove (id : String) : MayResize (.tabList (.remove id))
  | removeAllNormal : MayResize (.tabList .removeAllNormal)
  | removeAll : MayResize (.tabList .removeAll)
  | restore (tabs : List Session) (selected : Option String) :
      MayResize (.tabList (.restore tabs selected))

/-- These are the actions after which telemetry counts. -/
theorem Telemetry.countsTabs_iff {a : BrowserAction} : countsTabs a = true ↔ a.MayResize := by
  constructor
  · intro h
    cases a with
    | tabList a =>
      cases a with
      | add tab select => exact .add tab select
      | addMultiple tabs => exact .addMultiple tabs
      | select id => exact absurd h Bool.false_ne_true
      | remove id => exact .remove id
      | removeAllNormal => exact .removeAllNormal
      | removeAllPrivate => exact absurd h Bool.false_ne_true
      | removeAll => exact .removeAll
      | restore tabs selected => exact .restore tabs selected
    | content a => exact absurd h Bool.false_ne_true
    | download a => exact absurd h Bool.false_ne_true
    | engine a => exact absurd h Bool.false_ne_true
    | customTabList a => exact absurd h Bool.false_ne_true
  · intro h
    cases h <;> rfl

namespace BrowserState

theorem normalCount_eq_countP (s : BrowserState) :
    s.normalCount = s.tabs.countP fun t => !t.content.isPrivate := by
  rw [normalCount, normalTabs, List.countP_eq_length_filter]
  rfl

theorem normalCount_pos_iff {s : BrowserState} :
    0 < s.normalCount ↔ ∃ t ∈ s.tabs, t.content.isPrivate = false := by
  rw [normalCount_eq_countP, List.countP_pos_iff]
  simp only [Bool.not_eq_true']

/-- The number of normal tabs is told from which tabs are private. -/
theorem normalCount_congr {s s' : BrowserState}
    (h : s'.tabs.map Session.isPrivate = s.tabs.map Session.isPrivate) :
    s'.normalCount = s.normalCount := by
  have hcount : ∀ u : BrowserState, u.normalCount = (u.tabs.map Session.isPrivate).countP (!·) := by
    intro u
    rw [normalCount_eq_countP, List.countP_map]
    rfl
  rw [hcount, hcount, h]

/-- No other action changes the number of normal tabs. -/
theorem normalCount_reduce_of_not_mayResize (s : BrowserState) {a : BrowserAction}
    (h : ¬ a.MayResize) : (s.reduce a).normalCount = s.normalCount := by
  cases a with
  | content a =>
    -- Whether a tab is private is none of the things that change.
    refine normalCount_congr (map_tabs_updateSession s fun t => ?_)
    cases a.change <;> rfl
  | download a => cases a <;> rfl
  | engine a => cases a <;> exact normalCount_congr (map_tabs_updateSession s fun _ => rfl)
  | tabList a =>
    cases a with
    | select id =>
      simp only [reduce, reduceTabList]
      split <;> rfl
    | removeAllPrivate =>
      -- The tabs that stay are the normal ones.
      simp [reduce, reduceTabList, keepTabs, normalCount, normalTabs]
    | add tab select => exact absurd (.add tab select) h
    | addMultiple tabs => exact absurd (.addMultiple tabs) h
    | remove id => exact absurd (.remove id) h
    | removeAllNormal => exact absurd .removeAllNormal h
    | removeAll => exact absurd .removeAll h
    | restore tabs selected => exact absurd (.restore tabs selected) h
  | customTabList a => cases a <;> rfl

end BrowserState

/-! ## The stored text -/

namespace OpenTabs

theorem print_eq_toString (n : Nat) : print n = toString n :=
  Nat.toString_eq_ofList_toDigits.symm

theorem digits?_toDigits (n : Nat) : digits? (Nat.toDigits 10 n) = some n := by
  have hdigits : (Nat.toDigits 10 n).all Char.isDigit = true :=
    List.all_eq_true.2 fun c hc => Digits.isDigit_of_mem hc
  rw [digits?, if_neg (by simp [hdigits]), Digits.foldl_toDigits]

/-- The text of a number reads back as the number, unless that has more than 64 bits. -/
theorem parse_print_eq_filter (n : Nat) :
    parse (print n) = (some n).filter fun n => decide (n < UInt64.size) := by
  rw [parse, print, String.toList_ofList]
  -- The text does not begin with a sign: a sign is no digit.
  split
  · rename_i rest hplus
    have hdigit : '+'.isDigit = true := Digits.isDigit_of_mem (hplus ▸ List.mem_cons_self)
    exact absurd hdigit (by decide)
  · rw [digits?_toDigits]

theorem parse_print {n : Nat} (h : n < UInt64.size) : parse (print n) = some n := by
  rw [parse_print_eq_filter, Option.filter_some, if_pos (decide_eq_true h)]

theorem stored_of_row {db : Database} {table : SortedMap String StoredValue}
    (htable : db.settings = some table) {n : Nat}
    (hrow : table.get? key = some (.text (print n))) (h : n < UInt64.size) :
    stored db = .ok n := by
  simp only [stored, Database.getSetting, htable, hrow, parse_print h]

end OpenTabs

/-! ## One action -/

namespace Telemetry

variable {t : Telemetry} {table : SortedMap String StoredValue}

theorem settings_before (state : BrowserState) (a : BrowserAction) (t : Telemetry) :
    (before state a t).value.sinks.database.settings = t.sinks.database.settings ∧
      (before state a t).value.sinks.openTabs = t.sinks.openTabs := by
  obtain ⟨metrics, reports, adClicks, hsinks⟩ := sinks_before_eq state a t
  rw [hsinks]
  exact ⟨rfl, rfl⟩

/-- After an action that can resize the list of tabs the number of normal tabs is stored. -/
theorem settings_after (htable : t.sinks.database.settings = some table) (state : BrowserState)
    {a : BrowserAction} (h : a.MayResize) :
    (after state a t).value.sinks.database.settings =
        some (table.insert OpenTabs.key (.text (OpenTabs.print state.normalCount))) ∧
      (after state a t).value.sinks.openTabs = ⟨some state.normalCount⟩ := by
  rw [value_after, if_pos (countsTabs_iff.2 h)]
  simp only [Sinks.value_openTabsChanged, Sinks.value_track, Sinks.persist, OpenTabs.write,
    Database.setSetting, Database.putSetting, htable]
  exact ⟨rfl, rfl⟩

theorem after_of_not_mayResize (state : BrowserState) {a : BrowserAction} (h : ¬ a.MayResize)
    (t : Telemetry) : (after state a t).value = t := by
  rw [value_after, if_neg (mt countsTabs_iff.1 h)]

end Telemetry

/-! ## Runs -/

namespace Store

variable {s : Store Telemetry} {table : SortedMap String StoredValue}

/-- A turn that leaves the settings to the store. -/
theorem settings_play (htable : s.env.sinks.database.settings = some table) {p : Turn}
    (hkeep : ∀ db, (p.meddle db).settings = db.settings) :
    let r := (play [Telemetry.middleware] s p).value
    (p.action.MayResize →
      r.env.sinks.database.settings =
          some (table.insert OpenTabs.key (.text (OpenTabs.print r.state.normalCount))) ∧
        r.env.sinks.openTabs = ⟨some r.state.normalCount⟩) ∧
    (¬ p.action.MayResize →
      r.env.sinks.database.settings = some table ∧ r.env.sinks.openTabs = s.env.sinks.openTabs ∧
        r.state.normalCount = s.state.normalCount) := by
  intro r
  have hr : r = ⟨s.state.reduce p.action, (Telemetry.after (s.state.reduce p.action) p.action
      (Telemetry.before s.state p.action
        { s.env with sinks := p.prepare s.env.sinks }).value).value⟩ :=
    value_dispatch_around _ _ _ _
  obtain ⟨hsettings, hcache⟩ := Telemetry.settings_before s.state p.action
    { s.env with sinks := p.prepare s.env.sinks }
  have hprepared := hsettings.trans ((hkeep _).trans htable)
  constructor
  · intro hresize
    rw [hr]
    exact Telemetry.settings_after hprepared _ hresize
  · intro hsame
    rw [hr, Telemetry.after_of_not_mayResize _ hsame]
    exact ⟨hprepared, hcache, s.state.normalCount_reduce_of_not_mayResize hsame⟩

/-- **The settings after a run.** Once the list of tabs may have been resized, the row and the cache
    hold the number of normal tabs; until then they hold what they held, and the number of normal
    tabs is what it was. No other row is touched. -/
theorem settings_playAll (htable : s.env.sinks.database.settings = some table) {ps : List Turn}
    (hkeep : ∀ p ∈ ps, ∀ db, (p.meddle db).settings = db.settings) :
    let r := (playAll [Telemetry.middleware] s ps).value
    ∃ table', r.env.sinks.database.settings = some table' ∧
      (∀ k, OpenTabs.key ≠ k → table'.get? k = table.get? k) ∧
      ((∃ p ∈ ps, p.action.MayResize) →
        table'.get? OpenTabs.key = some (.text (OpenTabs.print r.state.normalCount)) ∧
          r.env.sinks.openTabs = ⟨some r.state.normalCount⟩) ∧
      ((∀ p ∈ ps, ¬ p.action.MayResize) →
        r.env.sinks.openTabs = s.env.sinks.openTabs ∧
          r.state.normalCount = s.state.normalCount) := by
  induction ps using List.reverseRecOn with
  | nil =>
    refine ⟨table, htable, fun _ _ => rfl, fun h => ?_, fun _ => ⟨rfl, rfl⟩⟩
    obtain ⟨p, hp, -⟩ := h
    exact absurd hp List.not_mem_nil
  | append_singleton ps p ih =>
    obtain ⟨table', htable', hothers, hcounted, hquiet⟩ :=
      ih fun q hq => hkeep q (List.mem_append_left _ hq)
    obtain ⟨hresized, hkept⟩ := settings_play htable' (hkeep p (by simp))
    rw [value_playAll_concat]
    by_cases hresize : p.action.MayResize
    · obtain ⟨hrow, hcache⟩ := hresized hresize
      refine ⟨_, hrow, fun k hk => ?_, fun _ => ⟨SortedMap.get?_insert_self _ _ _, hcache⟩, ?_⟩
      · rw [SortedMap.get?_insert_of_ne _ _ hk, hothers k hk]
      · intro hnone
        exact absurd hresize (hnone p (by simp))
    · obtain ⟨hsame, hcache, hcount⟩ := hkept hresize
      refine ⟨table', hsame, hothers, ?_, ?_⟩
      · rintro ⟨q, hq, hqresize⟩
        rcases List.mem_append.1 hq with hq | hq
        · rw [hcache, hcount]
          exact hcounted ⟨q, hq, hqresize⟩
        · obtain rfl := List.mem_singleton.1 hq
          exact absurd hqresize hresize
      · intro hnone
        rw [hcache, hcount]
        exact hquiet fun q hq => hnone q (List.mem_append_left _ hq)

end Store

/-! ## Browsers -/

namespace Browser

variable {config : Config} {db : Database} {clock : Clock} {b : Browser}
  {table : SortedMap String StoredValue}

theorem openTabsCount_of_cached {n : Nat} (h : b.sinks.openTabs = ⟨some n⟩) :
    b.openTabsCount.1 = .ok n := by
  simp only [openTabsCount, h, OpenTabs.read]
  rfl

/-- Whether the providers can be told depends on their own setting alone. -/
theorem providers_of_getSetting (config' : Config) {db' : Database} {list : List SearchProvider}
    (h : (providers config db).value = .ok list)
    (hsame : db'.getSetting providersKey = db.getSetting providersKey) :
    ∃ list', (providers config' db').value = .ok list' := by
  have hjson : db'.getJson (Codec.list Codec.searchProvider) providersKey =
      db.getJson (Codec.list Codec.searchProvider) providersKey := by
    rw [Database.getJson, Database.getJson, hsame]
  unfold providers at h ⊢
  rw [hjson]
  cases hget : db.getJson (Codec.list Codec.searchProvider) providersKey with
  | error e =>
    rw [hget] at h
    exact absurd h (by simp)
  | ok stored =>
    cases stored with
    | none => exact ⟨_, rfl⟩
    | some stored => exact ⟨_, rfl⟩

/-- A browser that is built where the number is stored reports it. -/
theorem openTabsCount_of_stored (hbuild : (build config db clock).value = .ok b) {n : Nat}
    (h : OpenTabs.stored db = .ok n) : b.openTabsCount.1 = .ok n := by
  obtain ⟨-, -, -, hcache, -⟩ := of_build hbuild
  refine openTabsCount_of_cached (hcache.trans ?_)
  simp only [OpenTabs.read, OpenTabs.unknown, h]

/-- What the settings and the cache of a browser come to in a run. -/
theorem settings_of_run (hbuild : (build config db clock).value = .ok b)
    (hon : config.telemetryEnabled = true) (htable : db.settings = some table) {ps : List Turn}
    (hkeep : ∀ p ∈ ps, ∀ db, (p.meddle db).settings = db.settings) :
    let b' := (b.playAll ps).value
    ∃ table', b'.database.settings = some table' ∧
      (∀ k, OpenTabs.key ≠ k → table'.get? k = table.get? k) ∧
      ((∃ p ∈ ps, p.action.MayResize) →
        table'.get? OpenTabs.key = some (.text (OpenTabs.print b'.state.normalCount)) ∧
          b'.sinks.openTabs = ⟨some b'.state.normalCount⟩) ∧
      ((∀ p ∈ ps, ¬ p.action.MayResize) →
        b'.sinks.openTabs = (OpenTabs.unknown.read db).2 ∧ b'.state.normalCount = 0) := by
  obtain ⟨rfl, hempty, rfl, hcache, -⟩ := of_build hbuild
  have hnone : b.store.state.normalCount = 0 := by
    rw [show b.store.state = .empty from hempty]
    rfl
  rw [value_playAll, middleware_enabled hon, ← hcache, ← hnone]
  exact Store.settings_playAll htable hkeep

/-- **The number of open tabs never drifts from the tabs.** A browser with telemetry enabled is
    built on a database that has a table of settings, and nobody else writes to that table. After
    any run in which the list of tabs may have been resized

    * the browser reports the number of normal tabs;
    * the setting holds the decimal text of that number;
    * any browser built on those settings from then on reports it before its first dispatch.

    Without a stored number at the beginning the browser reports the number of normal tabs after
    every run. And all those actions after which nothing is counted leave that number alone,
    whatever the state. -/
theorem openTabsCount_follows_tabs (hbuild : (build config db clock).value = .ok b)
    (hon : config.telemetryEnabled = true) (htable : db.settings = some table) (ps : List Turn)
    (hkeep : ∀ p ∈ ps, ∀ db, (p.meddle db).settings = db.settings) :
    let b' := (b.playAll ps).value
    let n := b'.state.normalCount
    ((∃ p ∈ ps, p.action.MayResize) →
      b'.openTabsCount.1 = .ok n ∧
      b'.database.getSetting OpenTabs.key = .ok (some (toString n)) ∧
      (n < UInt64.size → ∀ config' db' clock', db'.settings = b'.database.settings →
        ∃ c, (build config' db' clock').value = .ok c ∧ c.openTabsCount.1 = .ok n)) ∧
    (table.get? OpenTabs.key = none → b'.openTabsCount.1 = .ok n) ∧
    ∀ (s : BrowserState) (a : BrowserAction), ¬ a.MayResize →
      (s.reduce a).normalCount = s.normalCount := by
  intro b' n
  obtain ⟨table', htable', hothers, hcounted, hquiet⟩ := settings_of_run hbuild hon htable hkeep
  refine ⟨fun hresize => ?_, fun hfresh => ?_, fun s a => s.normalCount_reduce_of_not_mayResize⟩
  · obtain ⟨hrow, hcache⟩ := hcounted hresize
    refine ⟨openTabsCount_of_cached hcache, ?_, fun hn config' db' clock' hsame => ?_⟩
    · rw [Database.getSetting, htable', ← OpenTabs.print_eq_toString]
      simp only [hrow, n, b']
    · -- The setting that the providers are read from is another one, and as it was.
      obtain ⟨-, -, -, -, list, hlist⟩ := of_build hbuild
      have hsettings : db'.settings = some table' := hsame.trans htable'
      have hproviders : db'.getSetting providersKey = db.getSetting providersKey := by
        simp only [Database.getSetting, hsettings, htable, hothers providersKey (by decide)]
      obtain ⟨list', hlist'⟩ := providers_of_getSetting config' hlist hproviders
      obtain ⟨c, hc, -⟩ := build_of_providers hlist' clock'
      exact ⟨c, hc, openTabsCount_of_stored hc (OpenTabs.stored_of_row hsettings hrow hn)⟩
  · by_cases hresize : ∃ p ∈ ps, p.action.MayResize
    · exact openTabsCount_of_cached (hcounted hresize).2
    · obtain ⟨hcache, hcount⟩ := hquiet fun p hp h => hresize ⟨p, hp, h⟩
      have hzero : (OpenTabs.unknown.read db).2 = ⟨some 0⟩ := by
        simp only [OpenTabs.read, OpenTabs.unknown, OpenTabs.stored, Database.getSetting, htable,
          hfresh]
      have hn : n = 0 := hcount
      rw [hn]
      exact openTabsCount_of_cached (hcache.trans hzero)

/-- Tabs of both kinds come and go, others are only selected, and the last action counts nothing. -/
theorem openTabsCount_follows_tabs_restored :
    let tab := fun id isPrivate => Session.fresh id "https://a.test" isPrivate .epoch
    let actions : List BrowserAction :=
      [.tabList (.restore [tab "a" false, tab "p" true, tab "a" true, tab "b" false] (some "p")),
        .tabList (.remove "a"), .customTabList (.add (tab "c" false)), .tabList .removeAllPrivate]
    let ps := actions.map fun a => Turn.mk ⟨5⟩ (fun db => { db with adClicks := none }) a
    let db : Database := ⟨some .empty, some .empty, none⟩
    ∃ b, (build ⟨"", true, "info", []⟩ db ⟨0⟩).value = .ok b ∧
      (b.playAll ps).value.openTabsCount.1 = .ok 1 ∧
      (b.playAll ps).value.database.getSetting OpenTabs.key = .ok (some "1") ∧
      (∃ c, (build ⟨"", false, "info", []⟩ (b.playAll ps).value.database ⟨0⟩).value = .ok c ∧
        c.openTabsCount.1 = .ok 1) ∧
      b.openTabsCount.1 = .ok 0 := by
  intro tab actions ps db
  have hlist : (providers ⟨"", true, "info", []⟩ db).value = .ok [] := rfl
  obtain ⟨b, hbuild, -⟩ := build_of_providers hlist ⟨0⟩
  have hkeep : ∀ p ∈ ps, ∀ db, (p.meddle db).settings = db.settings := by
    intro p hp db
    obtain ⟨a, -, rfl⟩ := List.mem_map.1 hp
    rfl
  obtain ⟨hcounted, -, -⟩ := openTabsCount_follows_tabs hbuild rfl rfl ps hkeep
  obtain ⟨-, hfresh, -⟩ := openTabsCount_follows_tabs hbuild rfl rfl [] (by simp)
  obtain ⟨hcount, hstored, hlater⟩ := hcounted ⟨_, List.mem_cons_self, .restore _ _⟩
  have hone : (b.playAll ps).value.state.normalCount = 1 := by
    obtain rfl := Except.ok.inj hbuild
    rfl
  rw [hone] at hcount hstored hlater
  obtain rfl := Except.ok.inj hbuild
  exact ⟨_, rfl, hcount, hstored, hlater (by decide) _ _ _ rfl, hfresh rfl⟩

end Browser

end BrowserTelemetry
