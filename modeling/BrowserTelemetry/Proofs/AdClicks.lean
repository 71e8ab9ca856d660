import BrowserTelemetry.Proofs.ClickTable
import BrowserTelemetry.Proofs.OpenChains
import BrowserTelemetry.Proofs.Places

/-!
# Ad clicks, end to end

From the actions of a browser to the counts in its database. The count of a provider is told from
the history alone: it is the number of commits whose chain, by `Seen.watch`, is a click on one of
its ads (`clicks`). The table follows it row by row (`Store.rows_playAll`), through all that can
happen between: sessions that interleave, tabs that come and go, other sinks that fail.
-/

namespace BrowserTelemetry

set_option autoImplicit false

/-! ## Counting over a history -/

/-- Is an action a click on an ad of `name`, these being the open chains? -/
def clickOf (providers : List SearchProvider) (name : String)
    (open? : String → Option RedirectChain) : BrowserAction → Bool
  | .content ⟨id, .url _⟩ => (open? id).any fun c => IsAdClick providers name c
  | _ => false

/-- Is the action at the place `n` a commit, of any session, that is a click on an ad of `name`? -/
def clickAt (providers : List SearchProvider) (h : List Seen) (name : String) (n : Nat) : Bool :=
  h[n]?.any fun e => clickOf providers name (fun id => (Seen.watch id).chain? (h.take n)) e.2

/-- The number of clicks on ads of `name`. -/
def clicks (providers : List SearchProvider) (h : List Seen) (name : String) : Nat :=
  (List.range h.length).countP (clickAt providers h name)

/-- Is the action at the place `n` a commit that looks back on the load request at the place `i`? -/
def LooksBackOn (h : List Seen) (n i : Nat) : Prop :=
  ∃ session, h[n]?.any (Seen.watch session).commits = true ∧
    i ∈ (Seen.watch session).pending (h.take n)

variable {providers : List SearchProvider} {name : String} {h : List Seen}

theorem clicks_eq_countP (providers : List SearchProvider) (h : List Seen) (name : String) :
    clicks providers h name =
      (places h).countP fun p =>
        p.2.any fun e => clickOf providers name (fun id => (Seen.watch id).chain? p.1) e.2 := by
  rw [places, List.countP_map]
  rfl

theorem clicks_concat (e : Seen) :
    clicks providers (h ++ [e]) name =
      clicks providers h name +
        if clickOf providers name (fun id => (Seen.watch id).chain? h) e.2 then 1 else 0 := by
  rw [clicks_eq_countP, clicks_eq_countP, places_concat, List.countP_append, List.countP_singleton,
    Option.any_some]

theorem clickOf_iff {open? : String → Option RedirectChain} {a : BrowserAction} :
    clickOf providers name open? a = true ↔
      ∃ id url c, a = .content ⟨id, .url url⟩ ∧ open? id = some c ∧ IsAdClick providers name c := by
  constructor
  · intro hclick
    unfold clickOf at hclick
    split at hclick
    · rename_i id url
      obtain ⟨c, hc, hname⟩ := (Option.any_eq_true _ _).1 hclick
      exact ⟨id, url, c, rfl, hc, of_decide_eq_true hname⟩
    · exact absurd hclick (by simp)
  · rintro ⟨id, url, c, rfl, hc, hname⟩
    simp [clickOf, hc, hname]

theorem IsAdClick.unique {name' : String} {c : RedirectChain} (h : IsAdClick providers name c)
    (h' : IsAdClick providers name' c) : name = name' := by
  obtain ⟨u, p, hroot, hfind, rfl, -⟩ := h
  obtain ⟨v, q, hroot', hfind', rfl, -⟩ := h'
  -- Both names are that of the first provider that serves the root.
  obtain rfl := Option.some.inj (hroot.symm.trans hroot')
  obtain rfl := Option.some.inj (hfind.symm.trans hfind')
  rfl

theorem clickAt_unique {name' : String} {n : Nat} (hn : clickAt providers h name n = true)
    (hn' : clickAt providers h name' n = true) : name = name' := by
  obtain ⟨e, he, hclick⟩ := (Option.any_eq_true _ _).1 hn
  obtain ⟨e', he', hclick'⟩ := (Option.any_eq_true _ _).1 hn'
  obtain rfl := Option.some.inj (he.symm.trans he')
  obtain ⟨id, url, c, ha, hc, hname⟩ := clickOf_iff.1 hclick
  obtain ⟨id', url', c', ha', hc', hname'⟩ := clickOf_iff.1 hclick'
  obtain ⟨rfl, -⟩ : id = id' ∧ url = url' := by simpa [ha] using ha'
  obtain rfl := Option.some.inj (hc.symm.trans hc')
  exact hname.unique hname'

/-- A load request is one of a single session. -/
theorem Seen.session_unique {session session' : String} {e : Seen}
    (h : ((Seen.watch session).request? e).isSome = true)
    (h' : ((Seen.watch session').request? e).isSome = true) : session = session' := by
  obtain ⟨s, a⟩ := e
  cases a with
  | content a =>
    obtain ⟨id, change⟩ := a
    cases change with
    | loadRequest request =>
      have hid : id = session := by
        by_contra hne
        exact absurd h (by simp [Seen.watch, hne])
      have hid' : id = session' := by
        by_contra hne
        exact absurd h' (by simp [Seen.watch, hne])
      exact hid.symm.trans hid'
    | loading value => exact absurd h (by simp [Seen.watch])
    | url value => exact absurd h (by simp [Seen.watch])
    | title value => exact absurd h (by simp [Seen.watch])
  | download a => exact absurd h (by simp [Seen.watch])
  | engine a => exact absurd h (by simp [Seen.watch])
  | tabList a => exact absurd h (by simp [Seen.watch])
  | customTabList a => exact absurd h (by simp [Seen.watch])

theorem lt_of_looksBackOn {n i : Nat} (hn : LooksBackOn h n i) : i < n := by
  obtain ⟨session, -, hi⟩ := hn
  have hlt := (Seen.watch session).lt_of_mem_pending _ hi
  exact Nat.lt_of_lt_of_le hlt (List.length_take_le n h)

/-- Of two commits that look back on one load request the first would have closed its chain. -/
theorem looksBackOn_not_lt {n m i : Nat} (hn : LooksBackOn h n i) (hm : LooksBackOn h m i) :
    ¬ n < m := by
  intro hlt
  have hin := lt_of_looksBackOn hn
  obtain ⟨session, hcom, hi⟩ := hn
  obtain ⟨session', -, hi'⟩ := hm
  have hreq := (Seen.watch session).isSome_request?_of_mem_pending _ hi
  have hreq' := (Seen.watch session').isSome_request?_of_mem_pending _ hi'
  rw [List.getElem?_take_of_lt hin] at hreq
  rw [List.getElem?_take_of_lt (Nat.lt_trans hin hlt)] at hreq'
  cases he : h[i]? with
  | none => exact absurd hreq (by simp [he])
  | some e =>
    rw [he] at hreq hreq'
    -- It is a request of one session, which has committed at `n`, before `m`.
    obtain rfl := Seen.session_unique hreq hreq'
    have hni := (Seen.watch session).lt_of_commit_of_mem_pending h hcom hlt hi'
    exact absurd hin (Nat.lt_asymm hni)

theorem looksBackOn_unique {n m i : Nat} (hn : LooksBackOn h n i) (hm : LooksBackOn h m i) :
    n = m :=
  Nat.le_antisymm (Nat.not_lt.1 (looksBackOn_not_lt hm hn))
    (Nat.not_lt.1 (looksBackOn_not_lt hn hm))

/-! ## One action -/

variable {table : SortedMap String StoredCount}

/-- The sink counts a click for whom it is a click. -/
theorem AdSink.clickFor?_eq_some_iff {c : RedirectChain} :
    (AdSink.attribute providers).clickFor? c = some name ↔ IsAdClick providers name c := by
  rw [Attribution.isAdClick_iff, clickFor?]
  cases Attribution.of providers c.root c.chain <;> simp

/-- A chain bumps the row of the name it is a click for, and no other. -/
theorem Database.clicked_clickFor? {db : Database} (htable : db.adClicks = some table)
    (providers : List SearchProvider) (c : RedirectChain) :
    ∃ table', db.clicked ((AdSink.attribute providers).clickFor? c) =
        { db with adClicks := some table' } ∧
      ∀ name, table'.get? name =
        if IsAdClick providers name c then some (bump (table.get? name)) else table.get? name := by
  simp only [← AdSink.clickFor?_eq_some_iff]
  cases (AdSink.attribute providers).clickFor? c with
  | none => exact ⟨table, by rw [clicked, ← htable], fun name => by simp⟩
  | some clicked =>
    refine ⟨_, by rw [Database.clicked, htable, Option.map_some], fun name => ?_⟩
    rw [SortedMap.get?_insert]
    by_cases hname : clicked = name
    · simp [hname]
    · simp [hname]

theorem Sinks.adClicks_report {s : Sinks} (hads : s.ads = .attribute providers)
    (htable : s.database.adClicks = some table) (c : RedirectChain) :
    ∃ table', (s.report c).value.2.database.adClicks = some table' ∧
      ∀ name, table'.get? name =
        if IsAdClick providers name c then some (bump (table.get? name)) else table.get? name := by
  obtain ⟨table', hclicked, hrows⟩ := Database.clicked_clickFor? htable providers c
  exact ⟨table', by rw [value_report, hads, hclicked], hrows⟩

/-- The work around an action keeps the sink and bumps the row of a name if the action is a click
    for it. -/
theorem Telemetry.adClicks_before {t : Telemetry} (hads : t.sinks.ads = .attribute providers)
    (htable : t.sinks.database.adClicks = some table) (state : BrowserState) (a : BrowserAction) :
    (before state a t).value.sinks.ads = .attribute providers ∧
      ∃ table', (before state a t).value.sinks.database.adClicks = some table' ∧
        ∀ name, table'.get? name =
          if clickOf providers name t.chains.chain? a then some (bump (table.get? name))
          else table.get? name := by
  -- Only before a commit is anything reported.
  by_cases hcommit : ∃ id url, a = .content ⟨id, .url url⟩
  · obtain ⟨id, url, rfl⟩ := hcommit
    rw [sinks_before_commit]
    cases hopen : t.chains.chain? id with
    | none => exact ⟨hads, table, htable, fun name => by simp [clickOf, hopen]⟩
    | some c =>
      have hkept : (t.sinks.report c).value.2.ads = t.sinks.ads := by
        obtain ⟨_, hreport⟩ := t.sinks.report_eq c
        rw [hreport]
      obtain ⟨table', htable', hrows⟩ := Sinks.adClicks_report hads htable c
      refine ⟨hkept.trans hads, table', htable', fun name => ?_⟩
      rw [hrows]
      simp [clickOf, hopen]
  · have hne : ∀ id url, a ≠ .content ⟨id, .url url⟩ := fun id url heq => hcommit ⟨id, url, heq⟩
    obtain ⟨hdb, hads'⟩ := database_before_of_ne state hne t
    rw [hdb, hads']
    refine ⟨hads, table, htable, fun name => (if_neg fun hclick => ?_).symm⟩
    obtain ⟨id, url, -, heq, -⟩ := clickOf_iff.1 hclick
    exact hne id url heq

/-! ## Runs -/

namespace Store

theorem adClicks_play {s : Store Telemetry} (hads : s.env.sinks.ads = .attribute providers)
    (htable : s.env.sinks.database.adClicks = some table) {p : Turn}
    (hkeep : ∀ db, (p.meddle db).adClicks = db.adClicks) :
    (play [Telemetry.middleware] s p).value.env.sinks.ads = .attribute providers ∧
      ∃ table', (play [Telemetry.middleware] s p).value.env.sinks.database.adClicks = some table' ∧
        ∀ name, table'.get? name =
          if clickOf providers name s.env.chains.chain? p.action then some (bump (table.get? name))
          else table.get? name := by
  have hprepared : (p.prepare s.env.sinks).database.adClicks = some table :=
    (hkeep _).trans htable
  unfold play Telemetry.middleware
  rw [value_dispatch_around]
  obtain ⟨hafter, hadsAfter⟩ := Telemetry.adClicks_after (s.state.reduce p.action) p.action
    (Telemetry.before s.state p.action { s.env with sinks := p.prepare s.env.sinks }).value
  rw [hafter, hadsAfter]
  exact Telemetry.adClicks_before (t := { s.env with sinks := p.prepare s.env.sinks }) hads
    hprepared s.state p.action

/-- **Every row of a run is its first value after the clicks of the history.** -/
theorem rows_playAll {s : Store Telemetry} (hnone : ∀ session, s.env.chains.chain? session = none)
    (hads : s.env.sinks.ads = .attribute providers)
    (htable : s.env.sinks.database.adClicks = some table) {ps : List Turn}
    (hkeep : ∀ p ∈ ps, ∀ db, (p.meddle db).adClicks = db.adClicks) :
    (playAll [Telemetry.middleware] s ps).value.env.sinks.ads = .attribute providers ∧
      ∃ table',
        (playAll [Telemetry.middleware] s ps).value.env.sinks.database.adClicks = some table' ∧
        ∀ name, table'.get? name =
          afterClicks (table.get? name)
            (clicks providers (history s.state (ps.map Turn.action)) name) := by
  induction ps using List.reverseRecOn with
  | nil => exact ⟨hads, table, htable, fun name => rfl⟩
  | append_singleton ps p ih =>
    obtain ⟨hads', table', htable', hrows⟩ := ih fun q hq => hkeep q (List.mem_append_left _ hq)
    obtain ⟨hads'', table'', htable'', hrows'⟩ :=
      adClicks_play hads' htable' (hkeep p (by simp))
    rw [value_playAll_concat]
    refine ⟨hads'', table'', htable'', fun name => ?_⟩
    -- The open chains at the turn are those that the history tells of.
    rw [hrows', hrows, chain?_playAll_funext hnone ps, List.map_append, List.map_singleton,
      history_concat, clicks_concat]
    split
    · rfl
    · rfl

end Store

namespace Browser

theorem adClicks_eq {b : Browser} (htable : b.database.adClicks = some table) {c : Nat}
    (h : rowCount? (table.get? name) = some (c : Int)) : b.adClicks name = .ok c := by
  rw [adClicks, Database.adClicksOf_eq htable h]
  rfl

theorem adClicks_playAll {b : Browser} (hon : b.config.telemetryEnabled = true)
    (hnone : ∀ session, b.store.env.chains.chain? session = none)
    (hads : b.sinks.ads = .attribute providers) (htable : b.database.adClicks = some table)
    {ps : List Turn} (hkeep : ∀ p ∈ ps, ∀ db, (p.meddle db).adClicks = db.adClicks) {c : Nat}
    (hc : rowCount? (table.get? name) = some (c : Int))
    (hfits : (c : Int) + clicks providers (history b.state (ps.map Turn.action)) name ≤
      Int64.maxValue.toInt) :
    (b.playAll ps).value.adClicks name =
      .ok (c + clicks providers (history b.state (ps.map Turn.action)) name) := by
  obtain ⟨-, table', htable', hrows⟩ := Store.rows_playAll hnone hads htable hkeep
  have hdb : (b.playAll ps).value.database.adClicks = some table' := by
    rw [value_playAll, middleware_enabled hon]
    exact htable'
  have hrow : rowCount? (table'.get? name) =
      some ((c + clicks providers (history b.state (ps.map Turn.action)) name : Nat) : Int) := by
    rw [hrows]
    exact rowCount?_afterClicks hc hfits
  exact adClicks_eq hdb hrow

/-- After a run, an action that is no click for a name leaves the count of that name as it was. -/
theorem adClicks_dispatch_of_no_click {b : Browser} (hon : b.config.telemetryEnabled = true)
    (hnone : ∀ session, b.store.env.chains.chain? session = none)
    (hads : b.sinks.ads = .attribute providers) (htable : b.database.adClicks = some table)
    {ps : List Turn} (hkeep : ∀ p ∈ ps, ∀ db, (p.meddle db).adClicks = db.adClicks)
    {a : BrowserAction}
    (hclick : clickOf providers name
      (fun id => (Seen.watch id).chain? (history b.state (ps.map Turn.action))) a = false) :
    ((b.playAll ps).value.dispatch a).value.adClicks name = (b.playAll ps).value.adClicks name := by
  obtain ⟨hads', table', htable', -⟩ := Store.rows_playAll hnone hads htable hkeep
  -- The dispatch is a turn at which nothing else has happened.
  let still : Turn := ⟨(b.store.playAll [Telemetry.middleware] ps).value.env.sinks.clock, id, a⟩
  obtain ⟨-, table'', htable'', hrows⟩ :=
    Store.adClicks_play hads' htable' (p := still) fun _ => rfl
  have hrow := hrows name
  rw [Store.chain?_playAll_funext hnone ps] at hrow
  rw [show still.action = a from rfl, show b.store.state = b.state from rfl, hclick,
    if_neg Bool.false_ne_true] at hrow
  have hbefore : (b.playAll ps).value.database.adClicks = some table' := by
    rw [value_playAll, middleware_enabled hon]
    exact htable'
  have hafter : ((b.playAll ps).value.dispatch a).value.database.adClicks = some table'' := by
    have hon' : (b.playAll ps).value.config.telemetryEnabled = true := by
      rw [value_playAll]
      exact hon
    rw [value_dispatch, middleware_enabled hon', value_playAll, middleware_enabled hon]
    exact htable''
  rw [adClicks, adClicks, Database.adClicksOf_congr hbefore hafter hrow]

/-- **Ad clicks, end to end.** A browser with telemetry enabled is built on a database that has a
    table of ad clicks, without negative or outgrown counts, and nobody else writes to that table.
    After any run

    * the count of every name is the one at the beginning and the clicks of the history, as long as
      that fits;
    * no commit was a click for two names;
    * no load request was looked back on by two commits;
    * an action that is no click for a name, whether a commit or not, leaves its count alone. -/
theorem adClicks_of_run (config : Config) (db : Database) (clock : Clock)
    (list : List SearchProvider) (table : SortedMap String StoredCount)
    (hlist : (Browser.providers config db).value = .ok list)
    (hon : config.telemetryEnabled = true) (htable : db.adClicks = some table)
    (hcounts : ∀ name n, table.get? name = some n → ∃ i : Int64, n = .integer i ∧ 0 ≤ i.toInt) :
    ∃ b, (build config db clock).value = .ok b ∧
      ∀ ps : List Turn, (∀ p ∈ ps, ∀ db, (p.meddle db).adClicks = db.adClicks) →
        let h := history .empty (ps.map Turn.action)
        let b' := (b.playAll ps).value
        (∀ name, ∃ c : Nat, b.adClicks name = .ok c ∧
          ((c : Int) + clicks list h name ≤ Int64.maxValue.toInt →
            b'.adClicks name = .ok (c + clicks list h name))) ∧
        (∀ n name name', clickAt list h name n = true → clickAt list h name' n = true →
          name = name') ∧
        (∀ n m i, LooksBackOn h n i → LooksBackOn h m i → n = m) ∧
        ∀ a name, clickOf list name (fun id => (Seen.watch id).chain? h) a = false →
          (b'.dispatch a).value.adClicks name = b'.adClicks name := by
  obtain ⟨b, hbuild, rfl, hstate, rfl, -, hads, hnone⟩ := build_of_providers hlist clock
  refine ⟨b, hbuild, ?_⟩
  intro ps hkeep
  rw [← hstate]
  refine ⟨?_, fun n name name' => clickAt_unique, fun n m i => looksBackOn_unique, ?_⟩
  · intro name
    obtain ⟨c, hc⟩ := rowCount?_of_nonneg (hcounts name)
    exact ⟨c, adClicks_eq htable hc, adClicks_playAll hon hnone hads htable hkeep hc⟩
  · intro a name
    exact adClicks_dispatch_of_no_click hon hnone hads htable hkeep

/-- Of two providers that serve the page the first one gets the click, once. -/
theorem adClicks_of_run_local :
    let list : List SearchProvider :=
      [⟨"local", ["[::1]"], ["[::1]/aclk"]⟩, ⟨"late", ["[::1]"], ["[::1]/aclk"]⟩]
    let db : Database := ⟨some .empty, some (.insert .empty "local" (.integer 41)), none⟩
    let tab := Session.fresh "a" "http://[::1]/search" false .epoch
    let actions : List BrowserAction :=
      [.tabList (.add tab true), .content ⟨"a", .loadRequest (.plain "http://[::1]/aclk?q=1")⟩,
        .content ⟨"b", .loadRequest (.plain "http://[::1]/aclk?q=2")⟩,
        .content ⟨"a", .loadRequest (.plain "http://[::2]/")⟩, .content ⟨"b", .url "http://[::2]/"⟩,
        .content ⟨"a", .url "http://[::2]/"⟩]
    let ps := actions.map fun a => Turn.mk ⟨5⟩ id a
    let h := history .empty (ps.map Turn.action)
    ∃ b, (build ⟨"", true, "info", list⟩ db ⟨0⟩).value = .ok b ∧
      (b.playAll ps).value.adClicks "local" = .ok 42 ∧
      (b.playAll ps).value.adClicks "late" = .ok 0 ∧
      (∀ name, clickAt list h name 5 = true → name = "local") ∧
      (∀ n, LooksBackOn h n 1 → n = 5) ∧
      ((b.playAll ps).value.dispatch (.content ⟨"a", .url "http://[::2]/"⟩)).value.adClicks
        "local" = (b.playAll ps).value.adClicks "local" := by
  intro list db tab actions ps h
  have hcounts : ∀ name n, SortedMap.get? (.insert .empty "local" (.integer 41)) name = some n →
      ∃ i : Int64, n = StoredCount.integer i ∧ 0 ≤ i.toInt := by
    intro name n hn
    by_cases hname : "local" = name
    · subst hname
      rw [SortedMap.get?_insert_self] at hn
      exact ⟨41, (Option.some.inj hn).symm, by decide⟩
    · rw [SortedMap.get?_insert_of_ne _ _ hname, SortedMap.get?_empty] at hn
      exact absurd hn (by simp)
  obtain ⟨b, hbuild, hruns⟩ :=
    adClicks_of_run ⟨"", true, "info", list⟩ db ⟨0⟩ list _ rfl rfl rfl hcounts
  obtain ⟨hcount, hname, hload, hquiet⟩ := hruns ps (by simp [ps, actions])
  have hlocal : clickAt list h "local" 5 = true := by decide +kernel
  have hlast : LooksBackOn h 5 1 := ⟨"a", by decide, by decide⟩
  refine ⟨b, hbuild, ?_, ?_, fun name hclick => hname 5 name "local" hclick hlocal,
    fun n hn => hload n 5 1 hn hlast, hquiet _ "local" (by decide +kernel)⟩
  · obtain ⟨c, hc, hafter⟩ := hcount "local"
    obtain rfl := Except.ok.inj hbuild
    obtain rfl : 41 = c := Except.ok.inj hc
    have hclicks : clicks list h "local" = 1 := by decide +kernel
    rw [hclicks] at hafter
    exact hafter (by decide)
  · obtain ⟨c, hc, hafter⟩ := hcount "late"
    obtain rfl := Except.ok.inj hbuild
    obtain rfl : 0 = c := Except.ok.inj hc
    have hclicks : clicks list h "late" = 0 := by decide +kernel
    rw [hclicks] at hafter
    exact hafter (by decide)

end Browser

end BrowserTelemetry
