import BrowserTelemetry.Proofs.OpenChains
import BrowserTelemetry.Proofs.SessionLookup

/-!
# The root of an open chain

A chain is rooted at the page its tab was on when the chain was opened. Only a commit moves a tab to
another page, and a commit closes the chain, so as long as the tab stays it is still on that page.

But nothing that happens to the list of tabs closes a chain: it is open until its session commits
(`Watch.move_some`). A tab that is removed leaves its chain behind, and another tab may be added
under the same id, on any page. **That is the only way in which a root and a page come apart**
(`root_or_added_of_history`).
-/

namespace BrowserTelemetry

set_option autoImplicit false

variable {session : String} {tab : Session} {s : BrowserState} {h : List Seen} {root : String}

/-! ## Where a chain has its root from -/

namespace Watch

variable {ε : Type} {w : Watch ε} {e : ε} {c : RedirectChain}

theorem commits_of_move {open? : Option RedirectChain} (h : w.move e open? = some c) :
    w.commits e = false := by
  cases hcom : w.commits e with
  | false => rfl
  | true => exact absurd h (by simp [move, hcom])

/-- Only a commit closes a chain, and nothing gives it another root. -/
theorem move_some (hcom : w.commits e = false) (c : RedirectChain) :
    ∃ c', w.move e (some c) = some c' ∧ c'.root = c.root := by
  rw [move, hcom, if_neg Bool.false_ne_true]
  cases w.request? e with
  | none => exact ⟨c, rfl, rfl⟩
  | some r => exact ⟨c.add r.url, rfl, rfl⟩

/-- A chain is opened by a request that leads away from the page, which becomes its root. -/
theorem request_of_move_none (h : w.move e none = some c) :
    ∃ r, w.request? e = some r ∧ r.url ≠ r.current ∧ c = ⟨r.current, [r.url]⟩ := by
  rw [move, commits_of_move h, if_neg Bool.false_ne_true] at h
  cases hreq : w.request? e with
  | none => exact absurd h (by simp [hreq])
  | some r =>
    simp only [hreq, RedirectChains.extended?] at h
    by_cases hleaves : r.url = r.current
    · exact absurd h (by simp [hleaves])
    · rw [if_neg hleaves] at h
      exact ⟨r, rfl, hleaves, (Option.some.inj h).symm⟩

end Watch

/-! ## Where a tab has its page from -/

/-- The action adds `tab` for a session that has no tab. -/
def Seen.Adds (session : String) (e : Seen) (tab : Session) : Prop :=
  e.1.findTab session = none ∧
    ∃ a, e.2 = .tabList a ∧ BrowserState.findIn a.brings session = some tab

/-- A change to one session that does not move it to another page. -/
theorem BrowserState.url_of_updateSession {id : String} {f : Session → Session}
    (hfound : (s.updateSession id f).findTab session = some tab) (hid : ∀ t, (f t).id = t.id)
    (hurl : id = session → ∀ t, (f t).content.url = t.content.url) :
    ∃ t, s.findTab session = some t ∧ t.content.url = tab.content.url := by
  rw [findTab_updateSession s hid] at hfound
  split at hfound
  · rename_i heq
    obtain ⟨t, ht, rfl⟩ := Option.map_eq_some_iff.1 hfound
    exact ⟨t, ht, (hurl heq.symm t).symm⟩
  · exact ⟨tab, hfound, rfl⟩

/-- A request is one of a session that has a tab, and is made from the page that it is on. -/
theorem Seen.tab_of_request? {e : Seen} {r : PageRequest}
    (hreq : (Seen.watch session).request? e = some r) :
    ∃ t, e.1.findTab session = some t ∧ t.content.url = r.current := by
  obtain ⟨s, a⟩ := e
  unfold Seen.watch at hreq
  simp only at hreq
  split at hreq
  · rename_i s' id request heq
    obtain ⟨rfl, -⟩ := Prod.mk.inj heq
    split at hreq
    · obtain ⟨t, ht, rfl⟩ := Option.map_eq_some_iff.1 hreq
      exact ⟨t, ht, rfl⟩
    · exact absurd hreq (by simp)
  · exact absurd hreq (by simp)

theorem Seen.commits_of_ne (s : BrowserState) {a : BrowserAction}
    (hno : ∀ url, a ≠ .content ⟨session, .url url⟩) :
    (Seen.watch session).commits (s, a) = false := by
  unfold Seen.watch
  simp only
  split
  · rename_i id url heq
    obtain ⟨-, rfl⟩ := Prod.mk.inj heq
    exact decide_eq_false fun hid => hno url (by rw [hid])
  · rfl

/-- After an action that is no commit of the session, its tab is on the page that it was on, or it
    has just been added. -/
theorem Seen.url_or_adds (hs : s.WellFormed) {a : BrowserAction}
    (hcom : (Seen.watch session).commits (s, a) = false)
    (hfound : (s.reduce a).findTab session = some tab) :
    (∃ t, s.findTab session = some t ∧ t.content.url = tab.content.url) ∨
      Seen.Adds session (s, a) tab := by
  cases a with
  | content a =>
    obtain ⟨id, change⟩ := a
    refine .inl (BrowserState.url_of_updateSession hfound (fun _ => rfl) fun hid t => ?_)
    cases change with
    | url value => exact absurd hid (by simpa [Seen.watch] using hcom)
    | loading value => rfl
    | loadRequest request => rfl
    | title value => rfl
  | download a => cases a <;> exact .inl ⟨tab, hfound, rfl⟩
  | engine a =>
    cases a <;>
      exact .inl (BrowserState.url_of_updateSession hfound (fun _ => rfl) fun _ _ => rfl)
  | tabList a =>
    have hlookup : (s.reduceTabList a).findTab session =
        ((s.findTab session).filter a.keeps).or (BrowserState.findIn a.brings session) :=
      BrowserState.findTab_reduceTabList hs.ids_nodup a
    rcases Option.or_eq_some_iff.1 (hlookup.symm.trans hfound) with hkept | ⟨hnone, hbrings⟩
    · exact .inl ⟨tab, (Option.filter_eq_some_iff.1 hkept).1, rfl⟩
    · refine .inr ⟨?_, a, rfl, hbrings⟩
      -- What removes a tab brings none, so there was no tab to remove.
      cases hold : s.findTab session with
      | none => rfl
      | some t =>
        have hgone : a.keeps t = false := by simpa [hold, Option.filter_some] using hnone
        rw [TabListAction.brings_eq_nil hgone] at hbrings
        exact absurd hbrings (by simp [BrowserState.findIn])
  | customTabList a =>
    refine .inl ⟨tab, ?_, rfl⟩
    rw [← BrowserState.findTab_reduceCustomTabList s a]
    exact hfound

/-! ## Histories -/

/-- The action at the place `i` opened the chain of the session that is still open: there was none
    before it, it requests an address that leads the tab away from `root`, and the session has not
    committed since. -/
structure OpenedAt (h : List Seen) (session root : String) (i : Nat) : Prop where
  closed : (Seen.watch session).chain? (h.take i) = none
  request : ∃ e url,
    h[i]? = some e ∧ (Seen.watch session).request? e = some ⟨url, root⟩ ∧ url ≠ root
  uncommitted : ∀ j, i < j → h[j]?.any (Seen.watch session).commits = false

/-- After the place `i` a tab was added for the session, on the page that `tab` is on. -/
def AddedSince (h : List Seen) (session : String) (i : Nat) (tab : Session) : Prop :=
  ∃ j e added, i < j ∧ h[j]? = some e ∧ e.Adds session added ∧ added.content.url = tab.content.url

theorem OpenedAt.lt_length {i : Nat} (hi : OpenedAt h session root i) : i < h.length := by
  obtain ⟨e, -, he, -⟩ := hi.request
  exact (List.getElem?_eq_some_iff.1 he).1

theorem OpenedAt.concat {i : Nat} (hi : OpenedAt h session root i) {e : Seen}
    (hcom : (Seen.watch session).commits e = false) : OpenedAt (h ++ [e]) session root i := by
  have hlt := hi.lt_length
  obtain ⟨hclosed, ⟨f, url, hf, hreq, hne⟩, hsince⟩ := hi
  refine ⟨?_, ⟨f, url, ?_, hreq, hne⟩, fun j hj => ?_⟩
  · rw [List.take_append_of_le_length (Nat.le_of_lt hlt), hclosed]
  · rw [List.getElem?_append_left hlt, hf]
  · rcases Nat.lt_or_ge j h.length with hlt | hge
    · rw [List.getElem?_append_left hlt]
      exact hsince j hj
    · rw [List.getElem?_append_right hge]
      cases j - h.length <;> simp [hcom]

theorem openedAt_length {e : Seen} {url : String} (hclosed : (Seen.watch session).chain? h = none)
    (hreq : (Seen.watch session).request? e = some ⟨url, root⟩) (hne : url ≠ root) :
    OpenedAt (h ++ [e]) session root h.length := by
  refine ⟨?_, ⟨e, url, List.getElem?_concat_length, hreq, hne⟩, fun j hj => ?_⟩
  · rw [List.take_left, hclosed]
  · rw [List.getElem?_eq_none (by rw [List.length_append, List.length_singleton]; exact hj)]
    rfl

theorem AddedSince.concat {i : Nat} (hadded : AddedSince h session i tab) (e : Seen) :
    AddedSince (h ++ [e]) session i tab := by
  obtain ⟨j, f, added, hij, hf, hadds, hurl⟩ := hadded
  refine ⟨j, f, added, hij, ?_, hadds, hurl⟩
  rw [List.getElem?_append_left (List.getElem?_eq_some_iff.1 hf).1, hf]

/-- The tab is on the page that the chain is rooted at, or it was added after the place `i`. One
    more action that is no commit of the session keeps it so. -/
theorem root_or_added_concat (hs : s.WellFormed) {i : Nat} (hi : i < h.length)
    (hroot : ∀ t, s.findTab session = some t →
      t.content.url = root ∨ AddedSince h session i t)
    {a : BrowserAction} (hcom : (Seen.watch session).commits (s, a) = false)
    (hfound : (s.reduce a).findTab session = some tab) :
    tab.content.url = root ∨ AddedSince (h ++ [(s, a)]) session i tab := by
  rcases Seen.url_or_adds hs hcom hfound with ⟨t, ht, hurl⟩ | hadds
  · rcases hroot t ht with hold | hold
    · exact .inl (hurl.symm.trans hold)
    · obtain ⟨j, e, added, hij, he, hadds, hpage⟩ := hold.concat (s, a)
      exact .inr ⟨j, e, added, hij, he, hadds, hpage.trans hurl⟩
  · exact .inr ⟨h.length, (s, a), tab, hi, List.getElem?_concat_length, hadds, rfl⟩

/-- **Where the root of an open chain is from.** The chain was opened at some place of the history,
    from the page that the tab was on; and the tab that the session has now is on that very page,
    unless it was added after that. -/
theorem root_or_added_of_history (hs : s.WellFormed) (actions : List BrowserAction)
    {c : RedirectChain} (hopen : (Seen.watch session).chain? (history s actions) = some c) :
    ∃ i, OpenedAt (history s actions) session c.root i ∧
      ∀ tab, (s.reduceAll actions).findTab session = some tab →
        tab.content.url = c.root ∨ AddedSince (history s actions) session i tab := by
  induction actions using List.reverseRecOn generalizing c with
  | nil => exact absurd hopen (by simp [history, Watch.chain?, Watch.requests,
      RedirectChain.ofRequests?])
  | append_singleton actions a ih =>
    have hs' : (s.reduceAll actions).WellFormed := hs.reduceAll actions
    have hstate : s.reduceAll (actions ++ [a]) = (s.reduceAll actions).reduce a :=
      List.foldl_concat _ _ _ _
    rw [history_concat, Watch.chain?_concat] at hopen
    rw [history_concat, hstate]
    have hcom := Watch.commits_of_move hopen
    cases hbefore : (Seen.watch session).chain? (history s actions) with
    | some c₀ =>
      -- The chain was open before, and keeps its root.
      obtain ⟨c', hmove, hroot⟩ := Watch.move_some hcom c₀
      rw [hbefore, hmove] at hopen
      obtain rfl := Option.some.inj hopen
      rw [hroot]
      obtain ⟨i, hi, hpage⟩ := ih hbefore
      exact ⟨i, hi.concat hcom, fun tab => root_or_added_concat hs' hi.lt_length hpage hcom⟩
    | none =>
      -- The action opens the chain, from the page that the tab is on.
      rw [hbefore] at hopen
      obtain ⟨r, hreq, hleaves, rfl⟩ := Watch.request_of_move_none hopen
      refine ⟨_, openedAt_length hbefore hreq hleaves, fun tab hfound => .inl ?_⟩
      obtain ⟨t, ht, hcurrent⟩ := Seen.tab_of_request? hreq
      rcases Seen.url_or_adds hs' hcom hfound with ⟨u, hu, hurl⟩ | ⟨hnone, -⟩
      · obtain rfl := Option.some.inj (ht.symm.trans hu)
        exact hurl.symm.trans hcurrent
      · exact absurd (ht.symm.trans hnone) (by simp)

/-! ## Runs -/

namespace Store

/-- **An open chain is rooted at the page its tab was on** when the chain was opened, whatever has
    happened since. Begin without tabs and without open chains; then after any run, if a chain is
    open,

    * some action of the run opened it, from its root;
    * if the session has a tab now, it is on the root, unless a tab was added for the session after
      that: then it may be on the page that it was added on;
    * only a commit of the session will close it, so it outlives its tab. -/
theorem root_of_open_chain (sinks : Sinks) (ps : List Turn) (session : String) (c : RedirectChain)
    (hopen : (playAll [Telemetry.middleware] ⟨.empty, ⟨sinks, .empty⟩⟩ ps).value.env.chains.chain?
      session = some c) :
    let h := history .empty (ps.map Turn.action)
    let r := (playAll [Telemetry.middleware] ⟨.empty, ⟨sinks, .empty⟩⟩ ps).value
    (∃ i, OpenedAt h session c.root i ∧
      ∀ tab, r.state.findTab session = some tab →
        tab.content.url = c.root ∨ AddedSince h session i tab) ∧
    ∀ p : Turn, (∀ url, p.action ≠ .content ⟨session, .url url⟩) →
      ∃ c', (play [Telemetry.middleware] r p).value.env.chains.chain? session = some c' ∧
        c'.root = c.root := by
  intro h r
  constructor
  · have hstate : r.state = BrowserState.empty.reduceAll (ps.map Turn.action) :=
      state_playAll_around _ _ _ _
    rw [chain?_playAll (fun _ => rfl)] at hopen
    rw [hstate]
    exact root_or_added_of_history BrowserState.wellFormed_empty _ hopen
  · intro p hno
    rw [chain?_play, show r.env.chains.chain? session = some c from hopen]
    exact Watch.move_some (Seen.commits_of_ne r.state hno) c

/-- A tab is removed while its chain is open, and another one is added under its id. -/
def readded : List Turn :=
  [.tabList (.add (.fresh "a" "p" false .epoch) true), .content ⟨"a", .loadRequest (.plain "q")⟩,
    .tabList (.remove "a"), .tabList (.restore [.fresh "a" "z" false .epoch] none)].map
      fun a => ⟨⟨5⟩, id, a⟩

theorem root_of_open_chain_readded :
    let sinks : Sinks := ⟨.blank, .unknown, .empty, ⟨0⟩, .refuse, []⟩
    let h := history .empty (readded.map Turn.action)
    let r := (playAll [Telemetry.middleware] ⟨.empty, ⟨sinks, .empty⟩⟩ readded).value
    let tab := Session.fresh "a" "z" false .epoch
    r.env.chains.chain? "a" = some ⟨"p", ["q"]⟩ ∧ r.state.findTab "a" = some tab ∧
      (∃ i, OpenedAt h "a" "p" i ∧ AddedSince h "a" i tab) ∧
      ∃ c', (play [Telemetry.middleware] r ⟨⟨5⟩, id, .tabList .removeAll⟩).value.env.chains.chain?
        "a" = some c' ∧ c'.root = "p" := by
  intro sinks h r tab
  have hopen : r.env.chains.chain? "a" = some ⟨"p", ["q"]⟩ := by decide
  have hfound : r.state.findTab "a" = some tab := by decide
  obtain ⟨⟨i, hi, hroot⟩, hstays⟩ := root_of_open_chain sinks readded "a" ⟨"p", ["q"]⟩ hopen
  refine ⟨hopen, hfound, ⟨i, hi, (hroot tab hfound).resolve_left (by decide)⟩, ?_⟩
  exact hstays ⟨⟨5⟩, id, .tabList .removeAll⟩ (by simp)

/-- The root need not be the page that the tab of the session is on: the chain outlives the tab. -/
theorem chain_outlives_its_tab :
    ¬ ∀ (sinks : Sinks) (ps : List Turn) (session : String) (c : RedirectChain) (tab : Session),
      let r := (playAll [Telemetry.middleware] ⟨.empty, ⟨sinks, .empty⟩⟩ ps).value
      r.env.chains.chain? session = some c → r.state.findTab session = some tab →
        c.root = tab.content.url := by
  intro hroot
  exact absurd
    (hroot ⟨.blank, .unknown, .empty, ⟨0⟩, .refuse, []⟩ readded "a" ⟨"p", ["q"]⟩
      (.fresh "a" "z" false .epoch) (by decide) (by decide))
    (by decide)

end Store

end BrowserTelemetry
