import BrowserTelemetry.Proofs.OpenChains
import BrowserTelemetry.Proofs.SessionLookup

/-!
# Sessions do not interfere

Changes to the content of several sessions reach a store in some order. **Only the order within each
session matters**: two interleavings of the same actions lead to the same state, metrics, open
chains and database.

The argument is that of traces. Two actions that stand next to each other and are for different
sessions can be swapped, because neither looks at what the other changes; and by such swaps any
interleaving becomes any other (`Swappable.foldl`).

What a swap does not preserve is the order of the reports of redirect chains, so stores are compared
up to that order. It does not show in the database: clicks on ads come to the same in any order,
whether or not there is a table for them, and also when the counts have outgrown their range
(`Database.clicked_comm`).
-/

namespace BrowserTelemetry

set_option autoImplicit false

/-! ## Swapping -/

/-- Steps that can be swapped when their keys differ. The results need not be equal, they are
    related by `Same`. -/
structure Swappable {σ α κ : Type} (step : σ → α → σ) (key : α → κ) (Same : σ → σ → Prop) :
    Prop where
  refl (s : σ) : Same s s
  trans {s t u : σ} : Same s t → Same t u → Same s u
  congr {s t : σ} (a : α) : Same s t → Same (step s a) (step t a)
  swap (s : σ) {a b : α} : key a ≠ key b → Same (step (step s a) b) (step (step s b) a)

namespace Swappable

variable {σ α κ : Type} {step : σ → α → σ} {key : α → κ} {Same : σ → σ → Prop}

theorem foldl_step (h : Swappable step key Same) (l : List α) {s t : σ} (hst : Same s t) :
    Same (l.foldl step s) (l.foldl step t) := by
  induction l generalizing s t with
  | nil => exact hst
  | cons a rest ih => exact ih (h.congr a hst)

/-- A step can be taken before those of other keys. -/
theorem foldl_front (h : Swappable step key Same) {before : List α} {a : α}
    (hbefore : ∀ b ∈ before, key b ≠ key a) (after : List α) (s : σ) :
    Same ((before ++ a :: after).foldl step s) ((a :: (before ++ after)).foldl step s) := by
  induction before generalizing s with
  | nil => exact h.refl _
  | cons b rest ih =>
    refine h.trans (ih (fun c hc => hbefore c (.tail _ hc)) (step s b)) ?_
    exact h.foldl_step (rest ++ after) (h.swap s (hbefore b (.head _)))

/-- **Only the order within each key matters.** -/
theorem foldl [DecidableEq κ] (h : Swappable step key Same) {l m : List α}
    (hsame : ∀ k, l.filter (fun a => key a = k) = m.filter fun a => key a = k) (s : σ) :
    Same (m.foldl step s) (l.foldl step s) := by
  induction l generalizing m s with
  | nil =>
    cases m with
    | nil => exact h.refl s
    | cons a rest => exact absurd (hsame (key a)) (by simp)
  | cons a rest ih =>
    -- The first step of `l` is the first of its key in `m`; what stands before it there can wait.
    have hfirst : m.filter (fun b => key b = key a) = a :: rest.filter fun b => key b = key a := by
      rw [← hsame (key a), List.filter_cons, if_pos (by simp)]
    obtain ⟨before, after, rfl, hbefore, -, hafter⟩ := List.filter_eq_cons_iff.1 hfirst
    have hother : ∀ b ∈ before, key b ≠ key a := fun b hb heq => hbefore b hb (by simp [heq])
    refine h.trans (h.foldl_front hother after s) (ih (fun k => ?_) (step s a))
    have hk := hsame k
    rw [List.filter_append, List.filter_cons, List.filter_cons] at hk
    rw [List.filter_append]
    by_cases hak : key a = k
    · have hnone : before.filter (fun b => key b = k) = [] :=
        List.filter_eq_nil_iff.2 fun b hb => by simpa [← hak] using hother b hb
      rw [hnone, List.nil_append, ← hak, hafter]
    · simpa [hak] using hk

end Swappable

/-! ## What the sinks are given -/

/-- What telemetry hands to its sinks before a change to the content of a session. -/
inductive Delivery where
  | pageLoaded
  | redirected (chain : RedirectChain)

/-- What it is for an action, given the tab of its session and the chain that is open. -/
def ContentAction.delivery? (a : ContentAction) (tab? : Option Session)
    (open? : Option RedirectChain) : Option Delivery :=
  match a.change with
  | .loading value =>
    if tab?.any fun tab => tab.content.loading && !value && !tab.isPrivate then some .pageLoaded
    else none
  | .url _ => open?.map .redirected
  | .loadRequest _ | .title _ => none

namespace Sinks

/-- The sinks after a delivery. -/
def deliver (s : Sinks) : Option Delivery → Sinks
  | none => s
  | some .pageLoaded => (s.track .uriOpened).value
  | some (.redirected c) => (s.report c).value.2

/-- The same sinks, except that their reports may have come in another order. -/
def Same (s u : Sinks) : Prop := ∃ reports, u = { s with reports } ∧ s.reports.Perm reports

theorem Same.refl (s : Sinks) : s.Same s := ⟨s.reports, rfl, .refl _⟩

theorem Same.trans {s u v : Sinks} (h : s.Same u) (h' : u.Same v) : s.Same v := by
  obtain ⟨reports, rfl, hperm⟩ := h
  obtain ⟨reports', rfl, hperm'⟩ := h'
  exact ⟨reports', rfl, hperm.trans hperm'⟩

theorem Same.deliver {s u : Sinks} (h : s.Same u) (d : Option Delivery) :
    (s.deliver d).Same (u.deliver d) := by
  obtain ⟨reports, rfl, hperm⟩ := h
  match d with
  | none => exact ⟨reports, rfl, hperm⟩
  | some .pageLoaded => exact ⟨reports, rfl, hperm⟩
  | some (.redirected c) =>
    simp only [Sinks.deliver, value_report]
    exact ⟨reports ++ [c], rfl, hperm.append_right [c]⟩

theorem deliver_comm (s : Sinks) (d e : Option Delivery) :
    ((s.deliver d).deliver e).Same ((s.deliver e).deliver d) := by
  match d, e with
  | none, _ => exact .refl _
  | _, none => exact .refl _
  -- An event is counted in the metrics, and a report is made of the rest.
  | some .pageLoaded, some .pageLoaded => exact .refl _
  | some .pageLoaded, some (.redirected c) =>
    simp only [deliver, value_report, value_track]
    exact .refl _
  | some (.redirected c), some .pageLoaded =>
    simp only [deliver, value_report, value_track]
    exact .refl _
  | some (.redirected c), some (.redirected c') =>
    simp only [deliver, value_report, List.append_assoc]
    rw [Database.clicked_comm]
    exact ⟨_, rfl, List.perm_append_comm.append_left s.reports⟩

end Sinks

/-! ## One action -/

theorem Telemetry.sinks_before_content (state : BrowserState) (a : ContentAction) (t : Telemetry) :
    (before state (.content a) t).value.sinks =
      t.sinks.deliver (a.delivery? (state.findTab a.sessionId) (t.chains.chain? a.sessionId)) := by
  obtain ⟨id, change⟩ := a
  cases change with
  | loading value =>
    simp only [before, value_loadingChanges, ContentAction.delivery?]
    cases state.findTab id with
    | none => rfl
    | some tab =>
      simp only [Option.any_some]
      split <;> rfl
  | loadRequest request =>
    simp only [before, value_loadRequested, ContentAction.delivery?]
    cases state.findTab id <;> rfl
  | url value =>
    simp only [sinks_before_commit, ContentAction.delivery?]
    cases t.chains.chain? id <;> rfl
  | title value => rfl

/-- A change to the content of a session does not move the chains of others. -/
theorem Seen.move_of_ne {state : BrowserState} {a : ContentAction} {session : String}
    (h : a.sessionId ≠ session) (open? : Option RedirectChain) :
    (Seen.watch session).move (state, .content a) open? = open? := by
  obtain ⟨id, change⟩ := a
  have hid : id ≠ session := h
  cases change <;> simp [Watch.move, Seen.watch, hid]

/-- Of the state it finds it needs the tab of its session only. -/
theorem Seen.move_congr {state state' : BrowserState} {a : ContentAction} (session : String)
    (h : state.findTab a.sessionId = state'.findTab a.sessionId) (open? : Option RedirectChain) :
    (Seen.watch session).move (state, .content a) open? =
      (Seen.watch session).move (state', .content a) open? := by
  obtain ⟨id, change⟩ := a
  cases change with
  | loadRequest request =>
    by_cases hid : id = session
    · subst hid
      simp only [Watch.move, Seen.watch, show state.findTab id = state'.findTab id from h]
    · simp [Watch.move, Seen.watch, hid]
  | loading value => rfl
  | url value => rfl
  | title value => rfl

theorem BrowserState.findTab_reduceContent_of_ne (s : BrowserState) {a : ContentAction}
    {session : String} (h : a.sessionId ≠ session) :
    (s.reduceContent a).findTab session = s.findTab session := by
  rw [reduceContent, findTab_updateSession s (by intro t; rfl), if_neg (Ne.symm h)]

/-! ## Stores -/

namespace Store

/-- Actions, one after the other. -/
def dispatchAll (ms : List (Middleware Telemetry)) (s : Store Telemetry)
    (actions : List BrowserAction) : Logged (Store Telemetry) :=
  actions.foldlM (fun s a => dispatch ms a s) s

/-- A store with telemetry after a change to the content of a session. -/
def change (s : Store Telemetry) (a : ContentAction) : Store Telemetry :=
  (dispatch [Telemetry.middleware] (.content a) s).value

/-- What the action makes telemetry hand to the sinks of the store. -/
def delivery? (s : Store Telemetry) (a : ContentAction) : Option Delivery :=
  a.delivery? (s.state.findTab a.sessionId) (s.env.chains.chain? a.sessionId)

variable {s : Store Telemetry} {a b : ContentAction}

theorem value_dispatchAll_content (s : Store Telemetry) (l : List ContentAction) :
    (dispatchAll [Telemetry.middleware] s (l.map .content)).value = l.foldl change s := by
  rw [dispatchAll, Logged.value_foldlM, List.foldl_map]
  rfl

theorem state_change (s : Store Telemetry) (a : ContentAction) :
    (s.change a).state = s.state.reduceContent a := rfl

theorem sinks_change (s : Store Telemetry) (a : ContentAction) :
    (s.change a).env.sinks = s.env.sinks.deliver (s.delivery? a) :=
  Telemetry.sinks_before_content s.state a s.env

theorem chain?_change (s : Store Telemetry) (a : ContentAction) (session : String) :
    (s.change a).env.chains.chain? session =
      (Seen.watch session).move (s.state, .content a) (s.env.chains.chain? session) :=
  Telemetry.chain?_before s.state (.content a) s.env session

/-- The same stores, except that the reports of chains may have come in another order. -/
structure Same (s u : Store Telemetry) : Prop where
  state : s.state = u.state
  chains : s.env.chains = u.env.chains
  sinks : s.env.sinks.Same u.env.sinks

theorem Same.change {u : Store Telemetry} (h : s.Same u) (a : ContentAction) :
    (s.change a).Same (u.change a) where
  state := by rw [state_change, state_change, h.state]
  chains := by
    refine RedirectChains.eq_of_chain? fun session => ?_
    rw [chain?_change, chain?_change, h.state, h.chains]
  sinks := by
    rw [sinks_change, sinks_change, delivery?, h.state, h.chains]
    exact h.sinks.deliver _

/-- What telemetry makes of an action is not touched by actions of other sessions. -/
theorem delivery?_change_of_ne (h : a.sessionId ≠ b.sessionId) :
    (s.change a).delivery? b = s.delivery? b := by
  rw [delivery?, state_change, BrowserState.findTab_reduceContent_of_ne s.state h, chain?_change,
    Seen.move_of_ne h, delivery?]

theorem chain?_change_change (h : a.sessionId ≠ b.sessionId) (session : String) :
    ((s.change a).change b).env.chains.chain? session =
      (Seen.watch session).move (s.state, .content b)
        ((Seen.watch session).move (s.state, .content a) (s.env.chains.chain? session)) := by
  rw [chain?_change, chain?_change, state_change]
  exact Seen.move_congr session (BrowserState.findTab_reduceContent_of_ne s.state h) _

/-- **Two actions of different sessions can be swapped.** -/
theorem same_change_change (s : Store Telemetry) (h : a.sessionId ≠ b.sessionId) :
    ((s.change a).change b).Same ((s.change b).change a) where
  state := BrowserState.updateSession_comm s.state (fun _ => rfl) (fun _ => rfl) h
  chains := by
    refine RedirectChains.eq_of_chain? fun session => ?_
    rw [chain?_change_change h, chain?_change_change (Ne.symm h)]
    -- At most one of the two is an action of the session.
    by_cases ha : a.sessionId = session
    · have hb : b.sessionId ≠ session := fun hb => h (ha.trans hb.symm)
      rw [Seen.move_of_ne hb, Seen.move_of_ne hb]
    · rw [Seen.move_of_ne ha, Seen.move_of_ne ha]
  sinks := by
    rw [sinks_change, sinks_change, delivery?_change_of_ne h, sinks_change, sinks_change,
      delivery?_change_of_ne (Ne.symm h)]
    exact Sinks.deliver_comm _ _ _

theorem swappable_change : Swappable change ContentAction.sessionId Same where
  refl _ := ⟨rfl, rfl, .refl _⟩
  trans h h' := ⟨h.state.trans h'.state, h.chains.trans h'.chains, h.sinks.trans h'.sinks⟩
  congr a h := h.change a
  swap s _ _ h := same_change_change s h

/-- Is `l` made of these actions of each session, in their order? -/
def IsInterleaving (parts : String → List ContentAction) (l : List ContentAction) : Prop :=
  ∀ session, l.filter (fun a => a.sessionId = session) = parts session

/-- **Sessions do not interfere.** Begin with any store, whatever is open, counted and stored in it,
    and take for each session some changes to its content, in their order. However they are
    interleaved, they lead to

    * the same state;
    * the same metrics;
    * the same open chains;
    * the same database, and so to the same counts of ad clicks, also when there is no table for
      them or a count outgrows it;
    * the same reports of chains, in some order. -/
theorem interleavings_agree (s : Store Telemetry) (parts : String → List ContentAction)
    (l m : List ContentAction) (hl : IsInterleaving parts l) (hm : IsInterleaving parts m) :
    let r := (dispatchAll [Telemetry.middleware] s (l.map .content)).value
    let v := (dispatchAll [Telemetry.middleware] s (m.map .content)).value
    r.state = v.state ∧
    r.env.sinks.metrics = v.env.sinks.metrics ∧
    r.env.chains = v.env.chains ∧
    r.env.sinks.database = v.env.sinks.database ∧
    r.env.sinks.reports.Perm v.env.sinks.reports := by
  intro r v
  have hr : r = l.foldl change s := value_dispatchAll_content s l
  have hv : v = m.foldl change s := value_dispatchAll_content s m
  have hsame : r.Same v := by
    rw [hr, hv]
    exact swappable_change.foldl (fun session => (hm session).trans (hl session).symm) s
  obtain ⟨reports, hsinks, hperm⟩ := hsame.sinks
  rw [hsinks]
  exact ⟨hsame.state, rfl, hsame.chains, rfl, hperm⟩

/-- Two tabs whose chains are clicks on ads of one provider, the second of which outgrows the table:
    one session after the other, or both together. -/
theorem interleavings_agree_outgrown :
    let ads : AdSink := .attribute [⟨"local", ["[::1]"], ["[::1]/aclk"]⟩]
    let db : Database :=
      ⟨none, some (.insert .empty "local" (.integer (Int64.maxValue - 1))), none⟩
    let tabs : List Session :=
      [.fresh "a" "http://[::1]/a" false .epoch, .fresh "b" "http://[::1]/b" false .epoch]
    let s : Store Telemetry :=
      ⟨.withTabs tabs none, ⟨⟨db, .unknown, .empty, ⟨0⟩, ads, []⟩, .empty⟩⟩
    let request (id : String) : ContentAction := ⟨id, .loadRequest (.plain "http://[::1]/aclk")⟩
    let commit (id : String) : ContentAction := ⟨id, .url "http://[::2]/"⟩
    let l := [request "a", commit "a", request "b", commit "b"]
    let m := [request "b", request "a", commit "b", commit "a"]
    let r := (dispatchAll [Telemetry.middleware] s (l.map .content)).value
    let v := (dispatchAll [Telemetry.middleware] s (m.map .content)).value
    IsInterleaving (fun id => l.filter fun a => a.sessionId = id) m ∧
      r.state = v.state ∧ r.env.sinks.metrics = v.env.sinks.metrics ∧ r.env.chains = v.env.chains ∧
      v.env.sinks.database = ⟨none, some (.insert .empty "local" .real), none⟩ ∧
      r.env.sinks.reports.Perm v.env.sinks.reports ∧ r.env.sinks.reports ≠ v.env.sinks.reports := by
  intro ads db tabs s request commit l m
  have hm : IsInterleaving (fun id => l.filter fun a => a.sessionId = id) m := by
    intro id
    by_cases ha : "a" = id
    · subst ha
      decide
    · by_cases hb : "b" = id
      · subst hb
        decide
      · simp [l, m, request, commit, ha, hb]
  obtain ⟨hstate, hmetrics, hchains, hdatabase, hreports⟩ :=
    interleavings_agree s (fun id => l.filter fun a => a.sessionId = id) l m (fun _ => rfl) hm
  refine ⟨hm, hstate, hmetrics, hchains, ?_, hreports, by decide +kernel⟩
  rw [← hdatabase]
  decide +kernel

end Store

end BrowserTelemetry
