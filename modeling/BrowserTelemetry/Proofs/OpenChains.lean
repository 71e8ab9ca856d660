import BrowserTelemetry.Proofs.RequestHistory
import BrowserTelemetry.Proofs.SinkEffects
import BrowserTelemetry.Proofs.Turns
import Mathlib.Data.List.Induction

/-!
# The open chains of a run

Telemetry feeds the tracker from the actions: a load request counts if its session is among the tabs
**at that moment**, and is then a request by a session that is on the address of that tab; a commit
counts for every session, also for one that has no tab. So what an action is to a session depends on
the state it finds, and a history here is a list of actions with those states (`history`).

`Store.chain?_playAll` says that the chains telemetry keeps are those of the history.
-/

namespace BrowserTelemetry

set_option autoImplicit false

/-- An action, and the state that it found. -/
abbrev Seen : Type := BrowserState × BrowserAction

/-- What actions found, one after the other. -/
def history (s : BrowserState) : List BrowserAction → List Seen
  | [] => []
  | a :: rest => (s, a) :: history (s.reduce a) rest

theorem history_concat (s : BrowserState) (actions : List BrowserAction) (a : BrowserAction) :
    history s (actions ++ [a]) = history s actions ++ [(s.reduceAll actions, a)] := by
  induction actions generalizing s with
  | nil => rfl
  | cons b rest ih =>
    rw [List.cons_append, history, ih, history, List.cons_append, BrowserState.reduceAll_cons]

theorem length_history (s : BrowserState) (actions : List BrowserAction) :
    (history s actions).length = actions.length := by
  induction actions generalizing s with
  | nil => rfl
  | cons a rest ih => rw [history, List.length_cons, ih, List.length_cons]

theorem getElem?_history (s : BrowserState) (actions : List BrowserAction) (n : Nat) :
    (history s actions)[n]? = actions[n]?.map fun a => (s.reduceAll (actions.take n), a) := by
  induction actions generalizing s n with
  | nil => rfl
  | cons a rest ih =>
    cases n with
    | zero => rfl
    | succ n => exact ih (s.reduce a) n

/-- What one action of a history leads to is what the next one finds. -/
theorem fst_of_history {s : BrowserState} {actions : List BrowserAction} {k : Nat} {e e' : Seen}
    (h : (history s actions)[k]? = some e) (h' : (history s actions)[k + 1]? = some e') :
    e'.1 = e.1.reduce e.2 := by
  rw [getElem?_history] at h h'
  obtain ⟨a, ha, rfl⟩ := Option.map_eq_some_iff.1 h
  obtain ⟨b, -, rfl⟩ := Option.map_eq_some_iff.1 h'
  exact BrowserState.reduceAll_take_add_one ha

theorem wellFormed_of_history {s : BrowserState} (hs : s.WellFormed) {actions : List BrowserAction}
    {k : Nat} {e : Seen} (h : (history s actions)[k]? = some e) : e.1.WellFormed := by
  rw [getElem?_history] at h
  obtain ⟨a, -, rfl⟩ := Option.map_eq_some_iff.1 h
  exact hs.reduceAll _

/-- What holds after one action of a history, and is kept by every action but some, holds before a
    later one unless one of those came between. -/
theorem holds_or_between (P : BrowserState → Prop) (Breaks : BrowserState → BrowserAction → Prop)
    (hkeep : ∀ s a, P s → ¬ Breaks s a → P (s.reduce a)) {s : BrowserState}
    {actions : List BrowserAction} {n m : Nat} (hlt : n < m) {e e' : Seen}
    (hn : (history s actions)[n]? = some e) (hafter : P (e.1.reduce e.2))
    (hm : (history s actions)[m]? = some e') :
    P e'.1 ∨ ∃ k f, n < k ∧ k < m ∧ (history s actions)[k]? = some f ∧ Breaks f.1 f.2 := by
  induction hlt generalizing e' with
  | refl =>
    rw [fst_of_history hn hm]
    exact .inl hafter
  | @step m hle ih =>
    obtain ⟨f, hf⟩ : ∃ f, (history s actions)[m]? = some f := by
      have hlength := (List.getElem?_eq_some_iff.1 hm).1
      exact ⟨_, List.getElem?_eq_getElem (Nat.lt_of_succ_lt hlength)⟩
    rcases ih hf with hholds | ⟨k, g, hnk, hkm, hg, hbreaks⟩
    · by_cases hbreaks : Breaks f.1 f.2
      · exact .inr ⟨m, f, hle, Nat.lt_succ_self m, hf, hbreaks⟩
      · rw [fst_of_history hf hm]
        exact .inl (hkeep f.1 f.2 hholds hbreaks)
    · exact .inr ⟨k, g, hnk, Nat.lt_succ_of_lt hkm, hg, hbreaks⟩

/-- What an action is to a session: a request if the session has a tab, or a commit. -/
def Seen.watch (session : String) : Watch Seen where
  request?
    | (s, .content ⟨id, .loadRequest request⟩) =>
      if id = session then (s.findTab session).map fun tab => ⟨request.url, tab.content.url⟩
      else none
    | _ => none
  commits
    | (_, .content ⟨id, .url _⟩) => id = session
    | _ => false

/-! ## One action -/

namespace Telemetry

/-- The work before an action moves the chain of every session as the history says. -/
theorem chain?_before (state : BrowserState) (a : BrowserAction) (t : Telemetry)
    (session : String) :
    (before state a t).value.chains.chain? session =
      (Seen.watch session).move (state, a) (t.chains.chain? session) := by
  cases a with
  | content a =>
    obtain ⟨id, change⟩ := a
    cases change with
    | loading value =>
      simp only [before, value_loadingChanges, Seen.watch, Watch.move]
      cases state.findTab id with
      | none => rfl
      | some tab =>
        simp only
        split <;> rfl
    | loadRequest request =>
      simp only [before, value_loadRequested, Seen.watch, Watch.move]
      by_cases hid : id = session
      · subst hid
        cases state.findTab id with
        | none => simp
        | some tab => simp [RedirectChains.chain?_request]
      · cases state.findTab id with
        | none => simp [hid]
        | some tab => simp [RedirectChains.chain?_request, hid]
    | url value =>
      simp only [before, value_urlCommitted, RedirectChains.chain?_commitTo, Seen.watch, Watch.move]
      by_cases hid : id = session <;> simp [hid]
    | title value => rfl
  | download a => cases a <;> rfl
  | engine a => cases a <;> rfl
  | tabList a => rfl
  | customTabList a => rfl

theorem chains_after (state : BrowserState) (a : BrowserAction) (t : Telemetry) :
    (after state a t).value.chains = t.chains := by
  rw [value_after]
  split <;> rfl

end Telemetry

/-! ## Runs -/

namespace Store

theorem chain?_play (s : Store Telemetry) (p : Turn) (session : String) :
    (play [Telemetry.middleware] s p).value.env.chains.chain? session =
      (Seen.watch session).move (s.state, p.action) (s.env.chains.chain? session) := by
  unfold play Telemetry.middleware
  rw [value_dispatch_around, Telemetry.chains_after, Telemetry.chain?_before]

/-- **The open chains of a run are those of its history**, if none were open at the beginning. -/
theorem chain?_playAll {s : Store Telemetry} (hnone : ∀ session, s.env.chains.chain? session = none)
    (ps : List Turn) (session : String) :
    (playAll [Telemetry.middleware] s ps).value.env.chains.chain? session =
      (Seen.watch session).chain? (history s.state (ps.map Turn.action)) := by
  induction ps using List.reverseRecOn with
  | nil => exact hnone session
  | append_singleton ps p ih =>
    -- What the turn finds is what its actions so far have made of the state.
    have hstate : (playAll [Telemetry.middleware] s ps).value.state =
        s.state.reduceAll (ps.map Turn.action) := state_playAll_around _ _ _ _
    rw [value_playAll_concat, chain?_play, hstate, ih, List.map_append, List.map_singleton,
      history_concat, Watch.chain?_concat]

theorem chain?_playAll_funext {s : Store Telemetry}
    (hnone : ∀ session, s.env.chains.chain? session = none) (ps : List Turn) :
    (playAll [Telemetry.middleware] s ps).value.env.chains.chain? =
      fun id => (Seen.watch id).chain? (history s.state (ps.map Turn.action)) := by
  funext session
  exact chain?_playAll hnone ps session

end Store

end BrowserTelemetry
