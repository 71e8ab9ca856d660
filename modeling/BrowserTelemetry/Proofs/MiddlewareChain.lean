import BrowserTelemetry.Proofs.StateInvariant
import BrowserTelemetry.Store.Middleware
import Mathlib.Data.List.Induction

/-!
# A chain of middleware

Middleware that behaves does some work, lets the action through once and unchanged, and does some
more work, which may use what it has found out in the first half. So its first half (`Opening`)
comes down to a value: **the work that is left to do**. What middleware keeps for itself is part of
the environment.

A chain of such middleware of any length is one program without any nesting: open one after the
other, hand the action on, and close in the opposite order (`chain_surround`). Nobody but the
innermost handler touches the state, so all that open see the same one, and all that close see what
the innermost handler has made of it. To see this happen, the parts of a chain are made to note when
they run, with what, and in which state (`chain_noted`).
-/

namespace BrowserTelemetry

set_option autoImplicit false

variable {ε : Type}

/-- What middleware does before it lets an action through. It ends with the work to do
    afterwards. -/
abbrev Opening (ε : Type) : Type := BrowserState → BrowserAction → ε → Logged (Work ε × ε)

/-- Middleware with a first half: it lets the action through once and unchanged, and then does the
    work that is left to do, on the state that the action has led to. -/
def Middleware.surround (o : Opening ε) : Middleware ε := fun next a s => do
  let (closing, env) ← o s.state a s.env
  let s ← next a { s with env }
  let env ← closing s.state a s.env
  return { s with env }

/-- Work before and after that share nothing but the environment. -/
theorem Middleware.around_eq_surround (before after : Work ε) :
    around before after = surround fun state a env => return (after, ← before state a env) := by
  funext next a s
  simp only [around, surround, bind_assoc, pure_bind]

/-- Open one after the other. What is left to do is stacked up: the last to open is the first to
    close. -/
def Opening.all (os : List (Opening ε)) (state : BrowserState) (a : BrowserAction) (env : ε) :
    Logged (List (Work ε) × ε) :=
  os.foldlM (fun (closings, env) o => do
    let (closing, env) ← o state a env
    return (closing :: closings, env)) ([], env)

/-- Work of several, one after the other. -/
def Work.all (ws : List (Work ε)) : Work ε := fun state a env =>
  ws.foldlM (fun env w => w state a env) env

namespace Store

/-- A handler with middleware around it, the first of the list outermost. -/
def chain (ms : List (Middleware ε)) (h : Handler ε) : Handler ε :=
  ms.foldr (fun m next => m next) h

theorem chain_concat (ms : List (Middleware ε)) (m : Middleware ε) (h : Handler ε) :
    chain (ms ++ [m]) h = chain ms (m h) := List.foldr_append ..

/-- **A chain without its nesting**, whatever stands in the middle of it. -/
theorem chain_surround (os : List (Opening ε)) (h : Handler ε) (a : BrowserAction) (s : Store ε) :
    chain (os.map Middleware.surround) h a s = do
      let (closings, env) ← Opening.all os s.state a s.env
      let s ← h a { s with env }
      let env ← Work.all closings s.state a s.env
      return { s with env } := by
  -- The last of the middleware is part of the handler that the others stand around.
  induction os using List.reverseRecOn generalizing h with
  | nil => simp [chain, Opening.all, Work.all]
  | append_singleton os o ih =>
    rw [List.map_append, List.map_singleton, chain_concat, ih]
    simp only [Middleware.surround, Opening.all, Work.all, List.foldlM_append, List.foldlM_cons,
      List.foldlM_nil, bind_assoc, pure_bind]

theorem through_eq_chain (ms : List (Middleware ε)) : through ms = chain ms reduce := rfl

/-- What a dispatch comes to: a line in the log, the first halves, the reducer, the second
    halves. -/
theorem dispatch_surround (os : List (Opening ε)) (a : BrowserAction) (s : Store ε) :
    dispatch (os.map Middleware.surround) a s = do
      Logged.log .trace "Dispatching action" []
      let (closings, env) ← Opening.all os s.state a s.env
      let state ← s.state.apply a
      let env ← Work.all closings state a env
      return ⟨state, env⟩ := by
  rw [dispatch, through_eq_chain, chain_surround]
  simp only [reduce, bind_assoc, pure_bind]

/-! ## Notes -/

end Store

/-- A note of what has been run, with which action and in which state; of middleware, in which place
    of the chain it stands. -/
inductive Sighting where
  | opens (place : Nat) (a : BrowserAction) (state : BrowserState)
  | handles (a : BrowserAction) (state : BrowserState)
  | closes (place : Nat) (a : BrowserAction) (state : BrowserState)

/-- An opening that takes notes, of itself and of the closing. -/
def Opening.noted (place : Nat) (o : Opening ε) : Opening (ε × List Sighting) :=
  fun state a env => do
  let (closing, own) ← o state a env.1
  let closing' : Work (ε × List Sighting) := fun state a env => do
    let own ← closing state a env.1
    return (own, env.2 ++ [.closes place a state])
  return (closing', own, env.2 ++ [.opens place a state])

/-- A handler that takes a note. -/
def Handler.noted (h : Handler ε) : Handler (ε × List Sighting) := fun a s => do
  let s' ← h a ⟨s.state, s.env.1⟩
  return ⟨s'.state, s'.env, s.env.2 ++ [.handles a s.state]⟩

/-- Openings that take notes, the first of them standing in the given place. -/
def Opening.notedFrom (place : Nat) : List (Opening ε) → List (Opening (ε × List Sighting))
  | [] => []
  | o :: os => o.noted place :: notedFrom (place + 1) os

namespace Store

/-- **A chain that takes notes** does what it does without notes, and notes that all open in their
    order, that the innermost handler is given the action once, and that all close in the opposite
    order; and that the state is the old one until then, and the new one from then on. -/
theorem chain_noted (os : List (Opening ε)) (h : Handler ε) (a : BrowserAction) (place : Nat)
    (state : BrowserState) (env : ε) (notes : List Sighting) :
    chain ((Opening.notedFrom place os).map Middleware.surround) (Handler.noted h) a
        ⟨state, env, notes⟩ = do
      let s ← chain (os.map Middleware.surround) h a ⟨state, env⟩
      return ⟨s.state, s.env, notes ++
        (List.range' place os.length).map (.opens · a state) ++ [.handles a state] ++
        (List.range' place os.length).reverse.map (.closes · a s.state)⟩ := by
  induction os generalizing place env notes with
  | nil => simp [Opening.notedFrom, chain, Handler.noted]
  | cons o os ih =>
    have hlist : (Opening.notedFrom place (o :: os)).map Middleware.surround =
      Middleware.surround (o.noted place) ::
        (Opening.notedFrom (place + 1) os).map Middleware.surround := rfl
    rw [hlist, List.map_cons]
    simp only [chain, List.foldr_cons] at ih ⊢
    rw [Middleware.surround, Middleware.surround]
    simp only [Opening.noted, bind_assoc, pure_bind, ih, List.length_cons, List.range'_succ,
      List.map_cons, List.map_nil, List.reverse_cons, List.map_append, List.append_assoc,
      List.cons_append, List.nil_append]

/-! ## Runs -/

theorem state_dispatch_surround (os : List (Opening ε)) (a : BrowserAction) (s : Store ε) :
    (dispatch (os.map Middleware.surround) a s).value.state = s.state.reduce a := by
  rw [dispatch_surround]
  rfl

theorem state_run_surround (os : List (Opening ε)) (actions : List BrowserAction) (s : Store ε) :
    (actions.foldlM (fun s a => dispatch (os.map Middleware.surround) a s) s).value.state =
      s.state.reduceAll actions := by
  rw [Logged.value_foldlM]
  induction actions generalizing s with
  | nil => rfl
  | cons a rest ih =>
    rw [List.foldl_cons, ih, state_dispatch_surround, BrowserState.reduceAll_cons]

/-- **How a dispatch goes through middleware** that lets every action through once and unchanged,
    whatever else it does, and however much of it there is.

    * The first halves run in the order of the list, the reducer once, and the second halves in the
      opposite order; nothing else happens but a line in the log.
    * If all of them take notes, the notes say so: all first halves are given the action and the old
      state, so is the reducer, and all second halves are given the action and the new state. Taking
      notes changes nothing else.
    * The state of a run of dispatches is that of the reducer alone, whatever the middleware. -/
theorem dispatch_opens_reduces_closes (os : List (Opening ε)) :
    (∀ (a : BrowserAction) (s : Store ε), dispatch (os.map Middleware.surround) a s = do
      Logged.log .trace "Dispatching action" []
      let (closings, env) ← Opening.all os s.state a s.env
      let state ← s.state.apply a
      let env ← Work.all closings state a env
      return ⟨state, env⟩) ∧
    (∀ (a : BrowserAction) (s : Store ε),
      let noted := (chain ((Opening.notedFrom 0 os).map Middleware.surround)
        (Handler.noted reduce) a ⟨s.state, s.env, []⟩).value
      noted.state = s.state.reduce a ∧
      noted.env.1 = (dispatch (os.map Middleware.surround) a s).value.env ∧
      noted.env.2 =
        (List.range os.length).map (.opens · a s.state) ++ [.handles a s.state] ++
          (List.range os.length).reverse.map (.closes · a (s.state.reduce a))) ∧
    ∀ (actions : List BrowserAction) (s : Store ε),
      (actions.foldlM (fun s a => dispatch (os.map Middleware.surround) a s) s).value.state =
        s.state.reduceAll actions := by
  refine ⟨dispatch_surround os, fun a s => ?_, state_run_surround os⟩
  have hstate : (chain (os.map Middleware.surround) reduce a s).value.state = s.state.reduce a :=
    state_dispatch_surround os a s
  rw [chain_noted, ← List.range_eq_range']
  refine ⟨hstate, rfl, ?_⟩
  rw [← hstate]
  rfl

end Store
end BrowserTelemetry
