import BrowserTelemetry.Tab.Reduce

/-!
# Middleware

A store holds the state of a browser and the environment that its middleware works on. Middleware
stands around the reducer: it is given an action and what lets the action through, and may do its
work before and after.

Well-behaved middleware lets every action through once and unchanged (`Middleware.around`), so it
can never influence the state. Nothing forces middleware to be so.
-/

namespace BrowserTelemetry

set_option autoImplicit false

/-- The state of a browser, and the environment of type `ε` of the middleware. -/
structure Store (ε : Type) where
  state : BrowserState
  env : ε

/-- What becomes of a store when it is given an action. -/
abbrev Handler (ε : Type) : Type := BrowserAction → Store ε → Logged (Store ε)

/-- A handler around another one. -/
abbrev Middleware (ε : Type) : Type := Handler ε → Handler ε

/-- Work that middleware does on its environment, given the state and the action. -/
abbrev Work (ε : Type) : Type := BrowserState → BrowserAction → ε → Logged ε

namespace Middleware

variable {ε : Type}

/-- Middleware that does some work, lets the action through once and unchanged, and does some more
    work on the state that the action has led to. -/
def around (before after : Work ε) : Middleware ε := fun next a s => do
  let env ← before s.state a s.env
  let s ← next a { s with env }
  let env ← after s.state a s.env
  return { s with env }

end Middleware

/-- Work on a part of an environment, given how to see the part and how to put it back. -/
def Work.onPart {ε τ : Type} (get : ε → τ) (put : τ → ε → ε) (w : Work τ) : Work ε :=
  fun state a env => do
    let part ← w state a (get env)
    return put part env

namespace Store

variable {ε : Type}

/-- The innermost handler: the reducer. -/
def reduce : Handler ε := fun a s => do
  let state ← s.state.apply a
  return { s with state }

/-- A handler with middleware around it, the first of the list outermost. -/
def through (ms : List (Middleware ε)) : Handler ε :=
  ms.foldr (fun m next => m next) reduce

/-- Give an action to a store with middleware. -/
def dispatch (ms : List (Middleware ε)) (a : BrowserAction) (s : Store ε) : Logged (Store ε) := do
  Logged.log .trace "Dispatching action" []
  through ms a s

end Store

end BrowserTelemetry
