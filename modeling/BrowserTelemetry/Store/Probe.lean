import BrowserTelemetry.Store.Middleware

/-!
# Probes

A probe is middleware that notes what it sees. Unlike telemetry it need not let the action through
once and unchanged, so it shows what a chain does with middleware that misbehaves.
-/

namespace BrowserTelemetry

set_option autoImplicit false

/-- A probe: how often it calls the rest of the chain, and with which action if not the one it was
    given. -/
structure Probe where
  name : String
  calls : Nat
  swap : Option BrowserAction

namespace Probe

/-- What is noted of a state. -/
def note (p : Probe) (place : String) (s : BrowserState) : String :=
  ":".intercalate [p.name, place, toString s.tabs.length, s.selected.getD "-"]

/-- A handler some number of times in a row. -/
def repeated {ε : Type} (next : Handler ε) : Nat → Handler ε
  | 0, _, s => return s
  | n + 1, a, s => do
    let s ← next a s
    repeated next n a s

/-- The middleware; `take` takes a note. -/
def middleware {ε : Type} (p : Probe) (take : String → ε → ε) : Middleware ε := fun next a s => do
  let s := { s with env := take (p.note "pre" s.state) s.env }
  let s ← repeated next p.calls (p.swap.getD a) s
  return { s with env := take (p.note "post" s.state) s.env }

end Probe

end BrowserTelemetry
