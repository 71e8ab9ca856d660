import BrowserTelemetry.Json.Name
import BrowserTelemetry.SortedMap

/-!
# Maps

A sorted map is an object with a member for each binding. Of several members with one key the last
counts.
-/

namespace BrowserTelemetry

set_option autoImplicit false

/-- How keys are written as the keys of members. -/
structure KeyForm (κ : Type) where
  print : κ → String
  parse : String → Except Issue κ

/-- Texts are keys as they are. -/
def KeyForm.text : KeyForm String := ⟨id, .ok⟩

/-- Keys that have names. -/
def KeyForm.named {κ : Type} [Named κ] : KeyForm κ := ⟨Named.name, Named.byName⟩

namespace Codec

variable {κ α : Type} [LT κ] [DecidableLT κ] [KeyOrder κ]

/-- One more member. -/
def bindEntry (key : KeyForm κ) (c : Codec α) (src : Source) (m : SortedMap κ α)
    (entry : Option String × Document) : Except Issue (SortedMap κ α) :=
  match entry with
  | (none, _) => .error (.form .malformed)
  | (some k, d) => do
    let k ← key.parse k
    let a ← c.decode src d
    return m.insert k a

/-- A sorted map. -/
def map (key : KeyForm κ) (c : Codec α) : Codec (SortedMap κ α) where
  encode m := .object (m.entries.map fun e => (key.print e.1, c.encode e.2))
  decode
    | src, .object entries cut => do
      let m ← entries.foldlM (bindEntry key c src.inner) .empty
      atEnd cut
      return m
    | _, d => .error d.unexpected

end Codec

end BrowserTelemetry
