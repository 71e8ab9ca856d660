import BrowserTelemetry.Json.Document
import BrowserTelemetry.SortedMap

/-!
# Values in memory

A JSON value that has been taken into memory as a whole keeps the members of an object as a map:
their order is that of their keys, and of several members with one key the last is left.
-/

namespace BrowserTelemetry

set_option autoImplicit false

namespace Document

mutual

/-- The document as it stands in memory. -/
def settle : Document → Document
  | .array items cut => .array (settleItems items) cut
  | .object entries cut =>
    .object ((SortedMap.ofList (settleEntries entries)).entries.map fun e => (some e.1, e.2)) cut
  | d => d

/-- The items of an array in memory. -/
def settleItems : List Document → List Document
  | [] => []
  | d :: rest => d.settle :: settleItems rest

/-- The members of an object in memory, those without a key left out. -/
def settleEntries : List (Option String × Document) → List (String × Document)
  | [] => []
  | (some key, d) :: rest => (key, d.settle) :: settleEntries rest
  | (none, _) :: rest => settleEntries rest

end

/-- The member of an object in memory. -/
def member? (key : String) : Document → Option Document
  | .object entries _ => (entries.find? fun e => e.1 = some key).map Prod.snd
  | _ => none

/-- The items of an array. -/
def items : Document → List Document
  | .array items _ => items
  | _ => []

end Document

end BrowserTelemetry
