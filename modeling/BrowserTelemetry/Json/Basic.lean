/-!
# JSON values

The values this library writes. They hold no fractions: every number of the domain is a whole one,
so a fraction is only ever met while reading (`Json/Document.lean`), where it is a mistake to be
reported.

An object is a list of members, not a map: the order of the members is part of what is written.
-/

namespace BrowserTelemetry

set_option autoImplicit false

/-- A JSON value as it is written. -/
inductive Json where
  | null
  | bool (b : Bool)
  | int (i : Int)
  | string (s : String)
  | array (items : List Json)
  | object (members : List (String × Json))
  deriving Repr, Inhabited

namespace Json

/-- An optional value: null stands for none. -/
def ofOption {α : Type} (f : α → Json) : Option α → Json
  | none => .null
  | some a => f a

/-- A list of texts. -/
def strings (l : List String) : Json := .array (l.map .string)

mutual

/-- How many arrays and objects stand inside one another at the deepest place. -/
def depth : Json → Nat
  | .null | .bool _ | .int _ | .string _ => 0
  | .array items => depthItems items + 1
  | .object members => depthMembers members + 1

/-- The depth of the deepest item. -/
def depthItems : List Json → Nat
  | [] => 0
  | j :: rest => max j.depth (depthItems rest)

/-- The depth of the deepest member. -/
def depthMembers : List (String × Json) → Nat
  | [] => 0
  | (_, j) :: rest => max j.depth (depthMembers rest)

end

end Json

end BrowserTelemetry
