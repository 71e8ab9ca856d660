import BrowserTelemetry.Number.Binary64
import BrowserTelemetry.Json.Basic

/-!
# Documents: a JSON text as far as it goes

A faulty text has a sound part before the fault, and a value that is wrong in the sound part is
reported before the fault is. So a text is read into a tree that has its faults as leaves: whoever
walks the tree in order meets the first mistake first, whether it is one of form or one of content.

A fault may depend on how the text is used where it stands. A value of a member nobody knows is
skipped, not read, and skipping is laxer in places (a string may hold half a surrogate pair) and
reports differently in others (a number cut off by the end of the text). `Break` holds both.
-/

namespace BrowserTelemetry

set_option autoImplicit false

/-- What is wrong with the form of a text. -/
inductive Fault where
  /-- A character that cannot stand where it does. -/
  | malformed
  /-- The text ends too early. -/
  | unfinished
  deriving Repr, DecidableEq, Inhabited

/-- The fault at a place, when the text there is read and when it is skipped. -/
structure Break where
  read : Fault
  skip : Fault
  deriving Repr, DecidableEq, Inhabited

namespace Break

/-- The same fault either way. -/
def both (f : Fault) : Break := ⟨f, f⟩

end Break

/-- A number as it was written. -/
inductive Number where
  /-- A whole number of at most 64 bits. -/
  | integer (i : Int)
  /-- Any other: one with a point or an exponent, minus zero, a whole number of more bits. -/
  | real (negative : Bool) (magnitude : Binary64)
  /-- Beyond the largest double. -/
  | tooLarge
  deriving Repr, DecidableEq, Inhabited

/-- A JSON text as a tree, with its faults. -/
inductive Document where
  | null
  | bool (b : Bool)
  | number (n : Number)
  | string (s : String)
  /-- A string that holds half of a surrogate pair: it has no text, but it can be skipped. -/
  | unpaired
  /-- An array. `cut` is the fault that stands where a comma or the closing bracket should. -/
  | array (items : List Document) (cut : Option Break)
  /-- An object. A key without text holds half of a surrogate pair. `cut` is the fault that stands
      where a comma, a key or the closing brace should. -/
  | object (entries : List (Option String × Document)) (cut : Option Break)
  /-- The text ends where a value should stand. -/
  | missing
  /-- A string that does not end as it should. -/
  | unclosed (b : Break)
  /-- Anything else that is no value. -/
  | broken (b : Break)
  deriving Repr, Inhabited

namespace Document

mutual

/-- The first fault met when the document is skipped. -/
def skipFault? : Document → Option Fault
  | .null | .bool _ | .number _ | .string _ | .unpaired => none
  | .array items cut => (skipItems? items).or (cut.map Break.skip)
  | .object entries cut => (skipEntries? entries).or (cut.map Break.skip)
  | .missing => some .unfinished
  | .unclosed b | .broken b => some b.skip

/-- The first fault met in a list of items. -/
def skipItems? : List Document → Option Fault
  | [] => none
  | d :: rest => d.skipFault?.or (skipItems? rest)

/-- The first fault met in the entries of an object; keys are skipped too. -/
def skipEntries? : List (Option String × Document) → Option Fault
  | [] => none
  | (_, d) :: rest => d.skipFault?.or (skipEntries? rest)

end

mutual

/-- The first fault met when the whole document is read into memory, with room for `room` more
    arrays and objects inside one another. -/
def readFault? (room : Nat) : Document → Option Fault
  | .null | .bool _ | .string _ => none
  | .number .tooLarge => some .malformed
  | .number _ => none
  | .unpaired => some .malformed
  | .array items cut =>
    match room with
    | 0 => some .malformed
    | room + 1 => (readItems? room items).or (cut.map Break.read)
  | .object entries cut =>
    match room with
    | 0 => some .malformed
    | room + 1 => (readEntries? room entries).or (cut.map Break.read)
  | .missing => some .unfinished
  | .unclosed b | .broken b => some b.read

/-- The first fault met in a list of items. -/
def readItems? (room : Nat) : List Document → Option Fault
  | [] => none
  | d :: rest => (d.readFault? room).or (readItems? room rest)

/-- The first fault met in the entries of an object. -/
def readEntries? (room : Nat) : List (Option String × Document) → Option Fault
  | [] => none
  | (none, _) :: _ => some .malformed
  | (some _, d) :: rest => (d.readFault? room).or (readEntries? room rest)

end

end Document

mutual

/-- The document of a value: a tree without faults. -/
def Json.toDocument : Json → Document
  | .null => .null
  | .bool b => .bool b
  | .int i => .number (.integer i)
  | .string s => .string s
  | .array items => .array (toDocuments items) none
  | .object members => .object (toEntries members) none

/-- The documents of a list of values. -/
def Json.toDocuments : List Json → List Document
  | [] => []
  | j :: rest => j.toDocument :: toDocuments rest

/-- The entries of a list of members. -/
def Json.toEntries : List (String × Json) → List (Option String × Document)
  | [] => []
  | (k, j) :: rest => (some k, j.toDocument) :: toEntries rest

end

end BrowserTelemetry
