import BrowserTelemetry.Json.Name

/-!
# Labelled values

A choice among values of different types: an object with two members, a label that names the type
and the content. They may stand in either order, among members nobody knows. A content that comes
first is put aside until the label is known. An array of the label and the content is read as well.
-/

namespace BrowserTelemetry

set_option autoImplicit false

/-- One of several types of content. -/
structure Kind (α : Type) where
  content : Decoder α
  /-- What it means that there is no content, if that is allowed. -/
  absent : Option α

/-- How far the reading of a labelled object has come. -/
inductive Labelled (α : Type) where
  | nothing
  | label (k : Kind α)
  | content (d : Document)
  | whole (a : α)

/-- The names of the two members. -/
structure LabelNames where
  label : String
  content : String
  deriving Repr, DecidableEq

namespace Labelled

variable {α : Type}

/-- One more member. A second label or content is a mistake, whatever its value. -/
def add (names : LabelNames) (readKind : Decoder (Kind α)) (src : Source) (p : Labelled α)
    (entry : Option String × Document) : Except Issue (Labelled α) :=
  match entry with
  | (none, _) => .error (.form .malformed)
  | (some key, d) =>
    if key = names.label then
      match p with
      | .nothing => do
        let k ← readKind src d
        return .label k
      | .content held => do
        let k ← readKind src d
        let a ← k.content .buffer held
        return .whole a
      | .label _ | .whole _ => .error (.content (.duplicateField names.label))
    else if key = names.content then
      match p with
      | .nothing => do
        d.putAside src
        return .content d
      | .label k => do
        let a ← k.content src d
        return .whole a
      | .content _ | .whole _ => .error (.content (.duplicateField names.content))
    else do
      d.skip
      return p

/-- The value, once nothing more comes. -/
def finish (names : LabelNames) : Labelled α → Except Issue α
  | .nothing | .content _ => .error (.content (.missingField names.label))
  | .label k =>
    match k.absent with
    | some a => .ok a
    | none => .error (.content (.missingField names.content))
  | .whole a => .ok a

/-- Read a labelled value. -/
def decode (names : LabelNames) (readKind : Decoder (Kind α)) : Decoder α
  | src, .object entries cut => do
    let p ← entries.foldlM (add names readKind src.inner) .nothing
    atEnd cut
    p.finish names
  | _, .array [] cut => do
    atEnd cut
    throw (.content (.invalidLength 0))
  | src, .array [first] cut => do
    let _ ← readKind src.inner first
    atEnd cut
    throw (.content (.invalidLength 1))
  | src, .array (first :: second :: more) cut => do
    let k ← readKind src.inner first
    let a ← k.content src.inner second
    unless more.isEmpty do
      match src with
      | .text _ => throw (.form .malformed)
      | .tree | .buffer => throw (.content (.invalidLength (more.length + 2)))
    atEnd cut
    return a
  | _, d => .error d.unexpected

end Labelled

/-- A labelled value. `ι` names the kinds; `write` gives the kind of a value, and its content if it
    has one. -/
def Codec.labelled {α ι : Type} [Named ι] (names : LabelNames) (write : α → ι × Option Json)
    (kind : ι → Kind α) : Codec α where
  encode a :=
    .object ((names.label, .string (Named.name (write a).1)) ::
      (write a).2.toList.map fun j => (names.content, j))
  decode := Labelled.decode names fun src d => (readName src d).map kind

end BrowserTelemetry
