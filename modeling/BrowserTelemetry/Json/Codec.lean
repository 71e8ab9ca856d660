import BrowserTelemetry.Json.Issue
import BrowserTelemetry.Json.Reader
import BrowserTelemetry.Json.Printer

/-!
# Codecs

A codec says how the values of a type are written as JSON and how they are read. The reading half
walks a document in the order of the text, so of several things that are wrong the first one is
reported.

Where a document comes from matters in a few places: a text is read as far as it is sound, while
something that already stands in memory is known to be sound and known in full (`Source`).
-/

namespace BrowserTelemetry

set_option autoImplicit false

/-- Where a document comes from. -/
inductive Source where
  /-- A text, inside `level` arrays and objects. -/
  | text (level : Nat)
  /-- A value in memory. -/
  | tree
  /-- A part of a text or value that was put aside until it was known how to read it. -/
  | buffer
  deriving Repr, DecidableEq, Inhabited

namespace Source

/-- The source of what stands inside an array or object. -/
def inner : Source → Source
  | .text level => .text (level + 1)
  | s => s

/-- Arrays and objects can stand this deep inside one another when they are put aside. -/
def deepest : Nat := 127

end Source

/-- What reads a value of type `α` from a document. -/
abbrev Decoder (α : Type) : Type := Source → Document → Except Issue α

/-- How values of type `α` are written and read. -/
structure Codec (α : Type) where
  encode : α → Json
  decode : Decoder α

namespace Document

/-- A document that is of the wrong kind: what it is instead, or the fault in it. -/
def unexpected : Document → Issue
  | .null => .content (.wrongType .null)
  | .bool b => .content (.wrongType (.bool b))
  | .number (.integer i) => .content (.wrongType (.integer i))
  | .number (.real negative x) => .content (.wrongType (.real negative x))
  | .number .tooLarge => .form .malformed
  | .string s => .content (.wrongType (.string s))
  | .unpaired => .form .malformed
  | .array _ _ => .content (.wrongType .sequence)
  | .object _ _ => .content (.wrongType .map)
  | .missing => .form .unfinished
  | .unclosed b | .broken b => .form b.read

/-- Pass over a document. -/
def skip (d : Document) : Except Issue Unit :=
  match d.skipFault? with
  | none => .ok ()
  | some f => .error (.form f)

/-- Put a document aside. Only a text can have faults or be too deep. -/
def putAside (src : Source) (d : Document) : Except Issue Unit :=
  match src with
  | .text level =>
    match d.readFault? (Source.deepest - level) with
    | none => .ok ()
    | some f => .error (.form f)
  | .tree | .buffer => .ok ()

end Document

/-- The end of an array or object: sound, or the fault in its place. -/
def atEnd (cut : Option Break) : Except Issue Unit :=
  match cut with
  | none => .ok ()
  | some b => .error (.form b.read)

namespace Codec

/-! ## Plain values -/

/-- A text. -/
def string : Codec String where
  encode := .string
  decode
    | _, .string s => .ok s
    | _, d => .error d.unexpected

/-- A truth value. -/
def bool : Codec Bool where
  encode := .bool
  decode
    | _, .bool b => .ok b
    | _, d => .error d.unexpected

/-- A 64-bit whole number with a sign. -/
def int64 : Codec Int64 where
  encode n := .int n.toInt
  decode
    | _, .number (.integer i) =>
      if Int64.minValue.toInt ≤ i ∧ i ≤ Int64.maxValue.toInt then .ok (Int64.ofInt i)
      else .error (.content (.wrongValue (.integer i)))
    | _, d => .error d.unexpected

/-- A 64-bit whole number without a sign. -/
def count : Codec Nat where
  encode n := .int n
  decode
    | _, .number (.integer i) =>
      if 0 ≤ i ∧ i < UInt64.size then .ok i.toNat
      else .error (.content (.wrongValue (.integer i)))
    | _, d => .error d.unexpected

/-- A text of a certain form. -/
def form {α : Type} (print : α → String) (parse : String → Option α) : Codec α where
  encode a := .string (print a)
  decode
    | _, .string s =>
      match parse s with
      | some a => .ok a
      | none => .error (.content .unreadable)
    | _, d => .error d.unexpected

/-! ## Options and lists -/

/-- A value or null. -/
def option {α : Type} (c : Codec α) : Codec (Option α) where
  encode := Json.ofOption c.encode
  decode
    | _, .null => .ok none
    | src, d => (c.decode src d).map some

/-- A list, as an array. -/
def list {α : Type} (c : Codec α) : Codec (List α) where
  encode l := .array (l.map c.encode)
  decode
    | src, .array items cut => do
      let l ← items.mapM (c.decode src.inner)
      atEnd cut
      return l
    | _, d => .error d.unexpected

/-! ## Whole texts -/

/-- The text of a value. -/
def write {α : Type} (c : Codec α) (a : α) : String := (c.encode a).render

/-- Read a value from a text that holds nothing else. -/
def read {α : Type} (c : Codec α) (text : String) : Except Issue α := do
  let (root, trailing) := Document.read text
  let a ← c.decode (.text 0) root
  if trailing then .error (.form .malformed) else .ok a

end Codec

end BrowserTelemetry
