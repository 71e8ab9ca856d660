import BrowserTelemetry.Json.Codec

/-!
# Names

A choice among a fixed list of names. It is written as its name, and read from its name or from an
object whose only member is called by the name and is null.
-/

namespace BrowserTelemetry

set_option autoImplicit false

/-- A type whose values have names, listed in the order in which messages list them. -/
class Named (α : Type) where
  all : List α
  name : α → String

namespace Named

/-- The value with a name. -/
def byName? {α : Type} [Named α] (s : String) : Option α := all.find? fun a => name a = s

/-- The value with a name, or the mistake. -/
def byName {α : Type} [Named α] (s : String) : Except Issue α :=
  match byName? s with
  | some a => .ok a
  | none => .error (.content (.unknownVariant s ((all : List α).map name)))

end Named

/-- Nothing, spelled as null. -/
def readNull (d : Document) : Except Issue Unit :=
  match d with
  | .null => .ok ()
  | d => .error d.unexpected

/-- What a text holds where a name should stand, if it is not even of the right kind. -/
def Document.noName : Document → Issue
  | .missing => .form .unfinished
  | .unclosed b => .form b.read
  | _ => .form .malformed

/-- A name from an object in a text: nothing may follow its first member. -/
def namedByMember {α : Type} [Named α] (entries : List (Option String × Document))
    (cut : Option Break) : Except Issue α :=
  match entries, cut with
  | [], none => .error (.form .malformed)
  | [], some b => .error (.form b.read)
  | (none, _) :: _, _ => .error (.form .malformed)
  | (some key, d) :: rest, cut => do
    let a ← Named.byName key
    readNull d
    unless rest.isEmpty do throw (.form .malformed)
    atEnd cut
    return a

/-- Read a name. -/
def readName {α : Type} [Named α] : Decoder α
  | _, .string s => Named.byName s
  | .text _, .object entries cut => namedByMember entries cut
  | .text _, d => .error d.noName
  | _, .object [(some key, d)] _ => do
    let a ← Named.byName key
    readNull d
    return a
  | _, .object _ _ => .error (.content (.wrongValue .map))
  | _, d => .error d.unexpected

/-- A value by its name. -/
def Codec.named {α : Type} [Named α] : Codec α where
  encode a := .string (Named.name a)
  decode := readName

end BrowserTelemetry
