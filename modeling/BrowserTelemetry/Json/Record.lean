import BrowserTelemetry.Json.Codec

/-!
# Records

A record is written as an object with its fields in a fixed order. It is read from an object with
the fields in any order, members nobody knows being passed over, or from an array that holds the
fields in their fixed order.

The fields are described once (`Fields`), and both halves of the codec come from that description.
-/

namespace BrowserTelemetry

set_option autoImplicit false

/-- The fields of a record: `γ` is the type of their values, `δ` that of the values found so far.
    A field with a value for its absence may be left out of an object. -/
inductive Fields : Type → Type → Type 1 where
  | none : Fields Unit Unit
  | field {α γ δ : Type} (name : String) (codec : Codec α) (absent : Option α) (rest : Fields γ δ) :
      Fields (α × γ) (Option α × δ)

namespace Fields

/-- A field that has to be there. -/
def need {α γ δ : Type} (name : String) (codec : Codec α) (rest : Fields γ δ) :
    Fields (α × γ) (Option α × δ) := .field name codec .none rest

/-- A field that may be left out, which says the same as null. -/
def allow {α γ δ : Type} (name : String) (codec : Codec α) (rest : Fields γ δ) :
    Fields (Option α × γ) (Option (Option α) × δ) :=
  .field name codec.option (some Option.none) rest

/-- The names of the fields, in order. -/
def names {γ δ : Type} : Fields γ δ → List String
  | .none => []
  | .field name _ _ rest => name :: rest.names

/-- The members of the object that holds the values. -/
def encode {γ δ : Type} : Fields γ δ → γ → List (String × Json)
  | .none, _ => []
  | .field name codec _ rest, (a, more) => (name, codec.encode a) :: rest.encode more

/-- Nothing found yet. -/
def blank {γ δ : Type} : Fields γ δ → δ
  | .none => ()
  | .field _ _ _ rest => (Option.none, rest.blank)

/-- One more member. A second one of the same name is a mistake, whatever its value. -/
def fill {γ δ : Type} (src : Source) : Fields γ δ → δ → String → Document → Except Issue δ
  | .none, found, _, d => do
    d.skip
    return found
  | .field name codec _ rest, (slot, more), key, d =>
    if key = name then
      match slot with
      | some _ => .error (.content (.duplicateField name))
      | Option.none => do
        let a ← codec.decode src d
        return (some a, more)
    else do
      let more ← rest.fill src more key d
      return (slot, more)

/-- All members in order. A key without text cannot be read. -/
def fillAll {γ δ : Type} (fs : Fields γ δ) (src : Source) (found : δ)
    (entries : List (Option String × Document)) : Except Issue δ :=
  entries.foldlM (fun found (key?, d) =>
    match key? with
    | Option.none => .error (.form .malformed)
    | some key => fs.fill src found key d) found

/-- The values, once nothing more comes. `absence` says what to make of a field that was not
    found. -/
def finish {γ δ : Type} (absence : {α : Type} → String → Option α → Except Issue α) :
    Fields γ δ → δ → Except Issue γ
  | .none, _ => .ok ()
  | .field name _ absent rest, (slot, more) => do
    let a ←
      match slot with
      | some a => .ok a
      | Option.none => absence name absent
    let as ← rest.finish absence more
    return (a, as)

/-- A field missing from an object. -/
def absentMember {α : Type} (name : String) : Option α → Except Issue α
  | some a => .ok a
  | Option.none => .error (.content (.missingField name))

/-- A field missing from an array of `count` items. -/
def absentItem {α : Type} (count : Nat) (_ : String) (_ : Option α) : Except Issue α :=
  .error (.content (.invalidLength count))

/-- What an array longer than the record is. -/
def tooLong (src : Source) (count : Nat) : Issue :=
  match src with
  | .text _ => .form .malformed
  | .tree | .buffer => .content (.invalidLength count)

/-- Read the fields from an object or an array. `lenient`: a field may be missing from an array as
    well. -/
def decode {γ δ : Type} (fs : Fields γ δ) (lenient : Bool) : Decoder γ
  | src, .object entries cut => do
    let found ← fs.fillAll src.inner fs.blank entries
    atEnd cut
    fs.finish absentMember found
  | src, .array items cut => do
    let found ← fs.fillAll src.inner fs.blank ((fs.names.map some).zip items)
    if fs.names.length < items.length then throw (tooLong src items.length)
    atEnd cut
    fs.finish (if lenient then absentMember else absentItem items.length) found
  | _, d => .error d.unexpected

end Fields

namespace Codec

/-- A record with the given fields. -/
def record {α γ δ : Type} (fs : Fields γ δ) (parts : α → γ) (make : γ → α) : Codec α where
  encode a := .object (fs.encode (parts a))
  decode src d := (fs.decode false src d).map make

end Codec

end BrowserTelemetry
