import BrowserTelemetry.Json.Record

/-!
# Tagged records

A choice among records: an object that holds, beside the fields of the record, a tag that names it.
The tag may stand anywhere among the members, so the other members are put aside until it is known.
An array is read as well, with the tag first and the fields after it.
-/

namespace BrowserTelemetry

set_option autoImplicit false

/-- One of several records to choose from. `payload` reads what stands beside the tag. -/
structure Variant (α : Type) where
  name : String
  payload : Document → Except Issue α

namespace Variant

variable {α γ δ : Type}

/-- A record with the given fields. -/
def record (name : String) (fs : Fields γ δ) (make : γ → α) : Variant α :=
  ⟨name, fun d => (fs.decode false .buffer d).map make⟩

/-- Nothing beside the tag. Members nobody knows are passed over, items are not. -/
def unit (name : String) (a : α) : Variant α :=
  ⟨name, fun
    | .array items _ =>
      if items.isEmpty then .ok a else .error (.content (.invalidLength items.length))
    | _ => .ok a⟩

/-- The variant that a tag names. A tag that was put aside may also be the position of the
    variant. -/
def choose (vs : List (Variant α)) : Decoder (Variant α)
  | _, .string s =>
    match vs.find? fun v => v.name = s with
    | some v => .ok v
    | none => .error (.content (.unknownVariant s (vs.map Variant.name)))
  | .buffer, .number (.integer i) =>
    if i < 0 then .error (.content (.wrongType (.integer i)))
    else
      match vs[i.toNat]? with
      | some v => .ok v
      | none => .error (.content (.wrongValue (.integer i)))
  | _, d => .error d.unexpected

end Variant

/-- What has been found of a tagged record: the variant, and the members put aside, the latest
    first. -/
structure Gathered (α : Type) where
  variant : Option (Variant α)
  aside : List (Option String × Document)

namespace Gathered

variable {α : Type}

/-- Nothing found yet. -/
def start : Gathered α := ⟨none, []⟩

/-- One more member. -/
def add (tag : String) (vs : List (Variant α)) (src : Source) (g : Gathered α)
    (entry : Option String × Document) : Except Issue (Gathered α) :=
  match entry with
  | (none, _) => .error (.form .malformed)
  | (some key, d) =>
    if key = tag then
      match g.variant with
      | some _ => .error (.content (.duplicateField tag))
      | none => do
        let v ← Variant.choose vs src d
        return { g with variant := some v }
    else do
      d.putAside src
      return { g with aside := (some key, d) :: g.aside }

end Gathered

/-- Read a tagged record. -/
def decodeTagged {α : Type} (tag : String) (vs : List (Variant α)) : Decoder α
  | src, .object entries cut => do
    let g ← entries.foldlM (Gathered.add tag vs src.inner) .start
    atEnd cut
    match g.variant with
    | none => throw (.content (.missingField tag))
    | some v => v.payload (.object g.aside.reverse none)
  | _, .array [] cut => do
    atEnd cut
    throw (.content (.missingField tag))
  | src, .array (first :: rest) cut => do
    let v ← Variant.choose vs src.inner first
    rest.forM (Document.putAside src.inner)
    atEnd cut
    v.payload (.array rest none)
  | _, d => .error d.unexpected

/-- A choice among records with a tag. `write` gives the name and the members of a value. -/
def Codec.tagged {α : Type} (tag : String) (write : α → String × List (String × Json))
    (vs : List (Variant α)) : Codec α where
  encode a := .object ((tag, .string (write a).1) :: (write a).2)
  decode := decodeTagged tag vs

end BrowserTelemetry
