import BrowserTelemetry.Json.Document
import BrowserTelemetry.Text.Quoted

/-!
# What can be wrong with a JSON text

Either the text is no JSON (a `Fault`), or it is JSON that does not say what it should (a
`Mistake`). Every mistake has its wording here, in one function.
-/

namespace BrowserTelemetry

set_option autoImplicit false

/-- A value that was found where another kind of value is wanted. -/
inductive Found where
  | null
  | bool (b : Bool)
  | integer (i : Int)
  | real (negative : Bool) (magnitude : Binary64)
  | string (s : String)
  | sequence
  | map
  deriving Repr, DecidableEq, Inhabited

/-- The value in words. -/
def Found.describe : Found → String
  | .null => "null"
  | .bool b => "boolean `" ++ (if b then "true" else "false") ++ "`"
  | .integer i => "integer `" ++ toString i ++ "`"
  | .real negative x => "floating point `" ++ (if negative then "-" else "") ++ x.toText ++ "`"
  | .string s => "string " ++ Text.quoted s
  | .sequence => "sequence"
  | .map => "map"

/-- A mistake in the content of a sound JSON text. -/
inductive Mistake where
  | missingField (name : String)
  | duplicateField (name : String)
  /-- An array of `count` items where another number of them is wanted. -/
  | invalidLength (count : Nat)
  | unknownVariant (name : String) (known : List String)
  /-- A value of the wrong kind. -/
  | wrongType (found : Found)
  /-- A value of the right kind that is not among those wanted. -/
  | wrongValue (found : Found)
  /-- A text that is not of the form wanted. -/
  | unreadable
  deriving Repr, DecidableEq, Inhabited

/-- A name as messages quote it. -/
def tick (name : String) : String := "`" ++ name ++ "`"

/-- The names to choose from, in words. -/
def alternatives : List String → String
  | [a, b] => tick a ++ " or " ++ tick b
  | names => "one of " ++ ", ".intercalate (names.map tick)

/-- The mistake in words. What the form of a text should have been is said elsewhere. -/
def Mistake.message? : Mistake → Option String
  | .missingField name => some ("missing field " ++ tick name)
  | .duplicateField name => some ("duplicate field " ++ tick name)
  | .invalidLength count => some ("invalid length " ++ toString count)
  | .unknownVariant name known =>
    some ("unknown variant " ++ tick name ++ ", expected " ++ alternatives known)
  | .wrongType found => some ("invalid type: " ++ found.describe)
  | .wrongValue found => some ("invalid value: " ++ found.describe)
  | .unreadable => none

/-- Why a JSON text could not be read. -/
inductive Issue where
  | form (f : Fault)
  | content (m : Mistake)
  deriving Repr, DecidableEq, Inhabited

namespace Issue

/-- The word for the kind of issue. -/
def category : Issue → String
  | .form .malformed => "syntax"
  | .form .unfinished => "eof"
  | .content _ => "data"

/-- The issue in words, if its kind does not say it all. -/
def message? : Issue → Option String
  | .form _ => none
  | .content m => m.message?

end Issue

end BrowserTelemetry
