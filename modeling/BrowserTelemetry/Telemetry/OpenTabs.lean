import BrowserTelemetry.Storage.Database

/-!
# The stored number of open tabs

A setting behind a cache: once the number is known it is read from the cache, and it is written to
the database first and to the cache after that. All handles on one setting share its cache.
-/

namespace BrowserTelemetry

set_option autoImplicit false

/-- Why the number of open tabs cannot be told. -/
inductive SettingError where
  | storage (e : StorageError)
  /-- The stored text is no number. -/
  | invalid (key value : String)
  deriving DecidableEq, Repr, Inhabited

/-- The error in words, where it has any. -/
def SettingError.message? : SettingError → Option String
  | .storage _ => none
  | .invalid key value => some ("Invalid setting " ++ key ++ ": " ++ value)

/-- The cache of the number of open tabs. -/
structure OpenTabs where
  cached : Option Nat
  deriving DecidableEq, Repr, Inhabited

namespace OpenTabs

/-- The key of the setting. -/
def key : String := "open_tabs_count"

/-- Nothing known yet. -/
def unknown : OpenTabs := ⟨none⟩

/-- The value of digits, at least one and nothing else. -/
def digits? (cs : List Char) : Option Nat :=
  if cs.isEmpty ∨ !(cs.all Char.isDigit) then none
  else some (cs.foldl (fun n c => n * 10 + (c.toNat - 48)) 0)

/-- The number that a text spells: digits, perhaps after a plus sign, of a value of at most 64
    bits. -/
def parse (text : String) : Option Nat :=
  let ds :=
    match text.toList with
    | '+' :: rest => rest
    | cs => cs
  (digits? ds).filter fun n => n < UInt64.size

/-- The text of a number. -/
def print (n : Nat) : String := String.ofList (Nat.toDigits 10 n)

/-- The number in the database; without one it is 0. -/
def stored (db : Database) : Except SettingError Nat :=
  match db.getSetting key with
  | .error e => .error (.storage e)
  | .ok none => .ok 0
  | .ok (some text) =>
    match parse text with
    | some n => .ok n
    | none => .error (.invalid key text)

/-- The number, and the cache after looking. -/
def read (t : OpenTabs) (db : Database) : Except SettingError Nat × OpenTabs :=
  match t.cached with
  | some n => (.ok n, t)
  | none =>
    match stored db with
    | .ok n => (.ok n, ⟨some n⟩)
    | .error e => (.error e, t)

/-- Set the number. -/
def write (db : Database) (n : Nat) : Except StorageError (OpenTabs × Database) :=
  match db.setSetting key (print n) with
  | .ok db => .ok (⟨some n⟩, db)
  | .error e => .error e

end OpenTabs

end BrowserTelemetry
