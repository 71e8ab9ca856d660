import BrowserTelemetry.Json.Codec
import BrowserTelemetry.Log
import BrowserTelemetry.SortedMap

/-!
# The database

Three tables: settings by key, ad clicks by provider, and the version of the schema. Any of them may
be missing, and then every access to it fails. A table may hold values of a storage class that its
readers do not take: such a value is kept as it is, and reading it fails.

Operations are functions from the database to a result and, where they write, to the database after
it. One that fails leaves the database as it was.
-/

namespace BrowserTelemetry

set_option autoImplicit false

/-- Why the storage refused. -/
inductive StorageError where
  /-- The database failed: a table or column is missing, or a value has another storage class. -/
  | database
  /-- A stored text is not the JSON that it should be. -/
  | json (issue : Issue)
  deriving DecidableEq, Repr, Inhabited

/-- The value of a setting. -/
inductive StoredValue where
  | text (s : String)
  /-- Bytes; they cannot be read as a text. -/
  | blob
  deriving DecidableEq, Repr, Inhabited

/-- The number of ad clicks of a provider, as clicks and `putAdClicks` leave it. Texts, bytes and
    smaller real numbers are left out: only others could have put them there, and a click may make a
    whole number of them. -/
inductive StoredCount where
  | integer (n : Int64)
  /-- A number that outgrew 64 bits; it can no longer be read. -/
  | real
  deriving DecidableEq, Repr, Inhabited

/-- One more than a stored number. -/
def StoredCount.next : StoredCount → StoredCount
  | .integer n => if n = Int64.maxValue then .real else .integer (n + 1)
  | .real => .real

/-- A row of the version table. -/
inductive StoredVersion where
  | integer (n : Int64)
  /-- A value that is neither a whole number of 64 bits nor a text: a real number, for one. -/
  | real
  | text (s : String)
  deriving DecidableEq, Repr, Inhabited

/-- The version table. -/
inductive VersionTable where
  | rows (versions : List StoredVersion)
  /-- A table of that name without a column for the version. -/
  | odd
  deriving DecidableEq, Repr, Inhabited

/-- The contents of a database; `none` stands for a missing table. -/
structure Database where
  settings : Option (SortedMap String StoredValue)
  adClicks : Option (SortedMap String StoredCount)
  versions : Option VersionTable
  deriving DecidableEq, Inhabited

/-- The names of the tables. -/
inductive TableName where
  | settings
  | adClicks
  | versions
  deriving DecidableEq, Repr, Inhabited

namespace Database

/-- No tables at all. -/
def blank : Database := ⟨none, none, none⟩

/-! ## Settings -/

/-- The text of a setting, if it is there. -/
def getSetting (db : Database) (key : String) : Except StorageError (Option String) :=
  match db.settings with
  | none => .error .database
  | some table =>
    match table.get? key with
    | none => .ok none
    | some (.text s) => .ok (some s)
    | some .blob => .error .database

/-- Store any value as a setting. -/
def putSetting (db : Database) (key : String) (value : StoredValue) :
    Except StorageError Database :=
  match db.settings with
  | none => .error .database
  | some table => .ok { db with settings := some (table.insert key value) }

/-- Store a text as a setting. -/
def setSetting (db : Database) (key text : String) : Except StorageError Database :=
  db.putSetting key (.text text)

/-- A setting that holds JSON. -/
def getJson {α : Type} (db : Database) (c : Codec α) (key : String) :
    Except StorageError (Option α) := do
  match ← db.getSetting key with
  | none => return none
  | some text =>
    match c.read text with
    | .ok a => return some a
    | .error issue => throw (.json issue)

/-- Store a value as JSON. -/
def setJson {α : Type} (db : Database) (c : Codec α) (key : String) (a : α) :
    Except StorageError Database :=
  db.setSetting key (c.write a)

/-! ## Ad clicks -/

/-- The number of ad clicks of a provider. One that was never clicked has none, and a negative
    number counts as none. -/
def adClicksOf (db : Database) (provider : String) : Except StorageError Nat :=
  match db.adClicks with
  | none => .error .database
  | some table =>
    match table.get? provider with
    | none => .ok 0
    | some (.integer n) => .ok n.toInt.toNat
    | some .real => .error .database

/-- Set the number of ad clicks of a provider. -/
def putAdClicks (db : Database) (provider : String) (n : Int64) : Except StorageError Database :=
  match db.adClicks with
  | none => .error .database
  | some table => .ok { db with adClicks := some (table.insert provider (.integer n)) }

/-- One more ad click of a provider. -/
def recordAdClick (db : Database) (provider : String) : Except StorageError Database :=
  match db.adClicks with
  | none => .error .database
  | some table =>
    let count :=
      match table.get? provider with
      | none => .integer 1
      | some n => n.next
    .ok { db with adClicks := some (table.insert provider count) }

/-! ## Tables -/

/-- Remove a table. -/
def dropTable (db : Database) (name : TableName) : Except StorageError Database :=
  match name with
  | .settings => if db.settings.isSome then .ok { db with settings := none } else .error .database
  | .adClicks => if db.adClicks.isSome then .ok { db with adClicks := none } else .error .database
  | .versions => if db.versions.isSome then .ok { db with versions := none } else .error .database

/-- Replace the rows of the version table. -/
def putVersions (db : Database) (versions : List StoredVersion) : Except StorageError Database :=
  match db.versions with
  | none => .error .database
  | some .odd => if versions.isEmpty then .ok db else .error .database
  | some (.rows _) => .ok { db with versions := some (.rows versions) }

end Database

end BrowserTelemetry
