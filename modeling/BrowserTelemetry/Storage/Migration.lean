import BrowserTelemetry.Storage.Database

/-!
# Migration

Opening a database brings its schema up to date. The first row of the version table says how far it
is; below 1 the two tables of data are made where they are missing. In the end the version table
holds the single row 1.

This takes several statements, and there is no transaction around them: when one fails, what those
before it have changed stays changed. So a script gives the database that it leaves behind whether
it fails or not.
-/

namespace BrowserTelemetry

set_option autoImplicit false

namespace Database

/-! ## Statements -/

/-- What a query for the first version finds. -/
inductive VersionQuery where
  | noTable
  /-- There is a table, but it has no column for the version. -/
  | noColumn
  | noRow
  | row (v : StoredVersion)
  deriving DecidableEq, Repr, Inhabited

/-- Ask for the version in the first row. -/
def queryVersion (db : Database) : VersionQuery :=
  match db.versions with
  | none => .noTable
  | some .odd => .noColumn
  | some (.rows []) => .noRow
  | some (.rows (v :: _)) => .row v

/-- Make the version table if it is missing. -/
def createVersions (db : Database) : Database :=
  { db with versions := some (db.versions.getD (.rows [])) }

/-- Make the table of settings if it is missing. -/
def createSettings (db : Database) : Database :=
  { db with settings := some (db.settings.getD .empty) }

/-- Make the table of ad clicks if it is missing. -/
def createAdClicks (db : Database) : Database :=
  { db with adClicks := some (db.adClicks.getD .empty) }

/-- One more row in the version table. -/
def insertVersion (version : Int64) (db : Database) : Except StorageError Database :=
  match db.versions with
  | none | some .odd => .error .database
  | some (.rows vs) => .ok { db with versions := some (.rows (vs ++ [.integer version])) }

/-- Remove all rows of the version table. -/
def deleteVersions (db : Database) : Except StorageError Database :=
  match db.versions with
  | none => .error .database
  | some .odd => .ok db
  | some (.rows _) => .ok { db with versions := some (.rows []) }

/-! ## The script -/

/-- Statements, one after the other, with the log. The first that fails ends the script, and the
    database stays as those before it have left it. -/
abbrev Script : Type → Type := ExceptT StorageError (StateT Database Logged)

/-- A statement that may fail. One that does changes nothing. -/
def Script.statement (f : Database → Except StorageError Database) : Script Unit := do
  match f (← get) with
  | .ok db => set db
  | .error e => throw e

/-- The version that a stored value stands for: a 32-bit integer. -/
def versionOf? : StoredVersion → Option Int
  | .integer n =>
    if Int32.minValue.toInt ≤ n.toInt ∧ n.toInt ≤ Int32.maxValue.toInt then some n.toInt else none
  | .real | .text _ => none

/-- The version of the schema. Without a row it is 0; a missing table is made, with a row 0. -/
def schemaVersion : Script Int := do
  match (← get).queryVersion with
  | .row v =>
    match versionOf? v with
    | some version => return version
    | none => throw .database
  | .noRow => return 0
  | .noTable =>
    modify createVersions
    .statement (insertVersion 0)
    return 0
  | .noColumn => throw .database

/-- Bring the schema to version 1: the two tables of data. -/
def createTables : Script Unit := do
  Logged.log .info "Running migration v1: Initial schema" []
  modify createSettings
  modify createAdClicks

/-- Make a version the only row of the version table. -/
def setVersion (version : Int64) : Script Unit := do
  .statement deleteVersions
  .statement (insertVersion version)

/-- Bring the schema up to date. -/
def migration : Script Unit := do
  let version ← schemaVersion
  if version < 1 then createTables
  setVersion 1

/-- Bring the schema of a database up to date: whether that went well, and the database after it. -/
def migrate (db : Database) : Logged (Except StorageError Unit × Database) := migration.run.run db

/-- Open a database: bring its schema up to date, with the log. -/
def open? (db : Database) : Logged (Except StorageError Database) := do
  let (outcome, db) ← db.migrate
  return outcome.map fun _ => db

/-- A new database. -/
def fresh : Database := ⟨some .empty, some .empty, some (.rows [.integer 1])⟩

/-- A new database is an empty one that has been opened. -/
theorem open?_blank : blank.open?.value = .ok fresh := rfl

end Database

end BrowserTelemetry
