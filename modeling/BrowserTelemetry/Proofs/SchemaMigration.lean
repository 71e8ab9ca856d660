import BrowserTelemetry.Storage.Migration

/-!
# What opening does to a database

The migration runs statement by statement and without a transaction, so that it is all or nothing
has to be proved. The reason is the order of the statements: **whatever can fail comes before the
first change**. Reading the version is the only step that can refuse
(`value_schemaVersion_of_unreadable`), and where it does not, it leaves a version table with a
column for the version (`of_schemaVersion`), which is all that the later statements ask for.
-/

namespace BrowserTelemetry
namespace Database

set_option autoImplicit false

variable {db : Database}

/-! ## What can be said of a database and a later one -/

/-- A version that can be read: an integer of 32 bits. -/
def IsVersion (v : StoredVersion) : Prop :=
  ∃ n : Int64, v = .integer n ∧ Int32.minValue.toInt ≤ n.toInt ∧ n.toInt ≤ Int32.maxValue.toInt

/-- The first version is there and cannot be read, or no version has a column. -/
def Unreadable (db : Database) : Prop :=
  db.versions = some .odd ∨ ∃ v rest, db.versions = some (.rows (v :: rest)) ∧ ¬ IsVersion v

/-- The first version is below 1, or there is none. -/
def Outdated (db : Database) : Prop :=
  ∀ v rest, db.versions = some (.rows (v :: rest)) → ∃ n : Int64, v = .integer n ∧ n.toInt < 1

/-- What stands under a key of a table, which may be missing. -/
def row? {α : Type} (table : Option (SortedMap String α)) (key : String) : Option α :=
  table.bind fun rows => rows.get? key

/-- A table is still there if it was, with all its rows, and no row is new. -/
structure KeepsRows {α : Type} (table table' : Option (SortedMap String α)) : Prop where
  isSome : table.isSome = true → table'.isSome = true
  row? : ∀ key, Database.row? table' key = Database.row? table key

/-- The second database is the first one with its schema up to date. -/
structure Migrated (db db' : Database) : Prop where
  versions : db'.versions = some (.rows [.integer 1])
  settings : KeepsRows db.settings db'.settings
  adClicks : KeepsRows db.adClicks db'.adClicks
  complete : db.Outdated → db'.settings.isSome = true ∧ db'.adClicks.isSome = true

theorem KeepsRows.refl {α : Type} (table : Option (SortedMap String α)) : KeepsRows table table :=
  ⟨fun h => h, fun _ => rfl⟩

/-- A table that is made where it is missing has no rows. -/
theorem keepsRows_create {α : Type} (table : Option (SortedMap String α)) :
    KeepsRows table (some (table.getD .empty)) := by
  cases table with
  | none => exact ⟨fun _ => rfl, fun _ => rfl⟩
  | some rows => exact .refl (some rows)

/-! ## Scripts -/

namespace Script

variable {α β : Type}

theorem value_bind (x : Script α) (f : α → Script β) (db : Database) :
    ((x >>= f).run.run db).value =
      match (x.run.run db).value with
      | (.ok a, db') => ((f a).run.run db').value
      | (.error e, db') => (.error e, db') := by
  change (ExceptT.bindCont f (x.run.run db).value.1 (x.run.run db).value.2).value = _
  cases (x.run.run db).value with
  | mk outcome db' => cases outcome <;> rfl

end Script

/-! ## The version -/

theorem not_isVersion_of_forall {v : StoredVersion} (h : ∀ n, v ≠ .integer n) : ¬ IsVersion v := by
  rintro ⟨n, hn, -⟩
  exact h n hn

theorem versionOf?_eq_none_iff {v : StoredVersion} : versionOf? v = none ↔ ¬ IsVersion v := by
  cases v with
  | integer n =>
    have hversion : IsVersion (.integer n) ↔
        Int32.minValue.toInt ≤ n.toInt ∧ n.toInt ≤ Int32.maxValue.toInt := by
      constructor
      · rintro ⟨m, hm, hrange⟩
        obtain rfl := StoredVersion.integer.inj hm
        exact hrange
      · intro hrange
        exact ⟨n, rfl, hrange⟩
    rw [hversion, versionOf?]
    split <;> simp_all
  | real => exact iff_of_true rfl (not_isVersion_of_forall fun _ => nofun)
  | text s => exact iff_of_true rfl (not_isVersion_of_forall fun _ => nofun)

/-- The value of a version that is read is the number in the row. -/
theorem eq_of_versionOf? {v : StoredVersion} {version : Int} (h : versionOf? v = some version) :
    ∃ n : Int64, v = .integer n ∧ version = n.toInt := by
  cases v with
  | integer n =>
    rw [versionOf?] at h
    split at h
    · exact ⟨n, rfl, (Option.some.inj h).symm⟩
    · exact absurd h nofun
  | real => exact absurd h nofun
  | text s => exact absurd h nofun

theorem value_schemaVersion_row {v : StoredVersion} {rest : List StoredVersion}
    (h : db.versions = some (.rows (v :: rest))) :
    (schemaVersion.run.run db).value =
      match versionOf? v with
      | some version => (.ok version, db)
      | none => (.error .database, db) := by
  obtain ⟨settings, adClicks, versions⟩ := db
  obtain rfl : versions = some (.rows (v :: rest)) := h
  change ((match versionOf? v with
    | some version => return version
    | none => throw .database : Script Int).run.run _).value = _
  cases versionOf? v <;> rfl

theorem value_schemaVersion_of_unreadable (h : db.Unreadable) :
    (schemaVersion.run.run db).value = (.error .database, db) := by
  rcases h with hodd | ⟨v, rest, hrows, hv⟩
  · obtain ⟨settings, adClicks, versions⟩ := db
    obtain rfl : versions = some .odd := hodd
    rfl
  · rw [value_schemaVersion_row hrows, versionOf?_eq_none_iff.2 hv]

/-- A version that is read is that of the first row. Afterwards the version table has rows, and
    nothing else has changed. -/
theorem of_schemaVersion (h : ¬ db.Unreadable) :
    ∃ version vs, (schemaVersion.run.run db).value =
        (.ok version, { db with versions := some (.rows vs) }) ∧ (db.Outdated → version < 1) := by
  obtain ⟨settings, adClicks, versions⟩ := db
  match versions with
  | none => exact ⟨0, [.integer 0], rfl, fun _ => by decide⟩
  | some .odd => exact absurd (.inl rfl) h
  | some (.rows []) => exact ⟨0, [], rfl, fun _ => by decide⟩
  | some (.rows (v :: rest)) =>
    cases hv : versionOf? v with
    | none => exact absurd (.inr ⟨v, rest, rfl, versionOf?_eq_none_iff.1 hv⟩) h
    | some version =>
      refine ⟨version, v :: rest, ?_, fun hout => ?_⟩
      · rw [value_schemaVersion_row rfl, hv]
      · obtain ⟨n, hn, hlt⟩ := hout v rest rfl
        obtain ⟨m, hm, rfl⟩ := eq_of_versionOf? hv
        obtain rfl := StoredVersion.integer.inj (hn.symm.trans hm)
        exact hlt

/-! ## The other statements cannot fail -/

theorem value_createTables (db : Database) :
    (createTables.run.run db).value =
      (.ok (), { db with
        settings := some (db.settings.getD .empty), adClicks := some (db.adClicks.getD .empty) }) :=
  rfl

theorem value_setVersion (settings : Option (SortedMap String StoredValue))
    (adClicks : Option (SortedMap String StoredCount)) (vs : List StoredVersion) (version : Int64) :
    ((setVersion version).run.run ⟨settings, adClicks, some (.rows vs)⟩).value =
      (.ok (), ⟨settings, adClicks, some (.rows [.integer version])⟩) :=
  rfl

theorem value_migrate_of_unreadable (h : db.Unreadable) :
    db.migrate.value = (.error .database, db) := by
  rw [migrate, migration, Script.value_bind, value_schemaVersion_of_unreadable h]

/-- Where the version can be read the migration goes through. It makes tables or it does not, and
    changes nothing besides. -/
theorem value_migrate_of_readable (h : ¬ db.Unreadable) :
    db.migrate.value.1 = .ok () ∧ Migrated db db.migrate.value.2 := by
  obtain ⟨version, vs, hread, hout⟩ := of_schemaVersion h
  rw [migrate, migration, Script.value_bind, hread]
  by_cases hlt : version < 1
  · simp only [if_pos hlt, Script.value_bind, value_createTables, value_setVersion, true_and]
    exact ⟨rfl, keepsRows_create db.settings, keepsRows_create db.adClicks, fun _ => ⟨rfl, rfl⟩⟩
  · simp only [if_neg hlt, value_setVersion, true_and]
    exact ⟨rfl, .refl db.settings, .refl db.adClicks, fun houtdated => absurd (hout houtdated) hlt⟩

theorem value_migrate_of_versions (h : db.versions = some (.rows [.integer 1])) :
    db.migrate.value = (.ok (), db) := by
  obtain ⟨settings, adClicks, versions⟩ := db
  obtain rfl : versions = some (.rows [.integer 1]) := h
  rfl

/-- **Opening is all or nothing, keeps the data, and need not be repeated.** Whatever the database
    holds, the migration

    * fails and leaves the three tables as they are, or
    * succeeds: then the version table holds the single row 1, every row of settings and ad clicks
      is as it was and no other has appeared, tables that were there still are, and both are there
      if the first version was below 1 or absent. To run it again succeeds and changes nothing.

    It fails exactly when the first version is no integer of 32 bits or the version has no
    column. -/
theorem migrate_outcome (db : Database) :
    let r := db.migrate.value
    (r = (.error .database, db) ∨
      r.1 = .ok () ∧ Migrated db r.2 ∧ r.2.migrate.value = (.ok (), r.2)) ∧
    (r.1 = .error .database ↔ db.Unreadable) := by
  intro r
  by_cases h : db.Unreadable
  · have hr : r = (.error .database, db) := value_migrate_of_unreadable h
    refine ⟨.inl hr, iff_of_true ?_ h⟩
    rw [hr]
  · obtain ⟨hok, hmigrated⟩ := value_migrate_of_readable h
    refine ⟨.inr ⟨hok, hmigrated, value_migrate_of_versions hmigrated.versions⟩, iff_of_false ?_ h⟩
    rw [show r.1 = .ok () from hok]
    exact nofun

/-- Odd versions further down do not matter, and neither does what is missing beside. -/
example :
    let settings : SortedMap String StoredValue := .ofList [("open_tabs_count", .text "3")]
    let db : Database := ⟨some settings, none, some (.rows [.integer (-7), .text "x", .real])⟩
    db.migrate.value = (.ok (), ⟨some settings, some .empty, some (.rows [.integer 1])⟩) := rfl

end Database
end BrowserTelemetry
