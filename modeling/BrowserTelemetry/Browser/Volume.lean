import BrowserTelemetry.Browser.Basic
import BrowserTelemetry.Storage.Migration

/-!
# Where databases are kept

The directories and files that a browser meets when it opens its database: directories on the way
are made, a file that is not there becomes a new database, and one that is no database is refused.
-/

namespace BrowserTelemetry

set_option autoImplicit false

/-- What stands under a path. -/
inductive Node where
  | directory
  | database (db : Database)
  /-- A file that is no database. -/
  | plainFile
  deriving DecidableEq, Inhabited

/-- A tree of directories and files, by the slash-separated names that lead there. The root is a
    directory. -/
structure Volume where
  nodes : SortedMap String Node
  deriving Inhabited

namespace Volume

/-- The key of a place, from the names that lead there. -/
def key (place : List String) : String := "/".intercalate place

/-- What stands at a place. -/
def node? (v : Volume) (place : List String) : Option Node :=
  if place.isEmpty then some .directory else v.nodes.get? (key place)

/-- The volume with something at a place. -/
def put (v : Volume) (place : List String) (n : Node) : Volume :=
  ⟨v.nodes.insert (key place) n⟩

/-- The volume with directories and plain files at the given paths. -/
def of (directories plainFiles : List String) : Volume :=
  let v := directories.foldl (fun v p => v.put (FilePath.names p) .directory) ⟨.empty⟩
  plainFiles.foldl (fun v p => v.put (FilePath.names p) .plainFile) v

/-- The place that a name leads to from a place; two dots lead back. -/
def enter (place : List String) (name : String) : List String :=
  if name = ".." then place.dropLast else place ++ [name]

/-- The place that names lead to. -/
def placeOf (names : List String) : List String := names.foldl enter []

/-- The longest name in bytes. -/
def longestName : Nat := 255

/-- Make the directories on the way through some names from a place. -/
def makeDirectories (v : Volume) (place : List String) : List String → Except FileError Volume
  | [] => .ok v
  | name :: rest =>
    if longestName < name.utf8ByteSize then .error .nameTooLong
    else
      let next := enter place name
      match v.node? next with
      | some .directory => makeDirectories v next rest
      | none => makeDirectories (v.put next .directory) next rest
      | some _ => .error (if rest.isEmpty then .occupied else .notDirectory)

/-- The path of a database that is kept in memory alone. -/
def inMemory : String := ":memory:"

/-- Make the directories that lead to a path. -/
def prepare (v : Volume) (path : String) : Except FileError Volume :=
  let directories := (FilePath.names path).dropLast
  if directories.isEmpty then .ok v
  else if ("/".intercalate directories).contains '\x00' then .error .zeroInPath
  else v.makeDirectories [] directories

/-- Open the database at a path whose directories are there, with the log. -/
def openDatabase (v : Volume) (path : String) : Logged (Except StorageError Database × Volume) :=
  if path = inMemory then do
    let r ← Database.blank.open?
    return (r, v)
  else
    let names := FilePath.names path
    let place := placeOf names
    let usable := !path.contains '\x00' && names.all fun s => s.utf8ByteSize ≤ longestName
    match v.node? place with
    | some .directory | some .plainFile => return (.error .database, v)
    | found =>
      if !usable then return (.error .database, v)
      else do
        let db :=
          match found with
          | some (.database db) => db
          | _ => .blank
        let (outcome, db) ← db.migrate
        return (outcome.map fun _ => db, v.put place (.database db))

/-- Keep what a browser has done to its database. -/
def save (v : Volume) (b : Browser) : Volume :=
  let path := b.config.databasePath
  if path = inMemory then v else v.put (placeOf (FilePath.names path)) (.database b.database)

end Volume

/-- Open the configured database and build a browser on it. -/
def Browser.start (config : Config) (v : Volume) (clock : Clock) :
    Logged (Except BrowserError Browser × Volume) :=
  match config.validate with
  | .error e => return (.error (.config e), v)
  | .ok () =>
    match v.prepare config.databasePath with
    | .error e => return (.error (.file e), v)
    | .ok v => do
      match ← v.openDatabase config.databasePath with
      | (.error e, v) => return (.error (.storage e), v)
      | (.ok db, v) =>
        let r ← Browser.build config db clock
        return (r, v)

end BrowserTelemetry
