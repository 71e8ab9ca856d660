import BrowserTelemetry.Storage.Database
import BrowserTelemetry.Tab.Session
import BrowserTelemetry.Telemetry.OpenTabs

/-!
# What can go wrong with a browser

Each part of the library has its own errors. A browser wraps them, and adds those of its
configuration and of the files it opens.
-/

namespace BrowserTelemetry

set_option autoImplicit false

/-- Why a file or directory could not be used. -/
inductive FileError where
  | notFound
  | occupied
  | notDirectory
  | isDirectory
  | nameTooLong
  /-- The path holds the character that ends texts in the file system. -/
  | zeroInPath
  /-- The contents are no text in UTF-8. -/
  | notText
  deriving DecidableEq, Repr, Inhabited

/-- The error in words. -/
def FileError.message : FileError → String
  | .notFound => "No such file or directory (os error 2)"
  | .occupied => "File exists (os error 17)"
  | .notDirectory => "Not a directory (os error 20)"
  | .isDirectory => "Is a directory (os error 21)"
  | .nameTooLong => "File name too long (os error 36)"
  | .zeroInPath => "file name contained an unexpected NUL byte"
  | .notText => "stream did not contain valid UTF-8"

/-- What is wrong with a configuration. -/
inductive ConfigError where
  | noDatabasePath
  | noLogLevel
  deriving DecidableEq, Repr, Inhabited

/-- The error in words. -/
def ConfigError.message : ConfigError → String
  | .noDatabasePath => "database_path cannot be empty"
  | .noLogLevel => "log_level cannot be empty"

/-- Why a browser failed. -/
inductive BrowserError where
  | storage (e : StorageError)
  | tab (e : TabError)
  | setting (e : SettingError)
  | attribution (e : StorageError)
  | serialization (issue : Issue)
  | file (e : FileError)
  | config (e : ConfigError)
  deriving DecidableEq, Repr, Inhabited

/-- The error in words. Those of the storage, and of JSON texts, are told apart by their kind and
    have none. -/
def BrowserError.message? : BrowserError → Option String
  | .storage _ | .attribution _ | .serialization _ => none
  | .tab e => some ("State error: " ++ e.message)
  | .setting e => e.message?.map ("Telemetry error: " ++ ·)
  | .file e => some ("IO error: " ++ e.message)
  | .config e => some ("Configuration error: " ++ e.message)

end BrowserTelemetry
