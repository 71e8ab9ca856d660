/-!
# Paths of files

A path is a text of names with slashes between them. Only what is needed here: joining two paths,
and the names that a path goes through.
-/

namespace BrowserTelemetry.FilePath

set_option autoImplicit false

/-- A path continued by a relative one. -/
def join (base name : String) : String :=
  if base = "" then name
  else if base.toList.getLast? = some '/' then base ++ name
  else base ++ "/" ++ name

/-- The names that a path goes through: neither empty ones nor single dots. -/
def names (path : String) : List String :=
  ((path.toList.splitOnP (· = '/')).map String.ofList).filter fun s => s ≠ "" ∧ s ≠ "."

end BrowserTelemetry.FilePath
