/-!
# Addresses

The parts of an address that tell where it leads: scheme, host and path. Credentials, port, query
and fragment are checked when an address is read but have no part in what is asked of it here.
-/

namespace BrowserTelemetry

set_option autoImplicit false

/-- The host of an address. -/
inductive Host where
  | name (text : String)
  | ipv4 (address : Nat)
  /-- Eight pieces of 16 bits. -/
  | ipv6 (pieces : List Nat)
  deriving DecidableEq, Repr, Inhabited

/-- The path of an address. -/
inductive UrlPath where
  /-- A path without structure, of an address that has no host. -/
  | plain (text : String)
  | segments (l : List String)
  deriving DecidableEq, Repr, Inhabited

/-- An address. -/
structure Url where
  scheme : String
  host : Option Host
  path : UrlPath
  deriving DecidableEq, Repr, Inhabited

/-- The text of a path: a slash before every segment. -/
def UrlPath.text : UrlPath → String
  | .plain text => text
  | .segments l => String.join (l.map fun s => "/" ++ s)

end BrowserTelemetry
