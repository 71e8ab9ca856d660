/-!
# A clock that moves only when told to

Readings are milliseconds since some fixed moment, in 64 bits.
-/

namespace BrowserTelemetry

set_option autoImplicit false

/-- A clock and its reading. -/
structure Clock where
  millis : Int64
  deriving DecidableEq, Repr, Inhabited

namespace Clock

/-- The clock at another reading. -/
def set (_ : Clock) (millis : Int64) : Clock := ⟨millis⟩

/-- The clock some milliseconds later. Beyond the last reading it goes on at the first one. -/
def advance (c : Clock) (millis : Int64) : Clock := ⟨c.millis + millis⟩

end Clock

end BrowserTelemetry
