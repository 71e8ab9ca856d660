/-!
# Moments

A moment is a date and a time of day in universal time, to the nanosecond. A minute may end with a
sixty-first second. The years reach a quarter of a million in either direction.
-/

namespace BrowserTelemetry

set_option autoImplicit false

namespace Calendar

/-- Has the year a 29th of February? -/
def isLeapYear (year : Int) : Bool := year % 4 = 0 && (year % 100 != 0 || year % 400 = 0)

/-- The number of days of a month. -/
def daysOf (year : Int) (month : Nat) : Nat :=
  match month with
  | 2 => if isLeapYear year then 29 else 28
  | 4 | 6 | 9 | 11 => 30
  | _ => 31

/-- The first year. -/
def firstYear : Int := -262143

/-- The last year. -/
def lastYear : Int := 262142

/-- Is there such a day? -/
def validDate (year : Int) (month day : Nat) : Bool :=
  firstYear ≤ year && year ≤ lastYear && 1 ≤ month && month ≤ 12 && 1 ≤ day &&
    day ≤ daysOf year month

/-- Is there such a time of day? -/
def validTime (hour minute second nanos : Nat) : Bool :=
  hour ≤ 23 && minute ≤ 59 && second ≤ 60 && nanos ≤ 999999999

end Calendar

open Calendar

/-- A moment in universal time. -/
structure Moment where
  year : Int
  month : Nat
  day : Nat
  hour : Nat
  minute : Nat
  second : Nat
  nanos : Nat
  valid : validDate year month day && validTime hour minute second nanos

namespace Moment

instance : DecidableEq Moment := fun a b =>
  decidable_of_iff
    (a.year = b.year ∧ a.month = b.month ∧ a.day = b.day ∧ a.hour = b.hour ∧
      a.minute = b.minute ∧ a.second = b.second ∧ a.nanos = b.nanos)
    (by cases a; cases b; simp)

/-- The moment with the given parts, if there is one. -/
def of? (year : Int) (month day hour minute second nanos : Nat) : Option Moment :=
  if h : validDate year month day && validTime hour minute second nanos then
    some ⟨year, month, day, hour, minute, second, nanos, h⟩
  else none

/-- The beginning of the year 1970. -/
def epoch : Moment := ⟨1970, 1, 1, 0, 0, 0, 0, rfl⟩

instance : Inhabited Moment := ⟨epoch⟩

/-- The parts from which a moment was made. -/
theorem of?_self (m : Moment) :
    of? m.year m.month m.day m.hour m.minute m.second m.nanos = some m := by
  simp [of?, m.valid]

end Moment

namespace Calendar

/-- The day before or after a day. -/
def shiftDay (year : Int) (month day : Nat) (days : Int) : Int × Nat × Nat :=
  if days < 0 then
    if 1 < day then (year, month, day - 1)
    else if 1 < month then (year, month - 1, daysOf year (month - 1))
    else (year - 1, 12, 31)
  else if 0 < days then
    if day < daysOf year month then (year, month, day + 1)
    else if month < 12 then (year, month + 1, 1)
    else (year + 1, 1, 1)
  else (year, month, day)

end Calendar

/-- The moment with the given parts at a place whose clocks are `offset` minutes ahead of universal
    time. Less than a day is between any two clocks, and the date has to exist at both places. -/
def Moment.ofLocal? (offset : Int) (year : Int) (month day hour minute second nanos : Nat) :
    Option Moment :=
  if 1440 ≤ offset.natAbs then none
  else if validDate year month day && validTime hour minute second nanos then
    let minutes : Int := hour * 60 + minute - offset
    let (y, m, d) := shiftDay year month day (minutes / 1440)
    let within := (minutes % 1440).toNat
    Moment.of? y m d (within / 60) (within % 60) second nanos
  else none

end BrowserTelemetry
