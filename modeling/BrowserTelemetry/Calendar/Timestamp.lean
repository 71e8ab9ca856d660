import BrowserTelemetry.Calendar.Moment
import BrowserTelemetry.Text.Blank

/-!
# Timestamps

The text of a moment: `2024-01-02T03:04:05.250Z`. Years outside of four digits have a sign, and the
fraction of a second takes the fewest of 0, 3, 6 or 9 digits that say it exactly.

Reading is laxer than writing: blanks may stand before a number or a separator, a number may have
fewer digits than it has places, the date may be parted from the time by a blank, and the time may
be that of another place, with the offset of its clocks.
-/

namespace BrowserTelemetry

set_option autoImplicit false

namespace Timestamp

/-! ## Writing -/

/-- The decimal digits of a number, with zeros in front up to a width. -/
def padded (width n : Nat) : List Char :=
  let ds := Nat.toDigits 10 n
  List.replicate (width - ds.length) '0' ++ ds

/-- The year. -/
def printYear (year : Int) : List Char :=
  if 0 ≤ year ∧ year ≤ 9999 then padded 4 year.toNat
  else (if year < 0 then '-' else '+') :: padded 4 year.natAbs

/-- The fraction of a second. -/
def printFraction (nanos : Nat) : List Char :=
  if nanos = 0 then []
  else if nanos % 1000000 = 0 then '.' :: padded 3 (nanos / 1000000)
  else if nanos % 1000 = 0 then '.' :: padded 6 (nanos / 1000)
  else '.' :: padded 9 nanos

/-- The text of a moment, as a list of characters. -/
def printChars (m : Moment) : List Char :=
  printYear m.year ++ '-' :: padded 2 m.month ++ '-' :: padded 2 m.day ++ 'T' :: padded 2 m.hour ++
    ':' :: padded 2 m.minute ++ ':' :: padded 2 m.second ++ printFraction m.nanos ++ ['Z']

/-- The text of a moment. -/
def print (m : Moment) : String := String.ofList (printChars m)

/-! ## Reading -/

/-- The value of digits. -/
def digitsValue (ds : List Char) : Nat := ds.foldl (fun n c => n * 10 + (c.toNat - 48)) 0

/-- A number of at least one and at most `width` digits, and what follows it. -/
def number? (width : Nat) (cs : List Char) : Option (Nat × List Char) :=
  let ds := (cs.take width).takeWhile Char.isDigit
  if ds.isEmpty then none else some (digitsValue ds, cs.drop ds.length)

/-- A number of two digits, blanks before it allowed. -/
def twoDigits? (cs : List Char) : Option (Nat × List Char) := number? 2 (Text.dropBlanks cs)

/-- A year, blanks before it allowed. With a sign it may have any number of digits. -/
def year? (cs : List Char) : Option (Int × List Char) :=
  match Text.dropBlanks cs with
  | '-' :: rest => (number? rest.length rest).map fun (n, rest) => (-(n : Int), rest)
  | '+' :: rest => (number? rest.length rest).map fun (n, rest) => ((n : Int), rest)
  | rest => (number? 4 rest).map fun (n, rest) => ((n : Int), rest)

/-- A separator, blanks before it allowed. -/
def separator? (c : Char) (cs : List Char) : Option (List Char) :=
  match Text.dropBlanks cs with
  | d :: rest => if d = c then some rest else none
  | [] => none

/-- The mark between date and time. -/
def timeMark? : List Char → Option (List Char)
  | c :: rest => if c = 'T' ∨ c = 't' ∨ c = ' ' then some rest else none
  | [] => none

/-- The fraction of a second in nanoseconds, if there is one; further digits are cut off. -/
def fraction? : List Char → Option (Nat × List Char)
  | '.' :: rest =>
    let ds := (rest.take 9).takeWhile Char.isDigit
    if ds.isEmpty then none
    else
      some (digitsValue ds * Nat.pow 10 (9 - ds.length),
        (rest.drop ds.length).dropWhile Char.isDigit)
  | rest => some (0, rest)

/-- The hours and minutes of an offset, with colons and blanks between them. -/
def offsetValue? : List Char → Option (Nat × List Char)
  | a :: b :: rest =>
    if a.isDigit ∧ b.isDigit then
      match rest.dropWhile fun c => c = ':' || Text.isBlank c with
      | c :: d :: rest =>
        if '0' ≤ c ∧ c ≤ '5' ∧ d.isDigit then
          some (digitsValue [a, b] * 60 + digitsValue [c, d], rest)
        else none
      | _ => none
    else none
  | _ => none

/-- The letters `UTC` in either case. -/
def isUtc (cs : List Char) : Bool := cs.take 3 |>.map Char.toUpper |> (· == ['U', 'T', 'C'])

/-- The offset in minutes. -/
def offset? (cs : List Char) : Option (Int × List Char) :=
  if isUtc cs then some (0, cs.drop 3)
  else
    match cs with
    | 'Z' :: rest | 'z' :: rest => some (0, rest)
    | '+' :: rest => (offsetValue? rest).map fun (n, rest) => ((n : Int), rest)
    | '-' :: rest | '−' :: rest => (offsetValue? rest).map fun (n, rest) => (-(n : Int), rest)
    | _ => none

/-- The moment that a list of characters spells. -/
def parseChars (cs : List Char) : Option Moment := do
  let (year, cs) ← year? cs
  let cs ← separator? '-' cs
  let (month, cs) ← twoDigits? cs
  let cs ← separator? '-' cs
  let (day, cs) ← twoDigits? cs
  let cs ← timeMark? cs
  let (hour, cs) ← twoDigits? cs
  let cs ← separator? ':' cs
  let (minute, cs) ← twoDigits? cs
  let cs ← separator? ':' cs
  let (second, cs) ← twoDigits? cs
  let (nanos, cs) ← fraction? cs
  let (offset, cs) ← offset? (Text.dropBlanks cs)
  if (Text.dropBlanks cs).isEmpty then
    Moment.ofLocal? offset year month day hour minute second nanos
  else none

/-- The moment that a text spells. -/
def parse (s : String) : Option Moment := parseChars s.toList

end Timestamp

end BrowserTelemetry
