import BrowserTelemetry.Number.Binary64
import BrowserTelemetry.Storage.Database

/-!
# Numbers in number columns

A text that is put into a number column is stored as a number if it spells one: as an integer if it
is one, and else as a real. Any other text stays a text.
-/

namespace BrowserTelemetry

set_option autoImplicit false

namespace Affinity

/-- The blanks that may stand around a number. -/
def isSpace (c : Char) : Bool := c = ' ' || (9 ≤ c.toNat && c.toNat ≤ 13)

/-- The value of digits. -/
def digitsValue (ds : List Char) : Nat := ds.foldl (fun n c => n * 10 + (c.toNat - 48)) 0

/-- A spelled number: `significand · 10^power`, and whether it is spelled as a whole number. -/
structure Spelled where
  negative : Bool
  significand : Nat
  power : Int
  whole : Bool
  deriving Repr, DecidableEq

/-- A sign, `true` for minus, and the text after it. -/
def sign : List Char → Bool × List Char
  | '-' :: rest => (true, rest)
  | '+' :: rest => (false, rest)
  | rest => (false, rest)

/-- The digits after a point, if there is one, and the text after them. -/
def fraction : List Char → Option (List Char) × List Char
  | '.' :: rest => (some (rest.takeWhile Char.isDigit), rest.dropWhile Char.isDigit)
  | rest => (none, rest)

/-- The exponent, if there is one, and the text after it. -/
def exponent : List Char → Option Int × List Char
  | c :: rest =>
    let (minus, unsigned) := sign rest
    let ds := unsigned.takeWhile Char.isDigit
    if (c = 'e' ∨ c = 'E') ∧ !ds.isEmpty then
      (some (if minus then -(digitsValue ds : Int) else digitsValue ds),
        unsigned.dropWhile Char.isDigit)
    else (none, c :: rest)
  | [] => (none, [])

/-- The number that a text spells. -/
def spelled? (text : String) : Option Spelled :=
  let (negative, cs) := sign (text.toList.dropWhile isSpace)
  let whole := cs.takeWhile Char.isDigit
  let (frac, cs) := fraction (cs.dropWhile Char.isDigit)
  let (exp, cs) := exponent cs
  let ds := whole ++ frac.getD []
  if ds.isEmpty ∨ !(cs.all isSpace) then none
  else
    some
      { negative
        significand := digitsValue ds
        power := exp.getD 0 - (frac.getD []).length
        whole := frac.isNone && exp.isNone }

/-- The double nearest to a spelled number, none beyond the largest. Powers that leave nothing of
    the significand, or nothing but it, are not computed. -/
def Spelled.double? (s : Spelled) : Option Binary64 :=
  let size : Int := s.power + (Nat.toDigits 10 s.significand).length
  if s.significand = 0 ∨ size < -400 then some .zero
  else if 400 < size then none
  else if 0 ≤ s.power then Binary64.ofNat (s.significand * Nat.pow 10 s.power.toNat)
  else Binary64.nearest s.significand (Nat.pow 10 (-s.power).toNat)

/-- The whole number that a double is, if it is one of at most 63 bits. -/
def wholeValue? (x : Binary64) : Option Nat :=
  let (num, den) := x.ratio
  if num % den = 0 ∧ num / den < 1 <<< 63 then some (num / den) else none

/-- A whole number with its sign. -/
def signed (negative : Bool) (n : Nat) : Int := if negative then -(n : Int) else n

/-- What is stored for a spelled number. -/
def Spelled.store (s : Spelled) : StoredVersion :=
  let exact := signed s.negative s.significand
  if s.whole ∧ Int64.minValue.toInt ≤ exact ∧ exact ≤ Int64.maxValue.toInt then
    .integer (Int64.ofInt exact)
  else
    match s.double?.bind wholeValue? with
    | some n => .integer (Int64.ofInt (signed s.negative n))
    | none => .real

end Affinity

/-- What is stored for a text in a number column. -/
def StoredVersion.ofText (text : String) : StoredVersion :=
  match Affinity.spelled? text with
  | some s => s.store
  | none => .text text

end BrowserTelemetry
