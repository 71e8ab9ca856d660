/-!
# Sets of code points

A property of characters is a list of ranges of code points. The tables spell it as text, the
bounds of a range in hexadecimal with a hyphen between them, the ranges in ascending order and a
blank between two of them: `41-5a 5f 61-7a`.
-/

namespace BrowserTelemetry

set_option autoImplicit false

/-- A set of code points, as ranges with both ends included. -/
structure CodePoints where
  ranges : List (Nat × Nat)
  deriving Repr, Inhabited

namespace CodePoints

/-- Is the code point in the set? -/
def has (s : CodePoints) (n : Nat) : Bool := s.ranges.any fun r => r.1 ≤ n && n ≤ r.2

/-- Is the character in the set? -/
def contains (s : CodePoints) (c : Char) : Bool := s.has c.toNat

/-- The value of a hexadecimal numeral; a character that is no digit counts as zero. -/
def hexValue (cs : List Char) : Nat :=
  cs.foldl (fun n c =>
    n * 16 +
      (if c.isDigit then c.toNat - 48 else if 'a' ≤ c ∧ c ≤ 'f' then c.toNat - 87 else 0)) 0

/-- One range. -/
def rangeOf (cs : List Char) : Nat × Nat :=
  match cs.span (· ≠ '-') with
  | (low, _ :: high) => (hexValue low, hexValue high)
  | (only, []) => (hexValue only, hexValue only)

/-- The set that a text spells. -/
def ofText (text : String) : CodePoints :=
  ⟨(text.toList.splitOnP (fun c => c = ' ' || c = '\n')).filterMap fun cs =>
    if cs.isEmpty then none else some (rangeOf cs)⟩

end CodePoints

end BrowserTelemetry
