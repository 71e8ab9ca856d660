import BrowserTelemetry.Text.CodePoints
import BrowserTelemetry.Unicode.DirectionTable

/-!
# Directions of writing

Labels that mix directions of writing can be shown in a misleading order. In a name that holds
anything written from right to left, every label has to keep to one direction.
-/

namespace BrowserTelemetry.Unicode

set_option autoImplicit false

/-- How a character goes with directions of writing. -/
inductive Direction where
  | leftToRight
  | rightToLeft
  | arabicDigit
  | digit
  /-- A mark. -/
  | attached
  | neutral
  deriving DecidableEq, Repr

/-- The characters written from right to left. -/
def rightToLeftPoints : CodePoints := .ofText rightToLeftRanges

/-- The digits that go with them. -/
def arabicDigitPoints : CodePoints := .ofText arabicDigitRanges

/-- The digits of no direction. -/
def digitPoints : CodePoints := .ofText digitRanges

/-- The marks. -/
def attachedPoints : CodePoints := .ofText attachedRanges

/-- The characters of no direction. -/
def neutralPoints : CodePoints := .ofText neutralRanges

/-- How a character goes with directions of writing. -/
def Direction.of (c : Char) : Direction :=
  if rightToLeftPoints.contains c then .rightToLeft
  else if arabicDigitPoints.contains c then .arabicDigit
  else if digitPoints.contains c then .digit
  else if attachedPoints.contains c then .attached
  else if neutralPoints.contains c then .neutral
  else .leftToRight

/-- Does a text hold anything written from right to left? -/
def hasRightToLeft (cs : List Char) : Bool :=
  cs.any fun c => Direction.of c = .rightToLeft || Direction.of c = .arabicDigit

/-- The direction of the last character that is no mark. -/
def lastDirection (ds : List Direction) : Option Direction :=
  (ds.reverse.dropWhile (· = .attached)).head?

/-- Does a label keep to one direction? -/
def keepsDirection (cs : List Char) : Bool :=
  let ds := cs.map Direction.of
  match ds.head? with
  | none => true
  | some .leftToRight =>
    ds.all (fun d => d ≠ .rightToLeft ∧ d ≠ .arabicDigit) &&
      (lastDirection ds = some .leftToRight || lastDirection ds = some .digit)
  | some .rightToLeft =>
    ds.all (· ≠ .leftToRight) &&
      (lastDirection ds = some .rightToLeft || lastDirection ds = some .digit ||
        lastDirection ds = some .arabicDigit) &&
      !(ds.contains .digit && ds.contains .arabicDigit)
  | some _ => false

/-! ## Joiners -/

/-- The letters that join on both sides. -/
def joinsBothPoints : CodePoints := .ofText joinsBothRanges

/-- The letters that join on their left. -/
def joinsLeftPoints : CodePoints := .ofText joinsLeftRanges

/-- The letters that join on their right. -/
def joinsRightPoints : CodePoints := .ofText joinsRightRanges

/-- The characters that joining passes through. -/
def joinTransparentPoints : CodePoints := .ofText joinTransparentRanges

/-- Does the letter join the one after it? -/
def joinsNext (c : Char) : Bool := joinsBothPoints.contains c || joinsLeftPoints.contains c

/-- Does the letter join the one before it? -/
def joinsPrevious (c : Char) : Bool := joinsBothPoints.contains c || joinsRightPoints.contains c

/-- Would the letters around a place join? `before` is what stands before it, the nearest first. -/
def wouldJoin (before after : List Char) : Bool :=
  let next (cs : List Char) : Option Char := (cs.dropWhile joinTransparentPoints.contains).head?
  (next before).any joinsNext && (next after).any joinsPrevious

end BrowserTelemetry.Unicode
