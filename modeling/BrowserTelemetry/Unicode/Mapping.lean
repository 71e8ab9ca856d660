import BrowserTelemetry.Text.CodePoints
import BrowserTelemetry.Unicode.MappingTable

/-!
# Mapping of names

Before a name is looked up, its characters are brought to one form: letters to lower case, wide and
narrow forms to plain ones, and so on. Some characters are left out, and some no name can hold.
-/

namespace BrowserTelemetry.Unicode

set_option autoImplicit false

/-- What becomes of a character. -/
inductive Mapping where
  | kept
  | ignored
  | mapped (target : List Char)
  | disallowed
  deriving Repr, DecidableEq

/-- Characters with one target each: every `step`th from `first` to `last`. -/
structure TargetRange where
  first : Nat
  last : Nat
  step : Nat
  target : Nat
  deriving Repr, Inhabited

namespace TargetRange

/-- The target of a code point in the range. -/
def target? (r : TargetRange) (n : Nat) : Option Nat :=
  if r.first ≤ n ∧ n ≤ r.last ∧ (n - r.first) % r.step = 0 then some (r.target + (n - r.first))
  else none

/-- The range that a text spells. -/
def ofText (cs : List Char) : TargetRange :=
  let (source, target) := cs.span (· ≠ '>')
  let target := CodePoints.hexValue (target.drop 1)
  match source.span fun c => c ≠ '-' ∧ c ≠ '=' with
  | (first, mark :: last) =>
    ⟨CodePoints.hexValue first, CodePoints.hexValue last, if mark = '=' then 2 else 1, target⟩
  | (only, []) => ⟨CodePoints.hexValue only, CodePoints.hexValue only, 1, target⟩

end TargetRange

/-- The words of a text. -/
def words (text : String) : List (List Char) :=
  (text.toList.splitOnP fun c => c = ' ' || c = '\n').filter fun w => !w.isEmpty

/-- A code point with several targets, as a text spells it. -/
def severalOfText (cs : List Char) : Nat × List Char :=
  let (source, targets) := cs.span (· ≠ '>')
  (CodePoints.hexValue source,
    ((targets.drop 1).splitOnP (· = '+')).map fun w => Char.ofNat (CodePoints.hexValue w))

/-- All ranges with single targets. -/
def targetRanges : List TargetRange := (words singleTargets).map .ofText

/-- All code points with several targets. -/
def severalTargetList : List (Nat × List Char) := (words severalTargets).map severalOfText

/-- The characters that are left out. -/
def ignoredPoints : CodePoints := .ofText ignoredRanges

/-- The characters that no name holds. -/
def disallowedPoints : CodePoints := .ofText disallowedRanges

/-- What becomes of a character. -/
def Mapping.of (c : Char) : Mapping :=
  let n := c.toNat
  if n < 0x80 then (if c.isUpper then .mapped [c.toLower] else .kept)
  else if disallowedPoints.has n then .disallowed
  else if ignoredPoints.has n then .ignored
  else
    match targetRanges.findSome? fun r => r.target? n with
    | some t => .mapped [Char.ofNat t]
    | none =>
      match severalTargetList.lookup n with
      | some cs => .mapped cs
      | none => .kept

/-- The mapped text; none if it holds a character that no name holds. -/
def mapText? : List Char → Option (List Char)
  | [] => some []
  | c :: rest =>
    match Mapping.of c with
    | .kept => (mapText? rest).map (c :: ·)
    | .ignored => mapText? rest
    | .mapped cs => (mapText? rest).map (cs ++ ·)
    | .disallowed => none

end BrowserTelemetry.Unicode
