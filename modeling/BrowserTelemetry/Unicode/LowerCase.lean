import BrowserTelemetry.Unicode.LowerCaseTable

/-!
# Lower case

A text in small letters, in any script that has them. A capital has the same small letter wherever
it stands, but for the Greek sigma, which has a form of its own at the end of a word.
-/

namespace BrowserTelemetry.Unicode

set_option autoImplicit false

/-- The letters that are capital or small. -/
def casedPoints : CodePoints := .ofText casedRanges

/-- The characters that do not part the letters of a word. -/
def caseIgnorablePoints : CodePoints := .ofText caseIgnorableRanges

/-- A character in lower case, whatever stands around it. -/
def lowerChar (c : Char) : List Char :=
  if c.toNat < 0x80 then [c.toLower]
  else if c = 'İ' then ['i', '\u0307']
  else
    match lowerRanges.findSome? fun r => r.target? c.toNat with
    | some n => [Char.ofNat n]
    | none => [c]

/-- Does a word go on with these characters? -/
def goesOn (cs : List Char) : Bool :=
  (cs.dropWhile caseIgnorablePoints.contains).head?.any casedPoints.contains

/-- The small sigma. `before` is what stands before it, the nearest first. -/
def lowerSigma (before after : List Char) : Char :=
  if goesOn before && !goesOn after then 'ς' else 'σ'

/-- The rest of a text in lower case. `before` is what stands before it, the nearest first. -/
def lowerAfter (before : List Char) : List Char → List Char
  | [] => []
  | c :: rest =>
    (if c = 'Σ' then [lowerSigma before rest] else lowerChar c) ++ lowerAfter (c :: before) rest

/-- A text in lower case. -/
def lower (cs : List Char) : List Char := lowerAfter [] cs

end BrowserTelemetry.Unicode
