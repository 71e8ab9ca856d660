import BrowserTelemetry.Unicode.CompositionTable
import BrowserTelemetry.Unicode.Mapping

/-!
# Composed form

A letter with marks can be written as one character or as several, and marks on different sides of a
letter in any order. The composed form is the same for all ways of writing: take everything apart,
put the marks in order, and put together again what can be.
-/

namespace BrowserTelemetry.Unicode

set_option autoImplicit false

/-- A composed character and its parts. -/
structure Composed where
  whole : Nat
  first : Nat
  second : Nat
  deriving Repr, Inhabited

/-- The composed character that a text spells. -/
def Composed.ofText (cs : List Char) : Composed :=
  let (whole, parts) := cs.span (· ≠ ':')
  let (first, second) := (parts.drop 1).span (· ≠ '+')
  ⟨CodePoints.hexValue whole, CodePoints.hexValue first, CodePoints.hexValue (second.drop 1)⟩

/-- All composed characters but the Korean syllables, whose parts can be computed. -/
def composedList : List Composed := (words compositions).map .ofText

/-- The places of marks. -/
def placeList : List (Nat × CodePoints) := markPlaces.map fun (k, text) => (k, .ofText text)

/-- The place of a mark; 0 for what is no mark with a place. -/
def place (n : Nat) : Nat :=
  if n < 0x300 then 0 else ((placeList.find? fun p => p.2.has n).map Prod.fst).getD 0

/-! ## Korean syllables -/

/-- The parts of a Korean syllable. -/
def koreanParts? (n : Nat) : Option (List Nat) :=
  if 0xAC00 ≤ n ∧ n ≤ 0xD7A3 then
    let i := n - 0xAC00
    let front := [0x1100 + i / 588, 0x1161 + i % 588 / 28]
    some (if i % 28 = 0 then front else front ++ [0x11A7 + i % 28])
  else none

/-- The Korean syllable of two parts. -/
def koreanWhole? (a b : Nat) : Option Nat :=
  if 0x1100 ≤ a ∧ a ≤ 0x1112 ∧ 0x1161 ≤ b ∧ b ≤ 0x1175 then
    some (0xAC00 + ((a - 0x1100) * 21 + (b - 0x1161)) * 28)
  else if 0xAC00 ≤ a ∧ a ≤ 0xD7A3 ∧ (a - 0xAC00) % 28 = 0 ∧ 0x11A8 ≤ b ∧ b ≤ 0x11C2 then
    some (a + (b - 0x11A7))
  else none

/-! ## Taking apart -/

/-- The parts of a code point, `depth` levels down. -/
def partsOf : Nat → Nat → List Nat
  | 0, n => [n]
  | depth + 1, n =>
    if n < 0xC0 then [n]
    else
      match koreanParts? n with
      | some ps => ps
      | none =>
        match composedList.find? fun c => c.whole = n with
        | some c => partsOf depth c.first ++ [c.second]
        | none => [n]

/-- Put a mark before others, behind those whose places come first. -/
def insertMark (n : Nat) : List Nat → List Nat
  | [] => [n]
  | m :: rest =>
    if place m ≠ 0 ∧ place m < place n then m :: insertMark n rest else n :: m :: rest

/-- Everything taken apart, with the marks in order. -/
def takeApart (ns : List Nat) : List Nat := (ns.flatMap (partsOf 8)).foldr insertMark []

/-! ## Putting together -/

/-- The character composed of two others. -/
def whole? (a b : Nat) : Option Nat :=
  match koreanWhole? a b with
  | some n => some n
  | none => (composedList.find? fun c => c.first = a ∧ c.second = b).map Composed.whole

/-- A letter with the marks on it that could not be put together with it, the latest first. -/
structure Cluster where
  letter : Nat
  marks : List Nat

/-- All of it, in order. -/
def Cluster.toList (c : Cluster) : List Nat := c.letter :: c.marks.reverse

/-- Put together what can be, beginning with an open cluster. A mark reaches the letter only past
    marks whose places come first. -/
def putTogether (current : Cluster) : List Nat → List Nat
  | [] => current.toList
  | n :: rest =>
    let reaches :=
      match current.marks with
      | [] => true
      | m :: _ => place m < place n
    match if reaches then whole? current.letter n else none with
    | some w => putTogether { current with letter := w } rest
    | none =>
      if place n = 0 then current.toList ++ putTogether ⟨n, []⟩ rest
      else putTogether { current with marks := n :: current.marks } rest

/-- The composed form of a text. -/
def compose (cs : List Char) : List Char :=
  let ns := takeApart (cs.map Char.toNat)
  let leading := ns.takeWhile fun n => place n ≠ 0
  let composed :=
    match ns.drop leading.length with
    | [] => []
    | n :: rest => putTogether ⟨n, []⟩ rest
  (leading ++ composed).map Char.ofNat

/-- The marks. -/
def markPoints : CodePoints := .ofText markRanges

end BrowserTelemetry.Unicode
