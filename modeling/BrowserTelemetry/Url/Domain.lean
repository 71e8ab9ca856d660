import BrowserTelemetry.Unicode.Composition
import BrowserTelemetry.Unicode.Direction
import BrowserTelemetry.Url.Punycode

/-!
# Domain names

A domain name may be typed with any letters. It is looked up in ASCII: its characters are mapped and
composed, and each label that still goes beyond ASCII is written in Punycode after `xn--`. Labels
that are typed in that form have to be what this would have made of them.
-/

namespace BrowserTelemetry.Domain

set_option autoImplicit false

open Unicode

/-- A character of ASCII. -/
def isAscii (c : Char) : Bool := c.toNat < 0x80

/-- What stands before a label in Punycode. -/
def mark : List Char := ['x', 'n', '-', '-']

/-- The labels of a name. -/
def labels (cs : List Char) : List (List Char) := cs.splitOnP (· = '.')

/-- Is every joiner in a place for it? `before` is what stands before, the nearest first. A mark
    that silences a vowel allows any joiner; where letters would join, a joiner may keep them from
    it. -/
def joinersFit (before : List Char) : List Char → Bool
  | [] => true
  | c :: rest =>
    let afterSilencer := (before.head?.map fun b => place b.toNat) = some 9
    let fits :=
      if c = '\u200d' then afterSilencer
      else if c = '\u200c' then afterSilencer || wouldJoin before rest
      else true
    fits && joinersFit (c :: before) rest

/-- May a label beyond ASCII be as it is? -/
def isLabel (cs : List Char) : Bool :=
  match cs.head? with
  | none => true
  | some c => !markPoints.contains c && joinersFit [] cs

/-- The label that a label in ASCII stands for. -/
def expand? (cs : List Char) : Option (List Char) :=
  if mark.isPrefixOf cs then do
    let label ← Punycode.decode? (cs.drop 4)
    if label.isEmpty ∨ label.all isAscii then none
    else if label.any (fun c => Mapping.of c ≠ .kept) ∨ compose label ≠ label then none
    else if isLabel label then some label
    else none
  else some cs

/-- A label that is mapped and composed, with its form in ASCII. -/
def finish? (cs : List Char) : Option (List Char × List Char) :=
  if cs.all isAscii then (expand? cs).map fun label => (label, cs)
  else if mark.isPrefixOf cs ∨ !isLabel cs then none
  else some (cs, mark ++ Punycode.encode cs)

/-- The ASCII form of a domain name. -/
def toAscii? (cs : List Char) : Option (List Char) := do
  let mapped ← mapText? cs
  let composed := if mapped.all isAscii then mapped else compose mapped
  let done ← (labels composed).mapM finish?
  let shown := done.map Prod.fst
  if shown.any hasRightToLeft ∧ !(shown.all keepsDirection) then none
  else some (['.'].intercalate (done.map Prod.snd))

end BrowserTelemetry.Domain
