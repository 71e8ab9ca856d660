/-!
# Punycode

A label beyond ASCII, written in ASCII: its ASCII characters first, then where the others go. Each
of the others is one number, which counts the places it could have been put at, in the order of the
code points, since the one before it. The digits of the numbers have weights that adapt to the size
of the numbers so far.
-/

namespace BrowserTelemetry.Punycode

set_option autoImplicit false

/-- The digit of a value below 36. -/
def digit (n : Nat) : Char := Char.ofNat (if n < 26 then 97 + n else 22 + n)

/-- The value of a digit. -/
def value? (c : Char) : Option Nat :=
  if 'a' ≤ c ∧ c ≤ 'z' then some (c.toNat - 97)
  else if 'A' ≤ c ∧ c ≤ 'Z' then some (c.toNat - 65)
  else if '0' ≤ c ∧ c ≤ '9' then some (c.toNat - 22)
  else none

/-- The bound below which a digit is the last one of its number. -/
def threshold (place bias : Nat) : Nat :=
  if place ≤ bias then 1 else if bias + 26 ≤ place then 26 else place - bias

/-- How often a number has to be divided by 35 until it is small, and what is left of it. -/
def divisions : Nat → Nat → Nat × Nat
  | 0, n => (0, n)
  | fuel + 1, n =>
    if n ≤ 455 then (0, n)
    else
      let (k, left) := divisions fuel (n / 35)
      (k + 1, left)

/-- The bias after a number, given how many characters there are by then. -/
def adapt (number count : Nat) (first : Bool) : Nat :=
  let n := if first then number / 700 else number / 2
  let n := n + n / count
  let (k, left) := divisions n n
  36 * k + 36 * left / (left + 38)

/-- What has been worked out so far: the next code point, the bias, and whether no number has been
    treated yet. -/
structure Progress where
  point : Nat
  bias : Nat
  first : Bool
  deriving Repr

/-- Nothing but ASCII so far. -/
def start : Progress := ⟨128, 72, true⟩

/-! ## Encoding -/

/-- The digits of a number, the places counted from `place`. -/
def encodeNumber (bias : Nat) : Nat → Nat → Nat → List Char
  | 0, _, _ => []
  | fuel + 1, place, n =>
    let t := threshold place bias
    if n < t then [digit n]
    else digit (t + (n - t) % (36 - t)) :: encodeNumber bias fuel (place + 36) ((n - t) / (36 - t))

/-- The numbers of one code point: `delta` places have been counted, and `count` characters are
    done. -/
def encodePoint (point : Nat) :
    List Char → Nat → Nat → Progress → List Char × Nat × Nat × Progress
  | [], delta, count, p => ([], delta, count, p)
  | c :: rest, delta, count, p =>
    if c.toNat < point then encodePoint point rest (delta + 1) count p
    else if c.toNat = point then
      let digits := encodeNumber p.bias (delta + 2) 36 delta
      let bias := adapt delta (count + 1) p.first
      let (more, r) := encodePoint point rest 0 (count + 1) { p with bias, first := false }
      (digits ++ more, r)
    else encodePoint point rest delta count p

/-- The numbers of the code points that are not yet done, in ascending order. -/
def encodePoints (label : List Char) : List Nat → Nat → Nat → Progress → List Char
  | [], _, _, _ => []
  | point :: rest, delta, count, p =>
    let delta := delta + (point - p.point) * (count + 1)
    let (digits, delta, count, p) := encodePoint point label delta count p
    digits ++ encodePoints label rest (delta + 1) count { p with point := point + 1 }

/-- The code points beyond ASCII in ascending order, each once. -/
def points (label : List Char) : List Nat :=
  ((label.map Char.toNat).filter (128 ≤ ·)).mergeSort.eraseReps

/-- The label in ASCII. -/
def encode (label : List Char) : List Char :=
  let ascii := label.filter fun c => c.toNat < 128
  let front := if ascii.isEmpty then [] else ascii ++ ['-']
  front ++ encodePoints label (points label) 0 ascii.length start

/-! ## Decoding -/

/-- A number and what follows it. -/
def decodeNumber? (bias : Nat) : Nat → Nat → Nat → List Char → Option (Nat × List Char)
  | _, _, _, [] => none
  | place, weight, sum, c :: rest => do
    let d ← value? c
    let t := threshold place bias
    let sum := sum + d * weight
    if d < t then return (sum, rest)
    else decodeNumber? bias (place + 36) (weight * (36 - t)) sum rest

/-- Is there a character of that number? -/
def isCodePoint (n : Nat) : Bool := n < 0xD800 || (0xDFFF < n && n < 0x110000)

/-- Put the characters of the numbers into a label; every number takes at least one digit. -/
def decodePoints? : Nat → Progress → Nat → List Char → List Char → Option (List Char)
  | _, _, _, label, [] => some label
  | 0, _, _, _, _ :: _ => none
  | fuel + 1, p, place, label, cs => do
    let (n, rest) ← decodeNumber? p.bias 36 1 0 cs
    let count := label.length + 1
    let spot := place + n
    let point := p.point + spot / count
    if !isCodePoint point then none
    else
      let i := spot % count
      let label := label.take i ++ Char.ofNat point :: label.drop i
      decodePoints? fuel ⟨point, adapt n count p.first, false⟩ (i + 1) label rest

/-- The label that is written in ASCII. What stands before the last hyphen is ASCII; a hyphen that
    nothing stands before divides nothing, and is no digit either. -/
def decode? (cs : List Char) : Option (List Char) :=
  let back := cs.reverse.takeWhile (· ≠ '-')
  let front := (cs.take (cs.length - back.length)).dropLast
  let digits := if front.isEmpty then cs else back.reverse
  if front.any (128 ≤ ·.toNat) then none
  else decodePoints? cs.length start 0 front digits

end BrowserTelemetry.Punycode
