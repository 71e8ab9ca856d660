/-!
# IPv4 addresses

Up to four numbers with dots between them. A number may be decimal, octal after a `0` or hexadecimal
after `0x`, and the last one fills all bytes that are left.
-/

namespace BrowserTelemetry.Ipv4

set_option autoImplicit false

/-- The value of a digit in a base of at most sixteen. -/
def digit? (base : Nat) (c : Char) : Option Nat :=
  let n :=
    if '0' ≤ c ∧ c ≤ '9' then c.toNat - 48
    else if 'a' ≤ c ∧ c ≤ 'f' then c.toNat - 87
    else if 'A' ≤ c ∧ c ≤ 'F' then c.toNat - 55
    else base
  if n < base then some n else none

/-- The value of digits, none for no digits at all counting as zero. -/
def digits? (base : Nat) (cs : List Char) : Option Nat :=
  cs.foldlM (fun n c => (digit? base c).map (n * base + ·)) 0

/-- The value of one part of an address. -/
def number? : List Char → Option Nat
  | [] => none
  | '0' :: 'x' :: rest | '0' :: 'X' :: rest => digits? 16 rest
  | ['0'] => some 0
  | '0' :: rest => digits? 8 rest
  | cs => digits? 10 cs

/-- The parts of a name; an empty one at the end does not count. -/
def parts (cs : List Char) : List (List Char) :=
  let ps := cs.splitOnP (· = '.')
  if ps.getLast? = some [] then ps.dropLast else ps

/-- Does the last part of the name look like a number? Then it is an address or nothing. -/
def endsInNumber (cs : List Char) : Bool :=
  match (parts cs).getLast? with
  | none => false
  | some last => (!last.isEmpty && last.all Char.isDigit) || (number? last).isSome

/-- The address that a name spells. -/
def parse? (cs : List Char) : Option Nat := do
  let ps := parts cs
  if 4 < ps.length then none
  else
    let ns ← ps.mapM number?
    let last ← ns.getLast?
    let front := ns.dropLast
    if 1 <<< (8 * (4 - front.length)) ≤ last ∨ front.any (255 < ·) then none
    else
      some (front.zipIdx.foldl (fun sum (n, i) => sum + (n <<< (8 * (3 - i)))) last)

/-- The text of an address: its four bytes. -/
def print (a : Nat) : String :=
  ".".intercalate ([3, 2, 1, 0].map fun i => toString ((a >>> (8 * i)) % 256))

end BrowserTelemetry.Ipv4
