/-!
# IPv6 addresses

Eight pieces of 16 bits in hexadecimal with colons between them. Two colons in a row stand for as
many zeros as are missing, once; the last two pieces may be written as four decimal bytes.
-/

namespace BrowserTelemetry.Ipv6

set_option autoImplicit false

/-- The value of a hexadecimal digit. -/
def digit? (c : Char) : Option Nat :=
  if '0' ≤ c ∧ c ≤ '9' then some (c.toNat - 48)
  else if 'a' ≤ c ∧ c ≤ 'f' then some (c.toNat - 87)
  else if 'A' ≤ c ∧ c ≤ 'F' then some (c.toNat - 55)
  else none

/-- The pieces read so far, the latest first, and how many stood before the double colon. -/
structure Pieces where
  reversed : List Nat
  gap : Option Nat
  deriving Repr, DecidableEq

/-- A byte in decimal, without leading zeros. -/
def byte? (cs : List Char) : Option Nat :=
  match cs with
  | [] => none
  | ['0'] => some 0
  | '0' :: _ => none
  | _ =>
    if cs.all Char.isDigit ∧ cs.length ≤ 3 then
      some (cs.foldl (fun n c => n * 10 + (c.toNat - 48)) 0) |>.filter (· ≤ 255)
    else none

/-- Two pieces written as four bytes. -/
def embedded? (cs : List Char) : Option (Nat × Nat) :=
  match (cs.splitOnP (· = '.')).mapM byte? with
  | some [a, b, c, d] => some (a * 256 + b, c * 256 + d)
  | _ => none

/-- Read pieces as long as `room` of them are left. -/
def read? : Nat → Pieces → List Char → Option Pieces
  | _, p, [] => some p
  | 0, _, _ :: _ => none
  | room + 1, p, ':' :: rest =>
    if p.gap.isSome then none
    else read? room ⟨0 :: p.reversed, some (p.reversed.length + 1)⟩ rest
  | room + 1, p, cs =>
    let ds := (cs.take 4).takeWhile fun c => (digit? c).isSome
    let value := ds.foldl (fun n c => n * 16 + (digit? c).getD 0) 0
    let read := { p with reversed := value :: p.reversed }
    match cs.drop ds.length with
    | [] => some read
    | [':'] => none
    | ':' :: rest => read? room read rest
    | '.' :: _ =>
      if ds.isEmpty ∨ room = 0 then none
      else
        (embedded? cs).map fun (high, low) => { p with reversed := low :: high :: p.reversed }
    | _ => none

/-- The eight pieces, with zeros at the double colon. -/
def Pieces.fill? (p : Pieces) : Option (List Nat) :=
  let ps := p.reversed.reverse
  match p.gap with
  | none => if ps.length = 8 then some ps else none
  | some gap => some (ps.take gap ++ List.replicate (8 - ps.length) 0 ++ ps.drop gap)

/-- The address that a text spells. -/
def parse? (cs : List Char) : Option (List Nat) :=
  match cs with
  | [] | [_] => none
  | ':' :: ':' :: rest => (read? 7 ⟨[0], some 1⟩ rest).bind Pieces.fill?
  | ':' :: _ => none
  | _ => (read? 8 ⟨[], none⟩ cs).bind Pieces.fill?

/-- The length of the run of zeros at the beginning. -/
def zeros (ps : List Nat) : Nat := (ps.takeWhile (· = 0)).length

/-- Where the longest run of at least two zeros begins, and its length; the first of several. -/
def longestRun (ps : List Nat) : Option (Nat × Nat) :=
  (List.range ps.length).foldl (fun best i =>
    let n := zeros (ps.drop i)
    if (best.map Prod.snd).getD 1 < n then some (i, n) else best) none

/-- Pieces in hexadecimal with colons between them. -/
def join (ps : List Nat) : String :=
  ":".intercalate (ps.map fun n => String.ofList (Nat.toDigits 16 n))

/-- The text of an address. -/
def print (ps : List Nat) : String :=
  match longestRun ps with
  | none => join ps
  | some (start, n) => join (ps.take start) ++ "::" ++ join (ps.drop (start + n))

end BrowserTelemetry.Ipv6
