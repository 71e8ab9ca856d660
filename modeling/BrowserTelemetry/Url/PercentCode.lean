/-!
# Percent codes

A byte in an address may be written as a percent sign and two hexadecimal digits. Which characters
have to be written so depends on where they stand.
-/

namespace BrowserTelemetry.PercentCode

set_option autoImplicit false

/-- The bytes of a character in UTF-8. -/
def bytesOf (c : Char) : List UInt8 := c.toString.toUTF8.toList

/-- An upper-case hexadecimal digit. -/
def digit (n : Nat) : Char := Char.ofNat (if n < 10 then 48 + n else 55 + n)

/-- A byte as a percent code. -/
def ofByte (b : UInt8) : List Char := ['%', digit (b.toNat / 16), digit (b.toNat % 16)]

/-- A character, or the percent codes of its bytes if `special` says so. -/
def encodeChar (special : Char → Bool) (c : Char) : List Char :=
  if special c then (bytesOf c).flatMap ofByte else [c]

/-- A text with its special characters as percent codes. -/
def encode (special : Char → Bool) (cs : List Char) : List Char := cs.flatMap (encodeChar special)

/-- A control character, or one beyond ASCII. -/
def isControl (c : Char) : Bool := c.toNat < 0x20 || 0x7e < c.toNat

/-- A character that a path does not hold as it is. -/
def isPathSpecial (c : Char) : Bool :=
  isControl c || c = ' ' || c = '"' || c = '<' || c = '>' || c = '\x60' || c = '#' || c = '?' ||
    c = '\x7b' || c = '\x7d'

/-- The value of a hexadecimal digit. -/
def value? (c : Char) : Option Nat :=
  if '0' ≤ c ∧ c ≤ '9' then some (c.toNat - 48)
  else if 'a' ≤ c ∧ c ≤ 'f' then some (c.toNat - 87)
  else if 'A' ≤ c ∧ c ≤ 'F' then some (c.toNat - 55)
  else none

/-- The bytes of a text in which percent codes stand for bytes. A percent sign that begins no code
    stands for itself. -/
def decodeBytes : List Char → List UInt8
  | [] => []
  | '%' :: a :: b :: rest =>
    match value? a, value? b with
    | some x, some y => UInt8.ofNat (x * 16 + y) :: decodeBytes rest
    | _, _ => bytesOf '%' ++ decodeBytes (a :: b :: rest)
  | c :: rest => bytesOf c ++ decodeBytes rest

/-- The text with its percent codes decoded, if that is UTF-8. -/
def decode? (cs : List Char) : Option (List Char) :=
  (String.fromUTF8? ⟨(decodeBytes cs).toArray⟩).map String.toList

end BrowserTelemetry.PercentCode
