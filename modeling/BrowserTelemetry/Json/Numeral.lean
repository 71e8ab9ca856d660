import BrowserTelemetry.Json.Document

/-!
# Numerals

The value of a number as it is spelled. A significand is gathered in 64 bits: digits of the whole
part that no longer fit only scale the number, digits after the point that no longer fit are
dropped. What has a point, an exponent or more than 64 bits becomes a double by one rounding of
the significand and one multiplication or division by a power of ten, so it is not always the
nearest one.
-/

namespace BrowserTelemetry

set_option autoImplicit false

/-- The parts of a spelled number; digits are `0` to `9`. -/
structure Numeral where
  negative : Bool
  whole : List Nat
  /-- The digits after the point, if there is one. -/
  fraction : Option (List Nat)
  /-- The sign (`true`: minus) and the digits of the exponent, if there is one. -/
  exponent : Option (Bool × List Nat)
  deriving Repr, DecidableEq, Inhabited

namespace Numeral

/-- The largest significand. -/
def maxSignificand : Nat := UInt64.size - 1

/-- A significand and the power of ten it is to be multiplied by. -/
structure Scaled where
  significand : Nat
  power : Int
  /-- Digits were left out. -/
  full : Bool
  deriving Repr, DecidableEq, Inhabited

/-- One more digit of the whole part. -/
def Scaled.wholeDigit (s : Scaled) (d : Nat) : Scaled :=
  if s.full then { s with power := s.power + 1 }
  else if s.significand * 10 + d ≤ maxSignificand then
    { s with significand := s.significand * 10 + d }
  else { s with power := s.power + 1, full := true }

/-- The digits after the point, as long as they fit. -/
def Scaled.fractionDigits (s : Scaled) : List Nat → Scaled
  | [] => s
  | d :: rest =>
    if s.significand * 10 + d ≤ maxSignificand then
      fractionDigits { s with significand := s.significand * 10 + d, power := s.power - 1 } rest
    else s

/-- The whole part. -/
def scaledWhole (ds : List Nat) : Scaled := ds.foldl Scaled.wholeDigit ⟨0, 0, false⟩

/-- `10^k` as a double. -/
def powerOfTen (k : Nat) : Option Binary64 := Binary64.ofNat (Nat.pow 10 k)

/-- `f · 10^power`: powers beyond the range of doubles are divided off in steps of `10^308`. -/
def applyPower : Nat → Binary64 → Int → Option Binary64
  | 0, f, _ => some f
  | fuel + 1, f, power =>
    if power.natAbs ≤ 308 then
      match powerOfTen power.natAbs with
      | none => none
      | some p => if 0 ≤ power then f.mul p else f.div p
    else if f.mantissa = 0 then some f
    else if 0 ≤ power then none
    else
      match powerOfTen 308 with
      | none => none
      | some p =>
        match f.div p with
        | none => none
        | some g => applyPower fuel g (power + 308)

/-- A double from its parts; three divisions by `10^308` leave nothing of any significand. -/
def real (negative : Bool) (significand : Nat) (power : Int) : Number :=
  match (Binary64.ofNat significand).bind fun f => applyPower 4 f power with
  | some x => .real negative x
  | none => .tooLarge

/-- The value of the digits of an exponent. -/
def exponentValue (ds : List Nat) : Nat := ds.foldl (fun n d => n * 10 + d) 0

/-- The value of a numeral. -/
def value (n : Numeral) : Number :=
  let s := scaledWhole n.whole
  match n.fraction, n.exponent with
  | none, none =>
    if s.full then real n.negative s.significand s.power
    else if n.negative then
      if s.significand = 0 ∨ -(s.significand : Int) < Int64.minValue.toInt then
        real true s.significand 0
      else .integer (-(s.significand : Int))
    else .integer s.significand
  | fraction, exponent =>
    let t := s.fractionDigits (fraction.getD [])
    match exponent with
    | none => real n.negative t.significand t.power
    | some (minus, ds) =>
      let e := exponentValue ds
      if e ≤ Int32.maxValue.toInt then
        real n.negative t.significand (if minus then t.power - e else t.power + e)
      else if t.significand ≠ 0 ∧ !minus then .tooLarge
      else .real n.negative .zero

end Numeral

end BrowserTelemetry
