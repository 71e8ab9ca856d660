/-!
# Double-precision numbers, exactly

A finite double is `m · 2^e` for whole `m` and `e`. Rounding a quotient to the nearest double is
then arithmetic on whole numbers, and so is finding the shortest decimal that reads back: nothing
here goes through the machine's floating point.

Only magnitudes are treated; a sign is carried beside them by whoever has one.
-/

namespace BrowserTelemetry

set_option autoImplicit false

/-- The magnitude of a finite double: `mantissa · 2^exponent`. -/
structure Binary64 where
  mantissa : Nat
  exponent : Int
  deriving Repr, DecidableEq, Inhabited

namespace Binary64

/-- Zero. -/
def zero : Binary64 := ⟨0, 0⟩

/-- `n · 2^k`, as a numerator and a denominator. -/
def scale (n : Nat) (k : Int) : Nat × Nat :=
  if 0 ≤ k then (n <<< k.toNat, 1) else (n, 1 <<< (-k).toNat)

/-- The number as a numerator and a denominator. -/
def ratio (x : Binary64) : Nat × Nat := scale x.mantissa x.exponent

/-- The quotient rounded to the nearest whole number, a half to the even neighbour. -/
def roundHalfEven (num den : Nat) : Nat :=
  let q := num / den
  let twice := 2 * (num % den)
  if twice < den then q
  else if twice = den then (if q % 2 = 0 then q else q + 1)
  else q + 1

/-- The spacing exponent of the doubles around `num / den`: 53 significant bits, but never below
    the spacing of the smallest doubles. -/
def spacing (num den : Nat) : Int :=
  let guess : Int := (Nat.log2 num : Int) - (Nat.log2 den : Int) - 52
  -- `guess` is the spacing or one more than it
  let (n, d) := scale 1 (52 + guess)
  let s := if num * d < n * den then guess - 1 else guess
  max s (-1074)

/-- The double nearest to `num / den`; `none` when it lies beyond the largest one. -/
def nearest (num den : Nat) : Option Binary64 :=
  if num = 0 then some zero
  else
    let e := spacing num den
    let (n, d) := scale 1 e
    let m := roundHalfEven (num * d) (den * n)
    let x : Binary64 := if m = 1 <<< 53 then ⟨1 <<< 52, e + 1⟩ else ⟨m, e⟩
    if 971 < x.exponent then none else some x

/-- The double nearest to a whole number. -/
def ofNat (n : Nat) : Option Binary64 := nearest n 1

/-- The rounded product. -/
def mul (x y : Binary64) : Option Binary64 :=
  let (a, b) := x.ratio
  let (c, d) := y.ratio
  nearest (a * c) (b * d)

/-- The rounded quotient. -/
def div (x y : Binary64) : Option Binary64 :=
  let (a, b) := x.ratio
  let (c, d) := y.ratio
  nearest (a * d) (b * c)

/-! ## Shortest decimals -/

/-- A decimal: `digits · 10^exponent`. -/
structure Decimal where
  digits : Nat
  exponent : Int
  deriving Repr, DecidableEq, Inhabited

/-- Does `n · 10^p` lie among the reals that round to the double? The ends belong to it exactly
    when its mantissa is even, and below a power of two the spacing is halved. -/
def readsBack (x : Binary64) (n : Nat) (p : Int) : Bool :=
  -- everything in quarters of the spacing
  let below : Nat := if x.mantissa = 1 <<< 52 ∧ -1074 < x.exponent then 1 else 2
  let (u, v) := scale 1 (x.exponent - 2)
  let (a, b) : Nat × Nat :=
    if 0 ≤ p then (n * Nat.pow 10 p.toNat, 1) else (n, Nat.pow 10 (-p).toNat)
  let value := a * v
  let low := (4 * x.mantissa - below) * u * b
  let high := (4 * x.mantissa + 2) * u * b
  if x.mantissa % 2 = 0 then low ≤ value ∧ value ≤ high else low < value ∧ value < high

/-- The number of decimal digits of the whole part of `num / den`, or minus the number of zeros
    after the point: `10^(k-1) ≤ num / den < 10^k`. -/
def magnitude (num den : Nat) : Int :=
  -- one decimal digit is more than 3.3 bits, so this starts within two of the answer
  let guess : Int := ((Nat.log2 num : Int) - (Nat.log2 den : Int)) * 30103 / 100000 - 1
  let atLeast (k : Int) : Bool :=
    if 0 ≤ k then den * Nat.pow 10 k.toNat ≤ num else den ≤ num * Nat.pow 10 (-k).toNat
  let rec climb : Nat → Int → Int
    | 0, k => k
    | fuel + 1, k => if atLeast k then climb fuel (k + 1) else k
  climb 5 guess

/-- The two neighbours of the double on the grid of decimals with `count` digits, the nearer one
    first. -/
def neighbours (x : Binary64) (count : Nat) : List Decimal :=
  let (num, den) := x.ratio
  let p : Int := magnitude num den - count
  let (a, b) : Nat × Nat :=
    if 0 ≤ p then (num, den * Nat.pow 10 p.toNat) else (num * Nat.pow 10 (-p).toNat, den)
  let q := a / b
  let lower : Decimal := ⟨q, p⟩
  let upper : Decimal := ⟨q + 1, p⟩
  if 2 * (a % b) ≤ b then [lower, upper] else [upper, lower]

/-- Trailing zeros moved into the exponent. -/
def Decimal.trim : Nat → Decimal → Decimal
  | 0, d => d
  | fuel + 1, d =>
    if d.digits ≠ 0 ∧ d.digits % 10 = 0 then trim fuel ⟨d.digits / 10, d.exponent + 1⟩ else d

/-- The shortest decimal that reads back as the double; of several the nearest. Seventeen digits
    always suffice. -/
def shortest (x : Binary64) : Decimal :=
  let tries := (List.range 17).flatMap fun i => x.neighbours (i + 1)
  ((tries.find? fun d => x.readsBack d.digits d.exponent).getD ⟨0, 0⟩).trim 20

/-! ## Text -/

/-- The decimal digits of a whole number. -/
def digitsOf (n : Nat) : String := String.ofList (Nat.toDigits 10 n)

/-- A decimal in the form messages show it: positional from `1e-5` up to `1e16`, always with a
    point, and with a signed exponent outside. -/
def Decimal.toText (d : Decimal) : String :=
  let ds := Nat.toDigits 10 d.digits
  let point : Int := d.exponent + ds.length
  if 0 ≤ d.exponent ∧ point ≤ 16 then
    String.ofList (ds ++ List.replicate d.exponent.toNat '0') ++ ".0"
  else if 0 < point ∧ point ≤ 16 then
    String.ofList (ds.take point.toNat) ++ "." ++ String.ofList (ds.drop point.toNat)
  else if -5 < point ∧ point ≤ 0 then
    "0." ++ String.ofList (List.replicate (-point).toNat '0' ++ ds)
  else
    let e := point - 1
    let sign := if e < 0 then "-" else "+"
    let fraction := if ds.length = 1 then "" else "." ++ String.ofList (ds.drop 1)
    String.ofList (ds.take 1) ++ fraction ++ "e" ++ sign ++ digitsOf e.natAbs

/-- The number as messages show it. -/
def toText (x : Binary64) : String :=
  if x.mantissa = 0 then "0.0" else x.shortest.toText

end Binary64

end BrowserTelemetry
