/-
  JsonQuery.Number.Decimal
  ────────────────────────
  Decimals with a mantissa of 96 bits and at most 28 places, in which lists of numbers
  are added up.  Integers are exact decimals.  A float becomes the decimal it is near to,
  cut to the digits that a float guarantees, so that `0.1 + 0.2` is `0.3`.

  Addition is exact while the aligned mantissa fits; otherwise the sum loses as many
  places as it must, half to even, and an integer that does not fit is an overflow.
-/
import JsonQuery.Number.Numeral

namespace JsonQuery.Number

/-- The number `± mantissa / 10 ^ scale`. -/
structure Decimal where
  negative : Bool
  mantissa : Nat
  scale : Nat
  deriving Repr, DecidableEq

namespace Decimal

/-- Mantissas are below this. -/
def limit : Nat := Nat.pow 2 96

/-- The greatest number of places. -/
def maxScale : Nat := 28

/-- Zero. -/
def zero : Decimal := ⟨false, 0, 0⟩

/-- An integer as a decimal. -/
def ofInt64 (n : Int64) : Decimal := ⟨n.toInt < 0, n.toInt.natAbs, 0⟩

/-- The mantissa with its sign. -/
def signed (d : Decimal) : Int := if d.negative then -(d.mantissa : Int) else d.mantissa

/-! ## §1. Floats as decimals. -/

/-- Drop a digit and round a half up. -/
def dropDigit (n : Nat) : Nat := if 5 ≤ n % 10 then n / 10 + 1 else n / 10

/-- Divide `b · 10 ^ e` by two, `count` times: halve an even `b`; else multiply it by five and take
a tenth; where five times `b` does not fit, halve it and lose the half. -/
def halve : Nat → Nat → Int → Nat × Int
  | 0, b, e => (b, e)
  | count + 1, b, e =>
    if b % 2 = 0 then halve count (b / 2) (e + 1)
    else if 5 * b < limit then halve count (5 * b) e
    else halve count (b / 2) (e + 1)

/-- Divide `b · 10 ^ e` by five, `count` times, by doubling while that fits. When it does not and
the exponent cannot come down any more, the number is too large. -/
def divideByFive : Nat → Nat → Int → Option (Nat × Int)
  | 0, b, e => some (b, e)
  | count + 1, b, e =>
    if b < limit / 2 then divideByFive count (2 * b) (e - 1)
    else if (count + 1 : Int) < 2 * e then none
    else divideByFive count (b / 5) e

/-- Drop digits beyond the greatest number of places, each rounded by itself. -/
def limitScale : Nat → Nat → Nat → Nat × Nat
  | 0, b, scale => (b, scale)
  | excess + 1, b, scale =>
    if b / 10 = 0 then (0, 0) else limitScale excess (dropDigit b) (scale - 1)

/-- Drop places while the mantissa has more than 52 bits. -/
def limitPrecision (b : Nat) : Nat → Nat × Nat
  | 0 => (b, 0)
  | scale + 1 => if Nat.pow 2 52 ≤ b then limitPrecision (dropDigit b) scale else (b, scale + 1)

/-- Drop places that are zero. -/
def stripZeros (b : Nat) : Nat → Nat × Nat
  | 0 => (b, 0)
  | scale + 1 => if b % 10 = 0 then stripZeros (b / 10) scale else (b, scale + 1)

/-- The decimal `b · 10 ^ e` with at most 28 places and 52 bits, without zeros at the end. -/
def fit (negative : Bool) (b : Nat) (e : Int) : Option Decimal :=
  if 0 < e then
    -- a whole number gets its zeros, if they fit
    let whole := b * Nat.pow 10 e.toNat
    if whole < limit then some ⟨negative, whole, 0⟩ else none
  else
    let scale := e.natAbs
    let (b, scale) := limitScale (scale - maxScale) b scale
    let (b, scale) := limitPrecision b scale
    let (b, scale) := stripZeros b scale
    some ⟨negative, b, scale⟩

/-- A float as a decimal, if it is not too large. -/
def ofFloat (x : Float) : Option Decimal := do
  if !x.isFinite then none
  let b := Binary.ofFloat x
  if b.significand = 0 then return zero
  let (mantissa, e) ←
    if b.exponent ≤ 0 then some (halve b.exponent.natAbs b.significand b.exponent)
    else divideByFive b.exponent.toNat b.significand b.exponent
  fit (signBit x) mantissa e

/-! ## §2. Addition. -/

/-- The quotient `n / 10 ^ places`, half to even. -/
def roundPlaces (n places : Nat) : Nat :=
  let unit := Nat.pow 10 places
  let q := n / unit
  let r := n % unit
  if unit < 2 * r || (2 * r == unit && q % 2 == 1) then q + 1 else q

/-- The decimal `± n / 10 ^ scale` with as few places dropped as make the mantissa fit; `dropped`
of them are dropped already. -/
def shorten (negative : Bool) (n dropped : Nat) : Nat → Option Decimal
  | 0 =>
    if roundPlaces n dropped < limit then some ⟨negative, roundPlaces n dropped, 0⟩ else none
  | scale + 1 =>
    if roundPlaces n dropped < limit then some ⟨negative, roundPlaces n dropped, scale + 1⟩
    else shorten negative n (dropped + 1) scale

/-- The mantissa with its sign at a scale that is not less than the decimal's own. -/
def signedAt (d : Decimal) (scale : Nat) : Int := d.signed * (Nat.pow 10 (scale - d.scale) : Nat)

/-- The sum, if it is not too large. -/
def add (a b : Decimal) : Option Decimal :=
  if a.mantissa = 0 then some b
  else if b.mantissa = 0 then some a
  else
    -- both at the greater scale the sum is exact; its mantissa may be too long
    let scale := max a.scale b.scale
    let total := a.signedAt scale + b.signedAt scale
    shorten (decide (total < 0)) total.natAbs 0 scale

/-! ## §3. Back to words and floats. -/

/-- A decimal without places as a word, if it is in range. -/
def toInt64? (d : Decimal) : Option Int64 := if d.scale = 0 then int64? d.signed else none

/-- The magnitude as a float: the whole part plus the fraction, rounded to the decimal's places. -/
def magnitude (d : Decimal) : Float :=
  let unit := Nat.pow 10 d.scale
  let whole := nearestNat (d.mantissa / unit)
  if d.mantissa % unit = 0 then whole
  else
    let tens := nearestNat unit
    roundHalfAway ((whole + nearestNat (d.mantissa % unit) / tens) * tens) / tens

/-- A decimal as a float; zero has no sign. -/
def toFloat (d : Decimal) : Float :=
  if d.negative && d.mantissa != 0 then -d.magnitude else d.magnitude

end Decimal

end JsonQuery.Number
