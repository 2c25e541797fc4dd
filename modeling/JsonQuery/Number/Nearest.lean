/-
  JsonQuery.Number.Nearest
  ────────────────────────
  The binary64 number nearest to a fraction, half to even, in exact `Nat` arithmetic.

  A finite number that is not negative is encoded as the place `e` of its lowest bit,
  counted from `2 ^ -1074` in units of `2 ^ 52`, plus its significand.  A significand
  that is rounded up to the next power of two runs over into the place, so that the sum
  encodes the right number without a further case (`encode`).
-/
import JsonQuery.Number.Binary

namespace JsonQuery.Number

/-! ## §1. Quotients. -/

/-- The quotient `n / d`, half to even. -/
def divideToEven (n d : Nat) : Nat :=
  if d < 2 * (n % d) || (2 * (n % d) == d && n / d % 2 == 1) then n / d + 1 else n / d

/-! ## §2. The nearest number. -/

/-- The encoding of infinity: the first that is no finite number. -/
def infinityBits : Nat := 2047 * Nat.pow 2 52

/-- The number `significand · 2 ^ (place - 1074)`; infinity if it is too large. Below `2 ^ 52` the
significand stands for itself only at place 0. -/
def encode (significand place : Nat) : Float :=
  Float.ofBits (UInt64.ofNat (min infinityBits (place * Nat.pow 2 52 + significand)))

/-- The numerator and denominator of `n / d` in units of `2 ^ (place - 1074)`. -/
def inUnits (n d place : Nat) : Nat × Nat :=
  (n * Nat.pow 2 (1074 - place), d * Nat.pow 2 (place - 1074))

/-- The place that leaves the fraction a significand of 53 bits, or place 0. -/
def placeOf (n d : Nat) : Nat :=
  let guess := 1074 + n.log2 - d.log2 - 53
  let (num, den) := inUnits n d guess
  if num / den < Nat.pow 2 53 then guess else guess + 1

/-- The number nearest to `n / d`, half to even. -/
def nearest (n d : Nat) : Float :=
  let place := if n = 0 then 0 else placeOf n d
  let (num, den) := inUnits n d place
  encode (divideToEven num den) place

/-- The number nearest to a natural number. -/
def nearestNat (n : Nat) : Float := nearest n 1

/-- A power of ten with a natural exponent. -/
def powerOfTen (exponent : Nat) : Float := nearestNat (Nat.pow 10 exponent)

end JsonQuery.Number
