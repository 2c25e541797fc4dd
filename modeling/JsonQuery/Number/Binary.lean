/-
  JsonQuery.Number.Binary
  ───────────────────────
  What a finite `Float` is as a number: a natural significand times a power of two.
  The shortest decimal text and exact decimal sums both start from here, so that they
  can be computed in `Nat` and `Int` without rounding.
-/

namespace JsonQuery.Number

/-- The magnitude `significand · 2 ^ exponent` of a finite binary64 number. -/
structure Binary where
  significand : Nat
  exponent : Int
  /-- The next smaller number is only half as far away as the next larger one: the number is a
  power of two and not among the smallest. -/
  narrowBelow : Bool
  deriving Repr, DecidableEq

/-- The magnitude read off the exponent and fraction fields of the encoding. -/
def Binary.ofFloat (x : Float) : Binary :=
  let bits : Nat := x.toBits.toNat
  let fraction : Nat := bits % Nat.pow 2 52
  let field : Nat := bits / Nat.pow 2 52 % Nat.pow 2 11
  if field = 0 then ⟨fraction, -1074, false⟩
  else ⟨Nat.pow 2 52 + fraction, (field : Int) - 1075, fraction == 0 && 1 < field⟩

/-- The sign bit, set for `-0.0` too. -/
def signBit (x : Float) : Bool := x.toBits >>> 63 == 1

/-- A word as the nearest double; half-way cases go to the even neighbour. -/
def ofInt64 (n : Int64) : Float :=
  if 0 ≤ n.toInt then Float.ofNat n.toInt.toNat else -Float.ofNat (-n.toInt).toNat

/-- The nearest integer, halves away from zero; the sign of zero is kept, and numbers without a
fraction (infinities and NaN among them) are left as they are. -/
def roundHalfAway (x : Float) : Float :=
  let b := Binary.ofFloat x
  if 0 ≤ b.exponent then x
  else
    let unit := Nat.pow 2 b.exponent.natAbs
    let whole := (2 * b.significand + unit) / (2 * unit)
    if signBit x then -Float.ofNat whole else Float.ofNat whole

end JsonQuery.Number
