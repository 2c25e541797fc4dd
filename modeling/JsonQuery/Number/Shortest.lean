/-
  JsonQuery.Number.Shortest
  ─────────────────────────
  The decimal with the fewest digits that reads back as a given binary64 number.

  A decimal reads back as `m · 2 ^ q` when it lies between the midpoints to the two
  neighbouring numbers (the midpoints included iff `m` is even).  For 1, 2, … 17
  digits the two points of that decimal grid around the number are tried in exact
  `Nat` arithmetic; the first grid with a hit wins, and of two hits the nearer.
  An exact tie is decided by the caller's `Tie`.
-/
import JsonQuery.Number.Binary

namespace JsonQuery.Number

/-! ## §1. Decimals in scientific form. -/

/-- The number `d₁.d₂…dₙ · 10 ^ exponent`, where `digits` is the natural number `d₁d₂…dₙ`. -/
structure Scientific where
  digits : Nat
  exponent : Int
  deriving Repr, DecidableEq

/-- Which of two equally near decimals is taken. -/
inductive Tie where
  /-- The one whose last digit is even. -/
  | toEven
  /-- The larger one. -/
  | up
  deriving Repr, DecidableEq

/-- How many decimal digits `n` has; one for zero. -/
def decimalLength (n : Nat) : Nat := (Nat.toDigits 10 n).length

/-- The exponent `x` with `10 ^ x ≤ num / den < 10 ^ (x + 1)`, for positive `num` and `den`. -/
def decimalExponent (num den : Nat) : Int :=
  if den ≤ num then (decimalLength (num / den) : Int) - 1
  else -(decimalLength ((den - 1) / num) : Int)

/-! ## §2. The search over grids. -/

/-- The interval of reals that read back as one number, with the number itself: three numerators
over one denominator. -/
structure ReadBack where
  low : Nat
  value : Nat
  high : Nat
  den : Nat
  /-- Whether the ends themselves read back. -/
  closed : Bool

/-- Around `m · 2 ^ q`, in quarters of `2 ^ q`: the upper end is two quarters away, the lower end
two or, just above a power of two, one. -/
def ReadBack.ofBinary (b : Binary) : ReadBack :=
  let q := b.exponent - 2
  let scale := Nat.pow 2 q.toNat
  let m := 4 * b.significand
  { low := (if b.narrowBelow then m - 1 else m - 2) * scale
    value := m * scale
    high := (m + 2) * scale
    den := Nat.pow 2 (-q).toNat
    closed := b.significand % 2 == 0 }

/-- The decimal of `count` digits nearest to the value among those that read back, if any;
`exponent` is that of the value's first digit. -/
def ReadBack.onGrid? (r : ReadBack) (tie : Tie) (exponent : Int) (count : Nat) :
    Option Scientific :=
  let unit := exponent + 1 - count
  let up := Nat.pow 10 (-unit).toNat
  let den := r.den * Nat.pow 10 unit.toNat
  let below := r.value * up / den
  let reads (n : Nat) : Bool :=
    if r.closed then r.low * up ≤ n * den && n * den ≤ r.high * up
    else r.low * up < n * den && n * den < r.high * up
  let toBelow := r.value * up - below * den
  let toAbove := (below + 1) * den - r.value * up
  let pick (n : Nat) : Option Scientific :=
    some (if n = Nat.pow 10 count then ⟨1, exponent + 1⟩ else ⟨n, exponent⟩)
  match reads below, reads (below + 1) with
  | false, false => none
  | true, false => pick below
  | false, true => pick (below + 1)
  | true, true =>
    if toBelow < toAbove then pick below
    else if toAbove < toBelow then pick (below + 1)
    else match tie with
      | .up => pick (below + 1)
      | .toEven => pick (if below % 2 = 0 then below else below + 1)

/-- The fewest digits that read back as the positive number `b`. Seventeen always do. -/
def shortest (tie : Tie) (b : Binary) : Scientific :=
  let r := ReadBack.ofBinary b
  let exponent := decimalExponent r.value r.den
  ((List.range 17).findSome? fun n => r.onGrid? tie exponent (n + 1)).getD ⟨0, exponent⟩

end JsonQuery.Number
