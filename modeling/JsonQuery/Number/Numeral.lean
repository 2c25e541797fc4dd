/-
  JsonQuery.Number.Numeral
  ────────────────────────
  Reading numbers from text that holds nothing else: whole words (`readInt64`) and
  floats (`readFloat`).  A float is the number nearest to the written decimal, half
  to even; infinities and NaN have names.
-/
import JsonQuery.Number.Nearest
import JsonQuery.Number.Shortest

namespace JsonQuery.Number

/-! ## §1. Digits and signs. -/

/-- The number that a run of decimal digits writes. -/
def digitsValue (ds : List Char) : Nat := ds.foldl (fun n c => 10 * n + (c.toNat - '0'.toNat)) 0

/-- An optional sign, and the text after it. -/
def splitSign : List Char → Bool × List Char
  | '-' :: rest => (true, rest)
  | '+' :: rest => (false, rest)
  | text => (false, text)

/-! ## §2. Integers. -/

/-- The integer `n` as a word, if it is in range. -/
def int64? (n : Int) : Option Int64 :=
  if Int64.minValue.toInt ≤ n ∧ n ≤ Int64.maxValue.toInt then some (Int64.ofInt n) else none

/-- A word: an optional sign and at least one digit, nothing else, in range. -/
def readInt64 (text : List Char) : Option Int64 :=
  let (negative, ds) := splitSign text
  if ds.isEmpty || !ds.all Char.isDigit then none
  else int64? (if negative then -(digitsValue ds : Int) else digitsValue ds)

/-! ## §3. Floats. -/

/-- The double nearest to `digits · 10 ^ exponent`, half to even. Exponents far outside the range
are cut short: the result is then infinite or zero whatever the digits are. -/
def nearestFloat (digits : Nat) (exponent : Int) : Float :=
  let size := exponent + decimalLength digits
  if digits = 0 || size < -400 then 0.0
  else if 400 < size then 1.0 / 0.0
  else if exponent < 0 then nearest digits (Nat.pow 10 exponent.natAbs)
  else nearestNat (digits * Nat.pow 10 exponent.natAbs)

/-- The exponent part of a float: nothing, or a mark, an optional sign and at least one digit. -/
def readExponent : List Char → Option Int
  | [] => some 0
  | mark :: rest =>
    let (negative, ds) := splitSign rest
    if (mark != 'e' && mark != 'E') || ds.isEmpty || !ds.all Char.isDigit then none
    else some (if negative then -(digitsValue ds : Int) else digitsValue ds)

/-- A float without its sign: a name, or digits with an optional point before, among or after them
and an optional exponent. -/
def readMagnitude (text : List Char) : Option Float :=
  let name := text.map Char.toLower
  if name = "inf".toList || name = "infinity".toList then some (1.0 / 0.0)
  else if name = "nan".toList then some (0.0 / 0.0)
  else
    let whole := text.takeWhile Char.isDigit
    let rest := text.dropWhile Char.isDigit
    let (fraction, rest) := match rest with
      | '.' :: rest => (rest.takeWhile Char.isDigit, rest.dropWhile Char.isDigit)
      | rest => ([], rest)
    if whole.isEmpty && fraction.isEmpty then none
    else (readExponent rest).map fun exponent =>
      nearestFloat (digitsValue (whole ++ fraction)) (exponent - fraction.length)

/-- A float with its optional sign. -/
def readFloat (text : List Char) : Option Float :=
  let (negative, body) := splitSign text
  (readMagnitude body).map fun x => if negative then -x else x

/-- A float that is finite. -/
def readFinite (text : List Char) : Option Float := (readFloat text).filter Float.isFinite

end JsonQuery.Number
