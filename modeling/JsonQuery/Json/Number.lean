/-
  JsonQuery.Json.Number
  ─────────────────────
  Number tokens of JSON text and the values they stand for.

  A token without fraction and exponent that fits a 64-bit word is an integer, `-0`
  apart; every other token is a float.  Floats are not read to the nearest double:
  the digits that fit 64 bits are scaled by one power of ten (`floatOfParts`), and a
  number that is too large is an error.
-/
import JsonQuery.Json.Basic
import JsonQuery.Number.Numeral

namespace JsonQuery

open Number

/-! ## §1. The parts of a token. -/

/-- The parts of a number token. -/
structure Numeral where
  negative : Bool
  /-- The digits before the point: no leading zero, except that a lone zero is allowed. -/
  whole : List Char
  /-- The digits after the point, none if there is no point. -/
  fraction : List Char
  exponent : Option Int

namespace Numeral

/-- A fraction after the whole digits, and its length in characters with the point. -/
def readFraction : List Char → Option (List Char × Nat)
  | '.' :: rest =>
    let ds := rest.takeWhile Char.isDigit
    if ds.isEmpty then none else some (ds, ds.length + 1)
  | _ => some ([], 0)

/-- An exponent, and its length in characters with its mark and sign. -/
def readExponent : List Char → Option (Option Int × Nat)
  | [] => some (none, 0)
  | mark :: rest =>
    if mark == 'e' || mark == 'E' then
      let (negative, after) := splitSign rest
      let ds := after.takeWhile Char.isDigit
      let n : Int := digitsValue ds
      if ds.isEmpty then none
      else some (some (if negative then -n else n), 1 + (rest.length - after.length) + ds.length)
    else some (none, 0)

/-- The token at the start of the text, and its length. -/
def read (text : List Char) : Option (Numeral × Nat) := do
  let negative := text.head? == some '-'
  let body := if negative then text.drop 1 else text
  let whole := body.takeWhile Char.isDigit
  if whole.isEmpty || (whole.head? == some '0' && 1 < whole.length) then none else
  let rest := body.drop whole.length
  let (fraction, fractionLength) ← readFraction rest
  let (exponent, exponentLength) ← readExponent (rest.drop fractionLength)
  some (⟨negative, whole, fraction, exponent⟩,
    negative.toNat + whole.length + fractionLength + exponentLength)

end Numeral

/-! ## §2. The value of a token. -/

/-- Digits taken into a significand as long as it stays below `2 ^ 64`, and how many were taken. -/
def absorbDigits (significand : Nat) : List Char → Nat × Nat
  | [] => (significand, 0)
  | d :: ds =>
    let next := 10 * significand + (d.toNat - '0'.toNat)
    if next < UInt64.size then
      let (result, taken) := absorbDigits next ds
      (result, taken + 1)
    else (significand, 0)

/-- Scale by a power of ten in one operation; below the range, `1e308` is divided out first. Too
large a result is none. -/
def scaleByTen (x : Float) (exponent : Int) : Option Float :=
  if exponent < -308 then
    if x == 0.0 then some 0.0 else scaleByTen (x / powerOfTen 308) (exponent + 308)
  else if exponent < 0 then some (x / powerOfTen exponent.natAbs)
  else if exponent ≤ 308 then
    let y := x * powerOfTen exponent.natAbs
    if y.isInf then none else some y
  else if x == 0.0 then some 0.0
  else none
termination_by (-exponent).toNat

/-- The float of a token: whole digits beyond the significand only count, fraction digits beyond it
are dropped. -/
def floatOfParts (n : Numeral) : Option Float :=
  -- fraction digits may still fit where a whole digit did not
  let (high, wholeTaken) := absorbDigits 0 n.whole
  let (significand, fractionTaken) := absorbDigits high n.fraction
  let exponent := n.exponent.getD 0 + (n.whole.length - wholeTaken : Nat) - fractionTaken
  (scaleByTen (nearestNat significand) exponent).map fun x => if n.negative then -x else x

/-- The value of a token, if it is not too large. -/
def Numeral.value (n : Numeral) : Option Json :=
  let magnitude : Int := digitsValue n.whole
  let word := if n.negative then -magnitude else magnitude
  if n.fraction.isEmpty && n.exponent.isNone && !(n.negative && magnitude == 0) then
    match int64? word with
    | some w => some (.int w)
    | none => (floatOfParts n).map .float
  else (floatOfParts n).map .float

end JsonQuery
