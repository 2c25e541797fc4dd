/-
  JsonQuery.Number.Layout
  ───────────────────────
  How the digits of a float are laid out as text.  The digits are always the fewest
  that read back (`shortest`); a `FloatLayout` says which exponents are written
  positionally and how the others are.
-/
import JsonQuery.Number.Shortest

namespace JsonQuery.Number

/-! ## §1. The choices of a format. -/

/-- A format of floats. -/
structure FloatLayout where
  /-- Which of two equally near shortest decimals is written. -/
  tie : Tie
  /-- The least and the greatest exponent of a first digit that are written positionally. -/
  plainFrom : Int
  plainTo : Int
  /-- Whether an exponent that is not negative has a plus sign. -/
  plusSign : Bool
  /-- The least number of digits of an exponent. -/
  exponentWidth : Nat
  /-- The texts of the two values that are no numbers of the line. -/
  nan : String
  infinity : String

/-! ## §2. The two notations. -/

/-- Positional notation; a number without a fraction ends in `.0`. -/
def Scientific.plain (s : Scientific) : String :=
  let ds := Nat.toDigits 10 s.digits
  if s.exponent < 0 then
    "0." ++ String.ofList (List.replicate (s.exponent.natAbs - 1) '0' ++ ds)
  else
    let whole := s.exponent.toNat + 1
    if ds.length ≤ whole then String.ofList (ds ++ List.replicate (whole - ds.length) '0') ++ ".0"
    else String.ofList (ds.take whole) ++ "." ++ String.ofList (ds.drop whole)

/-- Exponent notation: one digit, the others after a point, and the exponent. -/
def Scientific.withExponent (layout : FloatLayout) (s : Scientific) : String :=
  let mantissa := match Nat.toDigits 10 s.digits with
    | d :: e :: rest => String.ofList (d :: '.' :: e :: rest)
    | ds => String.ofList ds
  let sign := if s.exponent < 0 then "-" else if layout.plusSign then "+" else ""
  let ds := Nat.toDigits 10 s.exponent.natAbs
  mantissa ++ "e" ++ sign
    ++ String.ofList (List.replicate (layout.exponentWidth - ds.length) '0' ++ ds)

/-- The text of a positive number in a layout. -/
def Scientific.text (layout : FloatLayout) (s : Scientific) : String :=
  if layout.plainFrom ≤ s.exponent ∧ s.exponent ≤ layout.plainTo then s.plain
  else s.withExponent layout

/-- The text of any float. -/
def FloatLayout.text (layout : FloatLayout) (x : Float) : String :=
  let sign := if signBit x then "-" else ""
  if x.isNaN then layout.nan
  else if x.isInf then sign ++ layout.infinity
  else
    let b := Binary.ofFloat x
    if b.significand = 0 then sign ++ "0.0"
    else sign ++ (shortest layout.tie b).text layout

/-! ## §3. The formats in use. -/

/-- Floats inside JSON text: positional from `1e-5` up to below `1e16`, else a signed exponent. -/
def jsonFloat : FloatLayout :=
  { tie := .toEven, plainFrom := -5, plainTo := 15, plusSign := true, exponentWidth := 1
    nan := "null", infinity := "null" }

/-- Floats as object keys: positional from `1e-4` up to below `1e16`, else a signed exponent of at
least two digits. -/
def keyFloat : FloatLayout :=
  { tie := .up, plainFrom := -4, plainTo := 15, plusSign := true, exponentWidth := 2
    nan := "nan", infinity := "inf" }

/-- Floats inside the description of an array or object: as object keys, but the exponent is
written as it is. -/
def plainFloat : FloatLayout :=
  { tie := .up, plainFrom := -4, plainTo := 15, plusSign := false, exponentWidth := 1
    nan := "NaN", infinity := "inf" }

end JsonQuery.Number
