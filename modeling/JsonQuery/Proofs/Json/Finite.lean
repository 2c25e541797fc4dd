/-
  JsonQuery.Proofs.Json.Finite
  ────────────────────────────
  What JSON text reads as is printable.

  The digits of a number that are kept make a word without sign.  It is scaled by powers
  of ten: a division makes it smaller, and a product that is too large is no number.  So
  every float that is read is finite.
-/
import JsonQuery.Proofs.Json.Read
import JsonQuery.Proofs.Number.Nearest

namespace JsonQuery

open Number

/-! ## §1. Numbers. -/

theorem absorbDigits_lt {significand : Nat} (h : significand < UInt64.size) (ds : List Char) :
    (absorbDigits significand ds).1 < UInt64.size := by
  induction ds generalizing significand with
  | nil => exact h
  | cons d ds ih =>
    unfold absorbDigits
    simp only
    split
    · rename_i hnext
      exact ih hnext
    · exact h

/-- Dividing by a power of ten does not make a float larger. -/
theorem isBelow_div_powerOfTen {x : Float} (hx : IsBelow 65 x) {exponent : Nat}
    (h : 0 < exponent) : IsBelow 65 (x / powerOfTen exponent) :=
  hx.div (k := 64) (isAtLeast_powerOfTen h) (by decide) (by decide) (by decide)

/-- Scaling yields a finite float, if any. -/
theorem isFinite_of_scaleByTen {x y : Float} {exponent : Int} (hx : IsBelow 65 x)
    (h : scaleByTen x exponent = some y) : y.isFinite = true := by
  have hzero : (0.0 : Float).isFinite = true := by decide +kernel
  fun_induction scaleByTen x exponent with
  | case1 x exponent hsmall hx0 =>
    injection h with h
    exact h ▸ hzero
  -- division only makes the number smaller
  | case2 x exponent hsmall hx0 ih => exact ih (isBelow_div_powerOfTen hx (by decide)) h
  | case3 x exponent hsmall hneg =>
    injection h with h
    exact h ▸ (isBelow_div_powerOfTen hx (by omega)).isFinite
  | case4 => cases h
  -- a product is yielded only if it does not overflow
  | case5 x exponent hsmall hneg hlarge product hfits =>
    injection h with h
    subst h
    have hpower : (powerOfTen exponent.natAbs).isFinite = true := isFinite_powerOfTen (by omega)
    exact isFinite_mul hx.isFinite hpower (by simpa using hfits)
  | case6 x exponent hsmall hneg hlarge hx0 =>
    injection h with h
    exact h ▸ hzero
  | case7 => cases h

/-- The float of a number token is finite. -/
theorem isFinite_of_floatOfParts {n : Numeral} {x : Float} (h : floatOfParts n = some x) :
    x.isFinite = true := by
  have hword : (absorbDigits (absorbDigits 0 n.whole).1 n.fraction).1 < UInt64.size :=
    absorbDigits_lt (absorbDigits_lt (by decide) n.whole) n.fraction
  have hnearest : IsBelow 65 (nearestNat (absorbDigits (absorbDigits 0 n.whole).1 n.fraction).1) :=
    isBelow_nearestNat (k := 64) hword (by decide)
  unfold floatOfParts at h
  obtain ⟨y, hy, rfl⟩ := Option.map_eq_some_iff.mp h
  have hfinite := isFinite_of_scaleByTen hnearest hy
  split
  · exact ((isBelow_of_isFinite hfinite).neg (by decide) (by decide)).isFinite
  · exact hfinite

/-! ## §2. Texts. -/

/-- A value that is read is printable. -/
theorem Json.printable_of_read? {text : String} {v : Json} (h : Json.read? text = some v) :
    v.Printable :=
  Json.lawful_of_read? (Token.lawful_of_first fun _ _ => isFinite_of_floatOfParts) h

end JsonQuery
