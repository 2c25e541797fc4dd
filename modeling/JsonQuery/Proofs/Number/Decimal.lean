/-
  JsonQuery.Proofs.Number.Decimal
  ───────────────────────────────
  Decimals stay within their mantissa and places, and have finite floats.

  Every step of the arithmetic checks the mantissa against its limit and drops places
  beyond the greatest number of them, so each decimal that is computed fits
  (`Decimal.Fits`).  One that fits is far below the greatest float, and all intermediate
  results of its conversion are, too.
-/
import JsonQuery.Number.Decimal
import JsonQuery.Proofs.Number.Nearest

namespace JsonQuery.Number

namespace Decimal

/-! ## §1. Decimals that fit. -/

/-- The mantissa is below its limit, and there are no more places than allowed. -/
structure Fits (d : Decimal) : Prop where
  mantissa : d.mantissa < limit
  scale : d.scale ≤ maxScale

theorem fits_zero : zero.Fits := ⟨by decide, by decide⟩

theorem fits_ofInt64 (n : Int64) : (ofInt64 n).Fits := by
  have hlow := n.minValue_le_toInt
  have hhigh := n.toInt_le
  have hmin : Int64.minValue.toInt = -9223372036854775808 := rfl
  have hmax : Int64.maxValue.toInt = 9223372036854775807 := rfl
  refine ⟨?_, Nat.zero_le _⟩
  show n.toInt.natAbs < 79228162514264337593543950336
  omega

/-! ## §2. Floats as decimals. -/

theorem halve_lt {count b : Nat} {e : Int} (h : b < limit) : (halve count b e).1 < limit := by
  induction count generalizing b e with
  | zero => exact h
  | succ count ih =>
    have hhalf : b / 2 < limit := Nat.lt_of_le_of_lt (Nat.div_le_self b 2) h
    unfold halve
    split
    · exact ih hhalf
    · split
      · rename_i hfits
        exact ih hfits
      · exact ih hhalf

theorem divideByFive_lt {count b b' : Nat} {e e' : Int} (h : b < limit)
    (hdivide : divideByFive count b e = some (b', e')) : b' < limit := by
  induction count generalizing b e with
  | zero =>
    injection hdivide with hdivide
    injection hdivide with hb
    exact hb ▸ h
  | succ count ih =>
    unfold divideByFive at hdivide
    split at hdivide
    · rename_i hfits
      exact ih (by omega) hdivide
    · split at hdivide
      · cases hdivide
      · exact ih (Nat.lt_of_le_of_lt (Nat.div_le_self b 5) h) hdivide

theorem dropDigit_le {b : Nat} (h : 1 < b) : dropDigit b ≤ b := by
  unfold dropDigit
  split <;> omega

/-- As many digits are dropped as there are places too many. -/
theorem limitScale_fits {b : Nat} (excess scale : Nat) (h : b < limit)
    (hscale : scale ≤ excess + maxScale) :
    (limitScale excess b scale).1 < limit ∧ (limitScale excess b scale).2 ≤ maxScale := by
  induction excess generalizing b scale with
  | zero => exact ⟨h, by rwa [Nat.zero_add] at hscale⟩
  | succ excess ih =>
    unfold limitScale
    split
    · exact ⟨by decide, by decide⟩
    · have hle := dropDigit_le (b := b) (by omega)
      exact ih _ (by omega) (by omega)

theorem limitPrecision_fits {b scale : Nat} (h : b < limit) (hscale : scale ≤ maxScale) :
    (limitPrecision b scale).1 < limit ∧ (limitPrecision b scale).2 ≤ maxScale := by
  induction scale generalizing b with
  | zero => exact ⟨h, hscale⟩
  | succ scale ih =>
    unfold limitPrecision
    split
    · rename_i hlarge
      have hlarge : 4503599627370496 ≤ b := hlarge
      have hle := dropDigit_le (b := b) (by omega)
      exact ih (by omega) (by omega)
    · exact ⟨h, hscale⟩

theorem stripZeros_fits {b scale : Nat} (h : b < limit) (hscale : scale ≤ maxScale) :
    (stripZeros b scale).1 < limit ∧ (stripZeros b scale).2 ≤ maxScale := by
  induction scale generalizing b with
  | zero => exact ⟨h, hscale⟩
  | succ scale ih =>
    unfold stripZeros
    split
    · exact ih (Nat.lt_of_le_of_lt (Nat.div_le_self b 10) h) (by omega)
    · exact ⟨h, hscale⟩

theorem fits_fit {negative : Bool} {b : Nat} {e : Int} {d : Decimal} (h : b < limit)
    (hfit : fit negative b e = some d) : d.Fits := by
  unfold fit at hfit
  split at hfit
  · simp only at hfit
    split at hfit
    · rename_i hlt
      injection hfit with hfit
      subst hfit
      exact ⟨hlt, Nat.zero_le _⟩
    · cases hfit
  · injection hfit with hfit
    subst hfit
    obtain ⟨hb, hscale⟩ := limitScale_fits (e.natAbs - maxScale) e.natAbs h (by omega)
    obtain ⟨hb, hscale⟩ := limitPrecision_fits hb hscale
    exact ⟨(stripZeros_fits hb hscale).1, (stripZeros_fits hb hscale).2⟩

end Decimal

/-- The significand of a float has 53 bits. -/
theorem Binary.significand_lt (x : Float) : (Binary.ofFloat x).significand < Nat.pow 2 53 := by
  have hfraction : x.toBits.toNat % Nat.pow 2 52 < Nat.pow 2 52 := Nat.mod_lt _ (by decide)
  have hpow : Nat.pow 2 53 = Nat.pow 2 52 + Nat.pow 2 52 := rfl
  unfold Binary.ofFloat
  simp only
  split
  · show x.toBits.toNat % Nat.pow 2 52 < _
    omega
  · show Nat.pow 2 52 + x.toBits.toNat % Nat.pow 2 52 < _
    omega

namespace Decimal

theorem fits_ofFloat {x : Float} {d : Decimal} (h : ofFloat x = some d) : d.Fits := by
  have hsignificand : (Binary.ofFloat x).significand < limit :=
    Nat.lt_trans (Binary.significand_lt x) (by decide)
  unfold ofFloat at h
  simp only at h
  split at h
  · cases h
  · split at h
    · injection h with h
      exact h ▸ fits_zero
    · split at h
      · exact fits_fit (halve_lt hsignificand) h
      · obtain ⟨⟨b, e⟩, hdivide, h⟩ := Option.bind_eq_some_iff.mp h
        exact fits_fit (divideByFive_lt hsignificand hdivide) h

/-! ## §3. Addition. -/

theorem fits_shorten {negative : Bool} {n dropped scale : Nat} {d : Decimal}
    (hscale : scale ≤ maxScale) (h : shorten negative n dropped scale = some d) : d.Fits := by
  induction scale generalizing dropped with
  | zero =>
    unfold shorten at h
    split at h
    · rename_i hlt
      injection h with h
      subst h
      exact ⟨hlt, hscale⟩
    · cases h
  | succ scale ih =>
    unfold shorten at h
    split at h
    · rename_i hlt
      injection h with h
      subst h
      exact ⟨hlt, hscale⟩
    · -- too many digits still: one place less
      exact ih (by omega) h

theorem fits_add {a b d : Decimal} (ha : a.Fits) (hb : b.Fits) (h : a.add b = some d) :
    d.Fits := by
  unfold add at h
  split at h
  · injection h with h
    exact h ▸ hb
  · split at h
    · injection h with h
      exact h ▸ ha
    · exact fits_shorten (Nat.max_le.mpr ⟨ha.scale, hb.scale⟩) h

/-! ## §4. Decimals as floats. -/

theorem isBelow_roundHalfAway {k : Int} {x : Float} (h : IsBelow k x) (hk : 56 ≤ k) :
    IsBelow k (roundHalfAway x) := by
  unfold roundHalfAway
  simp only
  split
  · exact h
  · rename_i hexponent
    have hsignificand : (Binary.ofFloat x).significand < 9007199254740992 :=
      Binary.significand_lt x
    -- halving at least once leaves room for rounding up
    have hunit : 2 ≤ Nat.pow 2 (Binary.ofFloat x).exponent.natAbs :=
      Nat.le_self_pow (by omega) 2
    have hwhole :
        (2 * (Binary.ofFloat x).significand + Nat.pow 2 (Binary.ofFloat x).exponent.natAbs)
          / (2 * Nat.pow 2 (Binary.ofFloat x).exponent.natAbs) < Nat.pow 2 53 := by
      refine Nat.div_lt_of_lt_mul ?_
      show _ < _ * 9007199254740992
      omega
    split
    · exact ((isBelow_ofNat hwhole).neg (by decide) (by decide)).mono hk
    · exact (isBelow_ofNat hwhole).mono hk

theorem isBelow_magnitude {d : Decimal} (h : d.Fits) : IsBelow 300 d.magnitude := by
  have hunit : Nat.pow 10 d.scale < Nat.pow 2 94 :=
    Nat.lt_of_le_of_lt (Nat.pow_le_pow_right (by decide) h.scale) (by decide)
  have hpos : 0 < Nat.pow 10 d.scale := Nat.pow_pos (by decide)
  have hwhole : IsBelow 97 (nearestNat (d.mantissa / Nat.pow 10 d.scale)) :=
    isBelow_nearestNat (Nat.lt_of_le_of_lt (Nat.div_le_self _ _) h.mantissa) (by decide)
  unfold magnitude
  simp only
  split
  · -- a whole number
    exact hwhole.mono (by decide)
  · have htens : IsBelow 95 (nearestNat (Nat.pow 10 d.scale)) :=
      isBelow_nearestNat hunit (by decide)
    have htens' : IsAtLeast 0 (nearestNat (Nat.pow 10 d.scale)) :=
      isAtLeast_nearestNat (k := 0) hpos
    have hrest : IsBelow 95 (nearestNat (d.mantissa % Nat.pow 10 d.scale)) :=
      isBelow_nearestNat (Nat.lt_trans (Nat.mod_lt _ hpos) hunit) (by decide)
    -- each operation on the way to the rounded fraction may raise the bound
    have hfraction := hrest.div (k := 96) htens' (by decide) (by decide) (by decide)
    have hsum := hwhole.add (hfraction.mono (by decide)) (by decide) (by decide)
    have hscaled := hsum.mul htens (by decide) (by decide)
    have hround := isBelow_roundHalfAway hscaled (by decide)
    exact (hround.div (k := 299) htens' (by decide) (by decide) (by decide)).mono (by decide)

/-- A decimal that fits is finite as a float. -/
theorem Fits.isFinite_toFloat {d : Decimal} (h : d.Fits) : d.toFloat.isFinite = true := by
  have hmagnitude := isBelow_magnitude h
  unfold toFloat
  split
  · exact (hmagnitude.neg (by decide) (by decide)).isFinite
  · exact hmagnitude.isFinite

end Decimal

end JsonQuery.Number
