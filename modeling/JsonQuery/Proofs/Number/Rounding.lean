/-
  JsonQuery.Proofs.Number.Rounding
  ────────────────────────────────
  Natural numbers as floats.

  A number of 53 bits is packed and unpacked without loss.  A longer one is cut down to
  53 bits, half to even: what is cut off only decides between a significand and the next
  one, so that among numbers of equal length a greater one has no lesser significand
  (`rounded_le_rounded`).  Where the significand runs over, the exponent takes the carry.
  Every natural number that fits a word becomes the float that this rounding yields
  (`isNearest_ofNat`).
-/
import JsonQuery.Number.Binary
import JsonQuery.Proofs.Number.Magnitude

namespace JsonQuery.Number

open Float.Model Float.Model.UnpackedFloat

/-! ## §1. Packing. -/

theorem unpackSign_packComponents (s : Sign) (field : BitVec Format.binary64.exponentBits)
    (fraction : BitVec Format.binary64.mantissaBitsWithoutImplicit) :
    Sign.ofBitVec (unpackSign (packComponents Format.binary64 s field fraction)) = s := by
  have hsign : unpackSign (packComponents Format.binary64 s field fraction) = s.toBitVec := by
    apply BitVec.eq_of_getLsbD_eq
    intro i hi
    have hi : i = 0 := by omega
    subst hi
    unfold unpackSign packComponents
    simp only [BitVec.getLsbD_cast, BitVec.getLsbD_extractLsb]
    rw [BitVec.getLsbD_append, BitVec.getLsbD_append]
    simp
  rw [hsign]
  cases s <;> rfl

/-- A number whose bits are all used is packed without loss. -/
theorem unpack_pack_normal {s : Sign} {m : Nat} {e : Int} {hm : 0 < m} (hlog : m.log2 = 52)
    (he : -1074 ≤ e) (he' : e ≤ 971) :
    (Float.Model.pack (.finite s m e hm)).unpack = .finite s m e hm := by
  have hlow : Nat.pow 2 m.log2 ≤ m := Nat.log2_self_le (Nat.ne_of_gt hm)
  have hhigh : m < Nat.pow 2 (m.log2 + 1) := Nat.lt_log2_self
  rw [hlog] at hlow hhigh
  have hlow : 4503599627370496 ≤ m := hlow
  have hhigh : m < 9007199254740992 := hhigh
  have hfield : (e + Format.binary64.exponentBias + (52 : Nat)).toNat = (e + 1075).toNat := by
    show (e + 1023 + 52).toNat = _
    omega
  have hpack : UnpackedFloat.pack Format.binary64 (.finite s m e hm)
      = packComponents Format.binary64 s (BitVec.ofNat 11 (e + 1075).toNat) (BitVec.ofNat 52 m) := by
    unfold UnpackedFloat.pack
    simp only [hfield]
    have hfits : ¬2048 ≤ (e + 1075).toNat + 1 := by omega
    exact (if_neg hfits).trans (if_pos (by rw [hlog]; rfl))
  -- all three fields are read back as they were written
  generalize hb : packComponents Format.binary64 s (BitVec.ofNat 11 (e + 1075).toNat)
    (BitVec.ofNat 52 m) = b at hpack
  have hexponent : (unpackExponent b).toNat = (e + 1075).toNat := by
    rw [← hb, unpackExponent_packComponents]
    show (e + 1075).toNat % 2048 = _
    omega
  have hmantissa : 4503599627370496 + (unpackMantissa b).toNat = m := by
    rw [← hb, unpackMantissa_packComponents]
    show 4503599627370496 + m % 4503599627370496 = _
    omega
  have hsign : Sign.ofBitVec (unpackSign b) = s := by
    rw [← hb]
    exact unpackSign_packComponents s _ _
  obtain ⟨hn, hnormal⟩ := unpack_signed (b := b) (by omega) (by omega)
  show UnpackedFloat.unpack Format.binary64 (UnpackedFloat.pack Format.binary64 (.finite s m e hm))
    = _
  rw [hpack, hnormal, UnpackedFloat.finite.injEq]
  exact ⟨hsign, hmantissa, by omega⟩

/-! ## §2. Rounding. -/

/-- What is cut off, by its order: nothing, less than half a unit, half a unit, or more. -/
def residue (em : ExtendedMantissa) : Nat := 2 * em.roundBit.toNat + em.stickyBit.toNat

/-- The one number is not greater than the other, what is cut off included. -/
def AtMost (a b : ExtendedMantissa) : Prop :=
  a.mantissa < b.mantissa ∨ a.mantissa = b.mantissa ∧ residue a ≤ residue b

theorem AtMost.shiftRightOne {a b : ExtendedMantissa} (h : AtMost a b) :
    AtMost a.shiftRightOne b.shiftRightOne := by
  obtain ⟨m, r, t⟩ := a
  obtain ⟨n, r', t'⟩ := b
  have hbit : ∀ k : Nat, (k % 2 != 0).toNat = k % 2 := by
    intro k
    rcases Nat.mod_two_eq_zero_or_one k with hk | hk <;> rw [hk] <;> rfl
  simp only [AtMost, residue, ExtendedMantissa.shiftRightOne, hbit] at h ⊢
  -- the bit that is cut off next decides before those that were cut off
  cases r <;> cases t <;> cases r' <;> cases t' <;> simp at h ⊢ <;> omega

theorem AtMost.shiftRight {a b : ExtendedMantissa} (h : AtMost a b) (n : Nat) :
    AtMost (a >>> n) (b >>> n) := by
  induction n with
  | zero => exact h
  | succ n ih => exact ih.shiftRightOne

/-- Rounding keeps the order. -/
theorem AtMost.roundedMantissa {a b : ExtendedMantissa} (h : AtMost a b) :
    a.roundedMantissa ≤ b.roundedMantissa := by
  obtain ⟨m, r, t⟩ := a
  obtain ⟨n, r', t'⟩ := b
  simp only [AtMost, residue] at h
  cases r <;> cases t <;> cases r' <;> cases t' <;>
    simp only [ExtendedMantissa.roundedMantissa, ExtendedMantissa.accuracy,
      Accuracy.roundToNearestEven, Bool.toNat_true, Bool.toNat_false] at h ⊢ <;> omega

theorem le_roundedMantissa (em : ExtendedMantissa) : em.mantissa ≤ em.roundedMantissa := by
  obtain ⟨m, r, t⟩ := em
  cases r <;> cases t <;>
    simp only [ExtendedMantissa.roundedMantissa, ExtendedMantissa.accuracy,
      Accuracy.roundToNearestEven] <;> omega

/-- The significand of 53 bits nearest to a number that has more, half to even; it may be the next
power of two. -/
def rounded (m : Nat) : Nat :=
  ((ExtendedMantissa.ofMantissaAndAccuracy m .exact) >>> (m.log2 - 52)).roundedMantissa

/-- Among numbers of equal length rounding keeps the order. -/
theorem rounded_le_rounded {m n : Nat} (hlog : m.log2 = n.log2) (h : m ≤ n) :
    rounded m ≤ rounded n := by
  have hexact : AtMost (.ofMantissaAndAccuracy m .exact) (.ofMantissaAndAccuracy n .exact) := by
    rcases Nat.lt_or_eq_of_le h with hlt | rfl
    · exact .inl hlt
    · exact .inr ⟨rfl, Nat.le_refl _⟩
  unfold rounded
  rw [hlog]
  exact (hexact.shiftRight _).roundedMantissa

theorem rounded_bounds {m : Nat} (hm : 52 ≤ m.log2) :
    Nat.pow 2 52 ≤ rounded m ∧ rounded m ≤ Nat.pow 2 53 := by
  have hpos : m ≠ 0 := by
    rintro rfl
    cases hm
  have hlow : Nat.pow 2 52 * Nat.pow 2 (m.log2 - 52) ≤ m := by
    rw [show Nat.pow 2 52 * Nat.pow 2 (m.log2 - 52) = Nat.pow 2 (52 + (m.log2 - 52)) from
      (Nat.pow_add 2 52 _).symm, Nat.add_sub_cancel' hm]
    exact Nat.log2_self_le hpos
  have hhigh : m < Nat.pow 2 (53 + (m.log2 - 52)) := by
    rw [show 53 + (m.log2 - 52) = m.log2 + 1 by omega]
    exact Nat.lt_log2_self
  have hquotient := div_lt_pow hhigh
  -- shifted to 53 bits, and rounded up by one at most
  have hmantissa : ((ExtendedMantissa.ofMantissaAndAccuracy m .exact) >>> (m.log2 - 52)).mantissa
      = m / Nat.pow 2 (m.log2 - 52) := by
    rw [mantissa_shiftRight, mantissa_of]
  have hle := le_roundedMantissa
    ((ExtendedMantissa.ofMantissaAndAccuracy m .exact) >>> (m.log2 - 52))
  have hge := roundedMantissa_le
    ((ExtendedMantissa.ofMantissaAndAccuracy m .exact) >>> (m.log2 - 52))
  rw [hmantissa] at hle hge
  constructor
  · exact Nat.le_trans ((Nat.le_div_iff_mul_le (Nat.two_pow_pos _)).mpr hlow) hle
  · exact Nat.le_trans hge hquotient

theorem log2_mul_pow {m : Nat} (hm : 0 < m) (n : Nat) : (m * Nat.pow 2 n).log2 = m.log2 + n := by
  have hpow : 0 < Nat.pow 2 n := Nat.two_pow_pos n
  have hsum : ∀ k, Nat.pow 2 (k + n) = Nat.pow 2 k * Nat.pow 2 n := fun k => Nat.pow_add 2 k n
  have hlow : Nat.pow 2 m.log2 ≤ m := Nat.log2_self_le (Nat.ne_of_gt hm)
  have hhigh : m < Nat.pow 2 (m.log2 + 1) := Nat.lt_log2_self
  refine (Nat.log2_eq_iff (Nat.ne_of_gt (Nat.mul_pos hm hpow))).mpr ⟨?_, ?_⟩
  · show Nat.pow 2 (m.log2 + n) ≤ _
    rw [hsum]
    exact Nat.mul_le_mul_right _ hlow
  · show _ < Nat.pow 2 (m.log2 + n + 1)
    rw [show m.log2 + n + 1 = m.log2 + 1 + n by omega, hsum]
    exact Nat.mul_lt_mul_of_pos_right hhigh hpow

/-- Bits that are not set are cut off without loss. -/
theorem exact_shiftRight (m n : Nat) :
    (ExtendedMantissa.ofMantissaAndAccuracy (m * Nat.pow 2 n) .exact) >>> n
      = .ofMantissaAndAccuracy m .exact := by
  induction n generalizing m with
  | zero =>
    show ExtendedMantissa.ofMantissaAndAccuracy (m * 1) .exact = _
    rw [Nat.mul_one]
  | succ n ih =>
    have hsplit : m * Nat.pow 2 (n + 1) = m * 2 * Nat.pow 2 n := by
      rw [Nat.mul_assoc, Nat.mul_comm 2]
      rfl
    show ((ExtendedMantissa.ofMantissaAndAccuracy (m * Nat.pow 2 (n + 1)) .exact)
      >>> n).shiftRightOne = _
    rw [hsplit, ih (m * 2)]
    simp [ExtendedMantissa.shiftRightOne, ExtendedMantissa.ofMantissaAndAccuracy]

/-- A number of 53 bits is its own significand, also when zeros are put behind it. -/
theorem rounded_mul_pow {m : Nat} (hm : m.log2 = 52) (n : Nat) : rounded (m * Nat.pow 2 n) = m := by
  have hpos : 0 < m := by
    refine Nat.pos_of_ne_zero ?_
    rintro rfl
    cases hm
  unfold rounded
  rw [log2_mul_pow hpos, hm, Nat.add_sub_cancel_left, exact_shiftRight]
  rfl

/-- What goes beyond 53 bits is shifted out. -/
theorem shiftToTargetExponent_eq {m k : Nat} {e : Int} (hlog : m.log2 = 52 + k)
    (he : -1074 ≤ e + k) :
    shiftToTargetExponent Format.binary64 m e .exact
      = ((ExtendedMantissa.ofMantissaAndAccuracy m .exact) >>> k, e + k) := by
  have htarget : Format.binary64.targetExponent (totalExponent m e) = e + k := by
    show max ((m.log2 : Int) + 1 + e - 53) (-1074) = _
    omega
  have hcount : (e + k - e).toNat = k := by omega
  unfold shiftToTargetExponent shiftToExponent
  simp only [htarget, hcount]

/-- Rounding a number of at least 53 bits yields one of 53 bits, with the carry where the significand
runs over. -/
theorem round_normal {m : Nat} {e : Int} (hm : 52 ≤ m.log2) (he : -1022 ≤ m.log2 + e) (s : Sign) :
    ∃ n d hn, roundWithAccuracy Format.binary64 s m e .exact = .finite s n d hn
      ∧ n.log2 = 52 ∧ m.log2 + e - 52 ≤ d ∧ d ≤ m.log2 + e - 51
      ∧ (d + 1074) * (Nat.pow 2 52 : Nat) + n
        = (m.log2 + e + 1022) * (Nat.pow 2 52 : Nat) + rounded m := by
  obtain ⟨hlow, hhigh⟩ := rounded_bounds hm
  have hfirst := shiftToTargetExponent_eq (k := m.log2 - 52) (e := e)
    (Nat.add_sub_of_le hm).symm (by omega)
  have hexponent : e + ((m.log2 - 52 : Nat) : Int) = m.log2 + e - 52 := by omega
  rw [hexponent] at hfirst
  -- what is left is to shift once more, where the significand runs over
  have hround : ∀ n d, shiftToTargetExponent Format.binary64 (rounded m) (m.log2 + e - 52) .exact
      = (.ofMantissaAndAccuracy n .exact, d) → ∀ hn : n ≠ 0,
      roundWithAccuracy Format.binary64 s m e .exact = .finite s n d (Nat.pos_of_ne_zero hn) := by
    intro n d hsecond hn
    unfold roundWithAccuracy
    rw [hfirst]
    show (match shiftToTargetExponent Format.binary64 (rounded m) (m.log2 + e - 52) .exact with
      | (em, d) => if h : em.mantissa = 0 then UnpackedFloat.zero s
        else .finite s em.mantissa d (Nat.pos_of_ne_zero h)) = _
    rw [hsecond]
    exact dif_neg hn
  generalize rounded m = r at hlow hhigh hround ⊢
  rcases Nat.lt_or_eq_of_le hhigh with hlt | rfl
  · have hpos : r ≠ 0 := Nat.ne_of_gt (Nat.lt_of_lt_of_le (Nat.two_pow_pos 52) hlow)
    have hlog : r.log2 = 52 := (Nat.log2_eq_iff hpos).mpr ⟨hlow, hlt⟩
    have hsecond := shiftToTargetExponent_eq (k := 0) (e := m.log2 + e - 52) hlog (by omega)
    refine ⟨r, m.log2 + e - 52 + (0 : Nat), _, hround _ _ hsecond hpos, hlog, by omega, by omega, ?_⟩
    rw [show (m.log2 : Int) + e - 52 + (0 : Nat) + 1074 = m.log2 + e + 1022 by omega]
  · have hsecond := shiftToTargetExponent_eq (k := 1) (m := Nat.pow 2 53) (e := m.log2 + e - 52)
      (by decide) (by omega)
    rw [show Nat.pow 2 53 = Nat.pow 2 52 * Nat.pow 2 1 from rfl, exact_shiftRight] at hsecond
    refine ⟨Nat.pow 2 52, m.log2 + e - 52 + (1 : Nat), _, hround _ _ hsecond (by decide), by decide,
      by omega, by omega, ?_⟩
    show ((m.log2 : Int) + e - 52 + (1 : Nat) + 1074) * 4503599627370496 + 4503599627370496
      = (m.log2 + e + 1022) * 4503599627370496 + 9007199254740992
    omega

/-! ## §3. Natural numbers. -/

/-- The float is a positive number of 53 bits at the place where the natural number is, rounded. -/
def IsNearest (n : Nat) (f : UnpackedFloat) : Prop :=
  ∃ m e hm, f = .finite .positive m e hm ∧ m.log2 = 52 ∧ -1074 ≤ e ∧ e ≤ 971
    ∧ (e + 1074) * (Nat.pow 2 52 : Nat) + m
      = (n.log2 + 1022) * (Nat.pow 2 52 : Nat) + rounded (n * Nat.pow 2 53)

/-- A number that is rounded once and packed. -/
theorem isNearest_round {n m : Nat} {e : Int} (hm : 52 ≤ m.log2) (he : m.log2 + e = n.log2)
    (hn : n.log2 ≤ 64) (hrounded : rounded m = rounded (n * Nat.pow 2 53)) :
    IsNearest n (Float.Model.pack (roundWithAccuracy Format.binary64 .positive m e .exact)).unpack := by
  have hlow : -1022 ≤ (m.log2 : Int) + e := by omega
  obtain ⟨k, d, hk, hround, hlog, hd, hd', hplace⟩ := round_normal hm hlow .positive
  rw [hround, unpack_pack_normal hlog (by omega) (by omega)]
  refine ⟨k, d, hk, rfl, hlog, by omega, by omega, ?_⟩
  rw [hplace, hrounded, he]

/-- A number of at most 53 bits is not rounded. -/
theorem unpack_toFloat {n : Nat} (hpos : 0 < n) (hlog : n.log2 ≤ 52) (hn : n < Nat.pow 2 64) :
    ∃ hm, n.toUInt64.toFloat.toModel.unpack
      = .finite .positive (n * Nat.pow 2 (52 - n.log2)) (n.log2 - 52) hm := by
  have hmantissa : (n * Nat.pow 2 (52 - n.log2)).log2 = 52 := by
    rw [log2_mul_pow hpos]
    omega
  have hword : n.toUInt64.toNat = n := Nat.mod_eq_of_lt hn
  have htarget : Format.binary64.targetExponent (totalExponent n 0) = n.log2 - 52 := by
    show max ((n.log2 : Int) + 1 + 0 - 53) (-1074) = _
    omega
  have hround : UnpackedFloat.ofUInt64 Format.binary64 n.toUInt64
      = roundWithAccuracy Format.binary64 .positive (n * Nat.pow 2 (52 - n.log2)) (n.log2 - 52)
        .exact := by
    show UnpackedFloat.normalize Format.binary64 (n.toUInt64.toNat : Int) 0 .positive = _
    rw [hword]
    unfold UnpackedFloat.normalize
    rw [Int.compare_eq_gt.mpr (by omega)]
    show UnpackedFloat.round Format.binary64 .positive n 0 = _
    unfold UnpackedFloat.round decreaseExponent
    simp only [htarget, Nat.shiftLeft_eq]
    rw [show (0 - ((n.log2 : Int) - 52)).toNat = 52 - n.log2 by omega,
      show (0 : Int) - ((52 - n.log2 : Nat) : Int) = n.log2 - 52 by omega]
    rfl
  have hexact : rounded (n * Nat.pow 2 (52 - n.log2)) = n * Nat.pow 2 (52 - n.log2) := by
    have h := rounded_mul_pow hmantissa 0
    rwa [show Nat.pow 2 0 = 1 from rfl, Nat.mul_one] at h
  obtain ⟨m, e, hm, hnormal, hm', he, he', hplace⟩ :=
    round_normal (e := n.log2 - 52) (Nat.le_of_eq hmantissa.symm) (by omega) .positive
  rw [hexact, hmantissa] at hplace
  -- two numbers of 53 bits at one place are equal
  have hbits : ∀ {k : Nat}, k.log2 = 52 → 4503599627370496 ≤ k ∧ k < 9007199254740992 := by
    intro k hk
    have hk0 : k ≠ 0 := by
      rintro rfl
      cases hk
    exact (Nat.log2_eq_iff hk0).mp hk
  have hplace : (e + 1074) * 4503599627370496 + m
      = ((52 : Nat) + (n.log2 - 52) + 1022) * 4503599627370496
        + (n * Nat.pow 2 (52 - n.log2) : Nat) := hplace
  have hlower := hbits hm'
  have hlower' := hbits hmantissa
  obtain rfl : m = n * Nat.pow 2 (52 - n.log2) := by omega
  obtain rfl : e = n.log2 - 52 := by omega
  refine ⟨hm, ?_⟩
  show (Float.Model.pack (UnpackedFloat.ofUInt64 Format.binary64 n.toUInt64)).unpack = _
  rw [hround, hnormal, unpack_pack_normal hm' (by omega) (by omega)]

/-- A natural number that fits a word, as a float. -/
theorem isNearest_ofNat {n : Nat} (hpos : 0 < n) (hn : n < Nat.pow 2 64) :
    IsNearest n (Float.ofNat n).toModel.unpack := by
  have hlog : n.log2 < 64 := (Nat.log2_lt (Nat.ne_of_gt hpos)).mpr hn
  by_cases hsmall : n < Nat.pow 2 53
  · -- the number is exact, and so is its product with one
    have hlog : n.log2 < 53 := (Nat.log2_lt (Nat.ne_of_gt hpos)).mpr hsmall
    obtain ⟨hm, hexact⟩ := unpack_toFloat hpos (by omega) hn
    have hone : (Float.ofBits 0x3FF0000000000000).toModel.unpack
        = .finite .positive (Nat.pow 2 52) (-52) (Nat.two_pow_pos 52) := rfl
    have hproduct : (Float.ofNat n).toModel = Float.Model.pack (UnpackedFloat.mul Format.binary64
        n.toUInt64.toFloat.toModel.unpack (Float.ofBits 0x3FF0000000000000).toModel.unpack) := by
      show (Float.ofScientific n false 0).toModel = _
      unfold Float.ofScientific
      rw [dif_pos ⟨hsmall, by decide⟩]
      rfl
    have hmantissa : (n * Nat.pow 2 (52 - n.log2)).log2 = 52 := by
      rw [log2_mul_pow hpos]
      omega
    rw [hproduct, hexact, hone]
    refine isNearest_round ?_ ?_ (by omega) ?_
    · rw [log2_mul_pow hm]
      omega
    · rw [log2_mul_pow hm]
      omega
    · -- both are the exact number with zeros behind it
      have hsplit : n * Nat.pow 2 53
          = n * Nat.pow 2 (52 - n.log2) * Nat.pow 2 (n.log2 + 1) := by
        rw [Nat.mul_assoc, show Nat.pow 2 (52 - n.log2) * Nat.pow 2 (n.log2 + 1)
          = Nat.pow 2 (52 - n.log2 + (n.log2 + 1)) from (Nat.pow_add 2 _ _).symm,
          show 52 - n.log2 + (n.log2 + 1) = 53 by omega]
      rw [hsplit, rounded_mul_pow hmantissa, rounded_mul_pow hmantissa]
  · -- the number is put behind the point and multiplied with a power of ten that is one
    have hmantissa : (n * Nat.pow 2 53).log2 = n.log2 + 53 := log2_mul_pow hpos 53
    have hscientific : (Float.ofNat n).toModel = Float.Model.pack
        (roundWithAccuracy Format.binary64 .positive (n * Nat.pow 2 53) (-53) .exact) := by
      show (Float.ofScientific n false 0).toModel = _
      unfold Float.ofScientific
      rw [dif_neg fun h => hsmall h.1]
      show Float.Model.pack (UnpackedFloat.ofScientific Format.binary64 n 0) = _
      unfold UnpackedFloat.ofScientific
      have hguard : ¬(0 : Int) < -(2048 + n.log2) := by omega
      rw [dif_neg (Nat.ne_of_gt hpos), if_neg (by decide)]
      refine congrArg Float.Model.pack ((if_neg hguard).trans ((if_pos (by decide)).trans ?_))
      show roundWithAccuracy Format.binary64 .positive ((n <<< 53) * 1) (-53 + 0) .exact = _
      rw [Nat.shiftLeft_eq, Nat.mul_one]
      rfl
    rw [hscientific]
    exact isNearest_round (by omega) (by omega) (by omega) rfl

end JsonQuery.Number
