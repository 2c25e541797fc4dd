/-
  JsonQuery.Proofs.Number.Nearest
  ───────────────────────────────
  The size of the float that is nearest to a natural number.

  The number is encoded by its place and a significand of 53 bits, which rounding may
  bring up to the next power of two.  So the float has the bits of the number, or one
  more.
-/
import JsonQuery.Number.Nearest
import JsonQuery.Proofs.Number.Magnitude

namespace JsonQuery.Number

open Float.Model Float.Model.UnpackedFloat

/-! ## §1. Encodings. -/

/-- The bits of an encoding that is no more than that of infinity. -/
theorem toNat_ofNat_bits {bits : Nat} (h : bits ≤ infinityBits) :
    (UInt64.ofNat bits).toBitVec.toNat = bits := by
  have hlimit : infinityBits = 2047 * 4503599627370496 := rfl
  show bits % 18446744073709551616 = bits
  omega

/-- A significand of 53 bits at a place bounds the number. -/
theorem isBelow_encode {significand place : Nat} (hs : significand ≤ Nat.pow 2 53)
    (hp : place ≤ 2044) : IsBelow (place - 1020) (encode significand place) := by
  have hbits : place * Nat.pow 2 52 + significand ≤ infinityBits := by
    show place * 4503599627370496 + significand ≤ 2047 * 4503599627370496
    have hs : significand ≤ 9007199254740992 := hs
    omega
  refine below_unpack_pack (below_unpack ?_ (by omega) (by omega)) (by omega) (by omega)
  rw [toNat_unpackExponent, Nat.min_eq_right hbits, toNat_ofNat_bits hbits]
  show (((place * 4503599627370496 + significand) / 4503599627370496 % 2048 : Nat) : Int) - 1022 ≤ _
  have hs : significand ≤ 9007199254740992 := hs
  omega

/-- A significand that has 53 bits bounds the number from below, too. -/
theorem isAtLeast_encode {significand place : Nat} (hlow : Nat.pow 2 52 ≤ significand)
    (hs : significand ≤ Nat.pow 2 53) : IsAtLeast (place - 1022) (encode significand place) := by
  have hlow : 4503599627370496 ≤ significand := hlow
  have hs : significand ≤ 9007199254740992 := hs
  have hbits := toNat_ofNat_bits (Nat.min_le_left infinityBits
    (place * Nat.pow 2 52 + significand))
  have hlimit : infinityBits = 2047 * 4503599627370496 := rfl
  have hunits : place * Nat.pow 2 52 = place * 4503599627370496 := rfl
  -- the bits, as a number, are the place and the significand below it, up to infinity
  refine atLeast_of_encoding ?_ ?_ ?_
  · rw [toNat_unpackExponent, hbits]
    show _ / 4503599627370496 % 2048 ≠ 0
    omega
  · rw [toNat_unpackExponent, hbits]
    show _ / 4503599627370496 % 2048 ≠ 2047
      → _ ≤ ((_ / 4503599627370496 % 2048 : Nat) : Int) - 1023
    omega
  · rw [toNat_unpackExponent, toNat_unpackMantissa, hbits]
    show _ / 4503599627370496 % 2048 = 2047 → _ % 4503599627370496 = 0
    omega

/-! ## §2. Natural numbers. -/

/-- A natural number in units of a place that leaves it `c + 1` bits. -/
theorem inUnits_one {n : Nat} (place c : Nat) (hn : 0 < n)
    (hc : n.log2 + (1074 - place) = c + (place - 1074)) :
    Nat.pow 2 c ≤ (inUnits n 1 place).1 / (inUnits n 1 place).2
      ∧ (inUnits n 1 place).1 / (inUnits n 1 place).2 < Nat.pow 2 (c + 1) := by
  have hle : Nat.pow 2 n.log2 ≤ n := Nat.log2_self_le (by omega)
  have hlt : n < Nat.pow 2 (n.log2 + 1) := Nat.lt_log2_self
  show Nat.pow 2 c ≤ n * Nat.pow 2 (1074 - place) / (1 * Nat.pow 2 (place - 1074))
    ∧ n * Nat.pow 2 (1074 - place) / (1 * Nat.pow 2 (place - 1074)) < _
  rw [Nat.one_mul]
  have hpow : ∀ a b, Nat.pow 2 a * Nat.pow 2 b = Nat.pow 2 (a + b) :=
    fun a b => (Nat.pow_add 2 a b).symm
  constructor
  · refine (Nat.le_div_iff_mul_le (Nat.two_pow_pos _)).mpr ?_
    show Nat.pow 2 c * Nat.pow 2 (place - 1074) ≤ _
    rw [hpow, ← hc, ← hpow]
    exact Nat.mul_le_mul_right _ hle
  · refine div_lt_pow ?_
    rw [show c + 1 + (place - 1074) = n.log2 + 1 + (1074 - place) by omega, ← hpow]
    exact Nat.mul_lt_mul_of_pos_right hlt (Nat.two_pow_pos _)

theorem divideToEven_cases (n d : Nat) :
    n / d ≤ divideToEven n d ∧ divideToEven n d ≤ n / d + 1 := by
  unfold divideToEven
  split <;> omega

theorem inUnits_zero (d place : Nat) : (inUnits 0 d place).1 = 0 := Nat.zero_mul _

/-- Zero has the first place, and every other number the place that leaves it 53 bits. -/
theorem nearestNat_eq (n : Nat) :
    ∃ significand place, nearestNat n = encode significand place
      ∧ significand ≤ Nat.pow 2 53
      ∧ (n = 0 ∧ place = 0
        ∨ 0 < n ∧ place = 1022 + n.log2 ∧ Nat.pow 2 52 ≤ significand) := by
  have hnearest : ∀ place, (if n = 0 then 0 else placeOf n 1) = place →
      nearestNat n = encode (divideToEven (inUnits n 1 place).1 (inUnits n 1 place).2) place := by
    rintro _ rfl
    rfl
  by_cases hn : n = 0
  · have hzero : ∀ d, divideToEven 0 d ≤ Nat.pow 2 53 := by
      intro d
      have hround := (divideToEven_cases 0 d).2
      rw [Nat.zero_div] at hround
      exact Nat.le_trans hround (by decide)
    have hunits : ∀ place, (inUnits n 1 place).1 = 0 := by
      intro place
      rw [hn]
      exact inUnits_zero 1 place
    refine ⟨_, 0, hnearest 0 (if_pos hn), ?_, .inl ⟨hn, rfl⟩⟩
    rw [hunits]
    exact hzero _
  · have hpos : 0 < n := by omega
    -- the guess leaves one bit too many
    have hguess := inUnits_one (1021 + n.log2) 53 hpos (by omega)
    have hplace : placeOf n 1 = 1022 + n.log2 := by
      have hstart : 1074 + n.log2 - Nat.log2 1 - 53 = 1021 + n.log2 := by
        show 1074 + n.log2 - 0 - 53 = _
        omega
      unfold placeOf
      simp only [hstart]
      rw [if_neg (by omega)]
      omega
    have hunits := inUnits_one (1022 + n.log2) 52 hpos (by omega)
    have hround := divideToEven_cases (inUnits n 1 (1022 + n.log2)).1
      (inUnits n 1 (1022 + n.log2)).2
    have hpow : Nat.pow 2 (52 + 1) = Nat.pow 2 53 := rfl
    exact ⟨_, 1022 + n.log2, hnearest _ ((if_neg hn).trans hplace), by omega,
      .inr ⟨hpos, rfl, by omega⟩⟩

/-- The nearest float has at most one bit more than the number. -/
theorem isBelow_nearestNat {n k : Nat} (hn : n < Nat.pow 2 k) (hk : k ≤ 1022) :
    IsBelow (k + 1) (nearestNat n) := by
  obtain ⟨significand, place, heq, hs, hplace⟩ := nearestNat_eq n
  have hlog : place = 0 ∨ n.log2 < k ∧ place = 1022 + n.log2 := by
    rcases hplace with ⟨-, h⟩ | ⟨hpos, h, -⟩
    · exact .inl h
    · exact .inr ⟨(Nat.log2_lt (Nat.ne_of_gt hpos)).mpr hn, h⟩
  rw [heq]
  exact (isBelow_encode hs (by omega)).mono (by omega)

/-- The nearest float has at least the bits of the number. -/
theorem isAtLeast_nearestNat {n k : Nat} (hn : Nat.pow 2 k ≤ n) : IsAtLeast k (nearestNat n) := by
  have hpos : 0 < n := Nat.lt_of_lt_of_le (Nat.two_pow_pos k) hn
  have hlog : k ≤ n.log2 := (Nat.le_log2 (Nat.ne_of_gt hpos)).mpr hn
  obtain ⟨significand, place, heq, hs, ⟨hzero, -⟩ | ⟨-, hplace, hlow⟩⟩ := nearestNat_eq n
  · omega
  · rw [heq]
    exact (isAtLeast_encode hlow hs).mono (by omega)

/-! ## §3. Powers of ten. -/

/-- Every power of ten but the first has four bits. -/
theorem isAtLeast_powerOfTen {exponent : Nat} (h : 0 < exponent) :
    IsAtLeast 3 (powerOfTen exponent) := by
  refine isAtLeast_nearestNat (k := 3) ?_
  obtain ⟨e, rfl⟩ : ∃ e, exponent = e + 1 := ⟨exponent - 1, by omega⟩
  have hpos : 0 < Nat.pow 10 e := Nat.pow_pos (by decide)
  show 8 ≤ Nat.pow 10 e * 10
  omega

/-- The powers of ten up to `10 ^ 308` are finite. -/
theorem isFinite_powerOfTen {exponent : Nat} (h : exponent ≤ 308) :
    (powerOfTen exponent).isFinite = true := by
  by_cases hlast : exponent = 308
  · -- its significand is not rounded up to a power of two, which would be too large
    subst hlast
    decide +kernel
  · have hle : ∀ k, exponent ≤ k → Nat.pow 10 exponent ≤ Nat.pow 10 k :=
      fun _ => Nat.pow_le_pow_right (by decide)
    have hlt : Nat.pow 10 exponent < Nat.pow 2 1020 :=
      Nat.lt_of_le_of_lt (hle 307 (by omega)) (by decide +kernel)
    exact (isBelow_nearestNat hlt (by decide)).isFinite

end JsonQuery.Number
