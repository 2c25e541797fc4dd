/-
  JsonQuery.Proofs.Number.Magnitude
  ─────────────────────────────────
  How large the results of float arithmetic can be.

  An operation on floats takes its operands apart into a significand and an exponent,
  computes exactly, rounds to 53 bits and packs the result, which is infinite if its
  exponent does not fit.  So a bound on the operands is a bound on the result, which is
  greater by one bit for the exact result and by one more for rounding it up.
-/

namespace JsonQuery.Number

open Float.Model Float.Model.UnpackedFloat

/-! ## §1. Bounds. -/

/-- The number `m · 2 ^ e` is below `2 ^ k`, and so is every other of 53 bits with that exponent. -/
def Under (k : Int) (m : Nat) (e : Int) : Prop := e + 53 ≤ k ∧ m < Nat.pow 2 (k - e).toNat

/-- A finite number whose magnitude is below `2 ^ k`. -/
def Below (k : Int) : UnpackedFloat → Prop
  | .zero _ => True
  | .finite _ m e _ => Under k m e
  | .infinity _ | .notANumber => False

/-- A number whose magnitude is at least `2 ^ k`; it may be infinite. -/
def AtLeast (k : Int) : UnpackedFloat → Prop
  | .finite _ m e _ => k ≤ m.log2 + e
  | .infinity _ => True
  | .zero _ | .notANumber => False

theorem lt_pow_of_le {m a b : Nat} (h : m < Nat.pow 2 a) (hab : a ≤ b) : m < Nat.pow 2 b :=
  Nat.lt_of_lt_of_le h (Nat.pow_le_pow_right (by decide) hab)

theorem mul_lt_pow {m n a b : Nat} (hm : m < Nat.pow 2 a) (hn : n < Nat.pow 2 b) :
    m * n < Nat.pow 2 (a + b) := by
  have hmul : m * n < Nat.pow 2 a * Nat.pow 2 b := Nat.mul_lt_mul'' hm hn
  rwa [show Nat.pow 2 a * Nat.pow 2 b = Nat.pow 2 (a + b) from (Nat.pow_add 2 a b).symm] at hmul

theorem shiftLeft_lt_pow {m a : Nat} (h : m < Nat.pow 2 a) (s : Nat) :
    m <<< s < Nat.pow 2 (a + s) := by
  rw [Nat.shiftLeft_eq, show Nat.pow 2 (a + s) = Nat.pow 2 a * 2 ^ s from Nat.pow_add 2 a s]
  exact Nat.mul_lt_mul_of_pos_right h (Nat.two_pow_pos s)

theorem div_lt_pow {m a s : Nat} (h : m < Nat.pow 2 (a + s)) : m / Nat.pow 2 s < Nat.pow 2 a := by
  refine Nat.div_lt_of_lt_mul ?_
  rwa [Nat.mul_comm, show Nat.pow 2 a * Nat.pow 2 s = Nat.pow 2 (a + s) from
    (Nat.pow_add 2 a s).symm]

theorem log2_lt_of_lt_pow {m a : Nat} (h : m < Nat.pow 2 a) (ha : 0 < a) : m.log2 < a := by
  by_cases hm : m = 0
  · subst hm
    exact ha
  · exact (Nat.log2_lt hm).mpr h

theorem Under.mono {k l : Int} {m : Nat} {e : Int} (h : Under k m e) (hkl : k ≤ l) :
    Under l m e :=
  ⟨by have := h.1; omega, lt_pow_of_le h.2 (by omega)⟩

/-- A number below a bound is zero, or a significand and an exponent below it. -/
theorem Below.cases {k : Int} {f : UnpackedFloat} (h : Below k f) :
    (∃ s, f = .zero s) ∨ ∃ s m e hm, f = .finite s m e hm ∧ Under k m e := by
  cases f with
  | zero s => exact .inl ⟨s, rfl⟩
  | finite s m e hm => exact .inr ⟨s, m, e, hm, rfl, h⟩
  | infinity s => exact h.elim
  | notANumber => exact h.elim

theorem Below.mono {k l : Int} {f : UnpackedFloat} (h : Below k f) (hkl : k ≤ l) : Below l f := by
  rcases h.cases with ⟨s, rfl⟩ | ⟨s, m, e, hm, rfl, hlt⟩
  · trivial
  · exact Under.mono hlt hkl

theorem AtLeast.mono {k l : Int} {f : UnpackedFloat} (h : AtLeast l f) (hkl : k ≤ l) :
    AtLeast k f := by
  cases f with
  | zero s => exact h.elim
  | finite s m e hm => exact Int.le_trans hkl h
  | infinity s => trivial
  | notANumber => exact h.elim

/-! ## §2. Rounding. -/

theorem mantissa_shiftRight (em : ExtendedMantissa) (n : Nat) :
    (em >>> n).mantissa = em.mantissa / Nat.pow 2 n := by
  induction n with
  | zero => exact (Nat.div_one _).symm
  | succ n ih =>
    show (em >>> n).mantissa / 2 = _
    rw [ih, Nat.div_div_eq_div_mul]
    rfl

theorem mantissa_of (m : Nat) (accuracy : Accuracy) :
    (ExtendedMantissa.ofMantissaAndAccuracy m accuracy).mantissa = m := by
  cases accuracy with
  | exact => rfl
  | inexact o => cases o <;> rfl

theorem roundedMantissa_le (em : ExtendedMantissa) : em.roundedMantissa ≤ em.mantissa + 1 := by
  obtain ⟨m, round, sticky⟩ := em
  cases round <;> cases sticky <;>
    simp only [ExtendedMantissa.roundedMantissa, ExtendedMantissa.accuracy,
      Accuracy.roundToNearestEven] <;> omega

/-- The exponent that leaves a number 53 bits is not too large for its bound. -/
theorem targetExponent_le {t k : Int} (ht : t ≤ k) (hk : -1021 ≤ k) :
    Format.binary64.targetExponent t + 53 ≤ k := by
  have htarget : Format.binary64.targetExponent t = max (t - 53) (-1074) := rfl
  omega

theorem Under.totalExponent_le {k : Int} {m : Nat} {e : Int} (h : Under k m e) :
    totalExponent m e ≤ k := by
  have hexponent := h.1
  have hlog := log2_lt_of_lt_pow h.2 (by omega)
  unfold totalExponent
  omega

/-- Shifting out bits keeps a number below its bound. -/
theorem Under.shift {k : Int} {m : Nat} {e : Int} (h : Under k m e) (hk : -1021 ≤ k)
    (accuracy : Accuracy) :
    Under k (shiftToTargetExponent Format.binary64 m e accuracy).1.mantissa
      (shiftToTargetExponent Format.binary64 m e accuracy).2 := by
  have hexponent := h.1
  have htarget := targetExponent_le h.totalExponent_le hk
  unfold shiftToTargetExponent shiftToExponent
  simp only [mantissa_shiftRight, mantissa_of]
  refine ⟨by omega, div_lt_pow (lt_pow_of_le h.2 (by omega))⟩

/-- Zero has a form of its own. -/
theorem Under.below {k : Int} {m : Nat} {e : Int} (h : Under k m e) (s : Sign) :
    Below k (if hm : m = 0 then .zero s else .finite s m e (Nat.pos_of_ne_zero hm)) := by
  by_cases hm : m = 0
  · rw [dif_pos hm]
    trivial
  · rw [dif_neg hm]
    exact h

/-- Rounding at most reaches the bound. -/
theorem Under.round {k : Int} {m : Nat} {e : Int} (h : Under k m e) (hk : -1021 ≤ k)
    (s : Sign) (accuracy : Accuracy) :
    Below (k + 1) (roundWithAccuracy Format.binary64 s m e accuracy) := by
  have hfirst := h.shift hk accuracy
  unfold roundWithAccuracy
  generalize shiftToTargetExponent Format.binary64 m e accuracy = first at hfirst ⊢
  obtain ⟨em, e'⟩ := first
  -- one more than a number of so many bits has at most one bit more
  have hrounded : Under (k + 1) em.roundedMantissa e' := by
    have hexponent : e' + 53 ≤ k := hfirst.1
    have hlt : em.mantissa < Nat.pow 2 (k - e').toNat := hfirst.2
    have hle := roundedMantissa_le em
    have hsucc : Nat.pow 2 ((k - e').toNat + 1) = Nat.pow 2 (k - e').toNat * 2 := rfl
    refine ⟨by omega, ?_⟩
    rw [show (k + 1 - e').toNat = (k - e').toNat + 1 by omega]
    omega
  exact (hrounded.shift (by omega) .exact).below s

/-- A number that is spread to more bits first. -/
theorem Under.round_decreased {k : Int} {m : Nat} {e : Int} (h : Under k m e) (hk : -1021 ≤ k)
    (s : Sign) : Below (k + 1) (UnpackedFloat.round Format.binary64 s m e) := by
  have hexponent := h.1
  have htarget := targetExponent_le h.totalExponent_le hk
  refine Under.round ⟨by omega, ?_⟩ hk s .exact
  exact lt_pow_of_le (shiftLeft_lt_pow h.2 _) (by omega)

/-- A whole number of units, with its sign. -/
theorem below_normalize {k e : Int} {n : Int} (h : Under k n.natAbs e) (hk : -1021 ≤ k)
    (s : Sign) : Below (k + 1) (UnpackedFloat.normalize Format.binary64 n e s) := by
  unfold UnpackedFloat.normalize
  split
  · rename_i hn
    have hn : n < 0 := Int.compare_eq_lt.mp hn
    rw [show (-n).toNat = n.natAbs by omega]
    exact h.round_decreased hk _
  · trivial
  · rename_i hn
    have hn : 0 < n := Int.compare_eq_gt.mp hn
    rw [show n.toNat = n.natAbs by omega]
    exact h.round_decreased hk _

/-! ## §3. Packing. -/

theorem toNat_unpackExponent (b : BitVec Format.binary64.numBits) :
    (unpackExponent b).toNat = b.toNat / Nat.pow 2 52 % Nat.pow 2 11 := by
  unfold unpackExponent
  simp [BitVec.extractLsb, BitVec.extractLsb'_toNat, Nat.shiftRight_eq_div_pow]

theorem toNat_unpackMantissa (b : BitVec Format.binary64.numBits) :
    (unpackMantissa b).toNat = b.toNat % Nat.pow 2 52 := by
  unfold unpackMantissa
  simp [BitVec.extractLsb, BitVec.extractLsb'_toNat]

theorem unpackMantissa_lt (b : BitVec Format.binary64.numBits) :
    (unpackMantissa b).toNat < Nat.pow 2 52 :=
  (unpackMantissa b).isLt

/-- A number whose exponent field is neither the first nor the last has 53 bits. -/
theorem unpack_signed {b : BitVec Format.binary64.numBits} (hfirst : (unpackExponent b).toNat ≠ 0)
    (hlast : (unpackExponent b).toNat ≠ 2047) :
    ∃ hm, UnpackedFloat.unpack Format.binary64 b
      = .finite (Sign.ofBitVec (unpackSign b)) (Nat.pow 2 52 + (unpackMantissa b).toNat)
        ((unpackExponent b).toNat - 1075) hm := by
  have hmantissa : (1#1 ++ unpackMantissa b).toNat = Nat.pow 2 52 + (unpackMantissa b).toNat := by
    rw [BitVec.toNat_append, ← Nat.shiftLeft_add_eq_or_of_lt (unpackMantissa b).isLt]
    rfl
  have hlast : unpackExponent b ≠ -1#_ := fun h => hlast (congrArg BitVec.toNat h)
  have hfirst : unpackExponent b ≠ 0#_ := fun h => hfirst (congrArg BitVec.toNat h)
  unfold UnpackedFloat.unpack
  rw [if_neg hlast, if_neg hfirst]
  -- the mantissa occurs in the proof that it is positive, too
  have hfinite : ∀ {m n : Nat}, m = n → ∀ (s : Sign) (e : Int) (hm : 0 < m),
      ∃ hn, UnpackedFloat.finite s m e hm = .finite s n e hn := by
    rintro m _ rfl s e hm
    exact ⟨hm, rfl⟩
  exact hfinite hmantissa _ _ _

theorem unpack_normal {b : BitVec Format.binary64.numBits} (hfirst : (unpackExponent b).toNat ≠ 0)
    (hlast : (unpackExponent b).toNat ≠ 2047) :
    ∃ s hm, UnpackedFloat.unpack Format.binary64 b
      = .finite s (Nat.pow 2 52 + (unpackMantissa b).toNat)
        ((unpackExponent b).toNat - 1075) hm :=
  ⟨_, unpack_signed hfirst hlast⟩

/-- A number whose exponent field is the first one is smaller than those. -/
theorem below_subnormal {b : BitVec Format.binary64.numBits} (hfirst : (unpackExponent b).toNat = 0)
    {k : Int} (hk : -1021 ≤ k) : Below k (UnpackedFloat.unpack Format.binary64 b) := by
  have hfirst : unpackExponent b = 0#_ := BitVec.eq_of_toNat_eq hfirst
  have hlast : unpackExponent b ≠ -1#_ := by
    rw [hfirst]
    decide
  have hexponent : ((unpackExponent b).toNat : Int)
      - (Format.binary64.exponentBias + (52 : Nat)) + 1 = -1074 := by
    rw [hfirst]
    rfl
  unfold UnpackedFloat.unpack
  rw [if_neg hlast, if_pos hfirst]
  -- zero, or a significand in units of the smallest number
  by_cases hzero : unpackMantissa b = 0#_
  · rw [dif_pos hzero]
    trivial
  · rw [dif_neg hzero]
    show Under k _ _
    rw [hexponent]
    exact ⟨by omega, lt_pow_of_le (unpackMantissa_lt b) (by omega)⟩

/-- The exponent field bounds what is unpacked. -/
theorem below_unpack {b : BitVec Format.binary64.numBits} {k : Int}
    (hb : (unpackExponent b).toNat - 1022 ≤ k) (hlow : -1021 ≤ k) (hk : k ≤ 1024) :
    Below k (UnpackedFloat.unpack Format.binary64 b) := by
  by_cases hfirst : (unpackExponent b).toNat = 0
  · exact below_subnormal hfirst hlow
  · have hlt := unpackMantissa_lt b
    obtain ⟨s, hm, h⟩ := unpack_normal hfirst (by omega)
    rw [h]
    refine ⟨by omega, lt_pow_of_le (a := 53) ?_ (by omega)⟩
    show _ < Nat.pow 2 52 * 2
    omega

/-- What is finite is below the exponents that do not fit. -/
theorem below_of_isFinite {b : BitVec Format.binary64.numBits}
    (h : (UnpackedFloat.unpack Format.binary64 b).isFinite = true) :
    Below 1024 (UnpackedFloat.unpack Format.binary64 b) := by
  by_cases hlast : unpackExponent b = -1#_
  · unfold UnpackedFloat.unpack at h
    rw [if_pos hlast] at h
    split at h <;> cases h
  · have hlt : (unpackExponent b).toNat < 2048 := (unpackExponent b).isLt
    have hne : (unpackExponent b).toNat ≠ 2047 := fun h => hlast (BitVec.eq_of_toNat_eq h)
    exact below_unpack (by omega) (by decide) (by decide)

/-- A packed number has its exponent unless that does not fit. Only one that has fewer bits, or no
place for them, has the exponent of the smallest numbers. -/
theorem pack_finite (s : Sign) (m : Nat) (e : Int) (hm : 0 < m) :
    (972 ≤ e ∧ UnpackedFloat.pack Format.binary64 (.finite s m e hm)
        = packComponents Format.binary64 s (-1#_) 0)
      ∨ (e ≤ 971 ∧ ∃ field fraction, UnpackedFloat.pack Format.binary64 (.finite s m e hm)
          = packComponents Format.binary64 s field fraction
          ∧ ((field.toNat : Int) = e + 1075
            ∨ (field.toNat = 0 ∧ ¬ (m.log2 = 52 ∧ -1074 ≤ e)))) := by
  have hbias : (e + Format.binary64.exponentBias + (52 : Nat)).toNat = (e + 1075).toNat := by
    show (e + 1023 + 52).toNat = _
    omega
  unfold UnpackedFloat.pack
  simp only [hbias]
  split
  · -- beyond the largest exponent
    rename_i hlarge
    exact .inl ⟨by omega, rfl⟩
  · rename_i hfits
    refine .inr ⟨by omega, ?_⟩
    split
    · -- 53 bits: the field is the exponent with its bias, taken to 11 bits
      refine ⟨_, _, rfl, ?_⟩
      show ((e + 1075).toNat % 2048 : Nat) = e + 1075 ∨ ((e + 1075).toNat % 2048 = 0 ∧ _)
      omega
    · rename_i hlog
      refine ⟨_, _, rfl, .inr ⟨rfl, fun h => hlog ?_⟩⟩
      rw [h.1]
      rfl

/-- Packing a finite number keeps it below its bound. -/
theorem below_unpack_pack {k : Int} {f : UnpackedFloat} (h : Below k f) (hlow : -1021 ≤ k)
    (hk : k ≤ 1024) : Below k (Float.Model.pack f).unpack := by
  show Below k (UnpackedFloat.unpack Format.binary64 (UnpackedFloat.pack Format.binary64 f))
  rcases h.cases with ⟨s, rfl⟩ | ⟨s, m, e, hm, rfl, hexponent, -⟩
  · refine below_subnormal ?_ hlow
    show (unpackExponent (packComponents Format.binary64 s 0 0)).toNat = 0
    rw [unpackExponent_packComponents]
    rfl
  · rcases pack_finite s m e hm with ⟨hlarge, -⟩ | ⟨-, field, fraction, hpack, hfield⟩
    · omega
    · refine below_unpack ?_ hlow hk
      rw [hpack, unpackExponent_packComponents]
      omega

theorem Below.isFinite {k : Int} {f : UnpackedFloat} (h : Below k f) : f.isFinite = true := by
  rcases h.cases with ⟨s, rfl⟩ | ⟨s, m, e, hm, rfl, -⟩ <;> rfl

theorem unpack_infinity {b : BitVec Format.binary64.numBits}
    (hlast : (unpackExponent b).toNat = 2047) (hzero : (unpackMantissa b).toNat = 0) :
    ∃ s, UnpackedFloat.unpack Format.binary64 b = .infinity s := by
  have hlast : unpackExponent b = -1#_ := BitVec.eq_of_toNat_eq hlast
  have hzero : unpackMantissa b = 0#_ := BitVec.eq_of_toNat_eq hzero
  unfold UnpackedFloat.unpack
  rw [if_pos hlast, if_pos hzero]
  exact ⟨_, rfl⟩

theorem unpack_packedInfinity (s : Sign) :
    ∃ t, UnpackedFloat.unpack Format.binary64 (packComponents Format.binary64 s (-1#_) 0)
      = .infinity t := by
  refine unpack_infinity ?_ ?_
  · rw [unpackExponent_packComponents]
    rfl
  · rw [unpackMantissa_packComponents]
    rfl

/-- Packing a finite number yields one, unless it becomes infinite. -/
theorem isFinite_or_isInf_unpack_pack {f : UnpackedFloat} (h : f.isFinite = true) :
    (Float.Model.pack f).unpack.isFinite = true ∨ (Float.Model.pack f).unpack.isInf = true := by
  cases f with
  | zero s => exact .inl (below_unpack_pack (f := .zero s) (k := 0) trivial (by decide)
      (by decide)).isFinite
  | finite s m e hm =>
    show (UnpackedFloat.unpack Format.binary64
        (UnpackedFloat.pack Format.binary64 _)).isFinite = true
      ∨ (UnpackedFloat.unpack Format.binary64 (UnpackedFloat.pack Format.binary64 _)).isInf = true
    rcases pack_finite s m e hm with ⟨-, hpack⟩ | ⟨hfits, field, fraction, hpack, hfield⟩
    · obtain ⟨t, hinfinity⟩ := unpack_packedInfinity s
      rw [hpack, hinfinity]
      exact .inr rfl
    · -- the last exponent field is out of reach
      refine .inl (below_unpack (k := 1024) ?_ (by decide) (by decide)).isFinite
      rw [hpack, unpackExponent_packComponents]
      omega
  | infinity s => cases h
  | notANumber => cases h

/-- Packing infinity keeps it. -/
theorem atLeast_unpack_pack_infinity (k : Int) (s : Sign) :
    AtLeast k (Float.Model.pack (.infinity s)).unpack := by
  show AtLeast k (UnpackedFloat.unpack Format.binary64 (packComponents Format.binary64 s (-1#_) 0))
  obtain ⟨t, h⟩ := unpack_packedInfinity s
  rw [h]
  trivial

/-- Packing a number of 53 bits keeps its size, unless it becomes infinite. -/
theorem atLeast_unpack_pack {s : Sign} {m : Nat} {e : Int} {hm : 0 < m} (hlog : m.log2 = 52)
    (he : -1074 ≤ e) : AtLeast (52 + e) (Float.Model.pack (.finite s m e hm)).unpack := by
  show AtLeast (52 + e)
    (UnpackedFloat.unpack Format.binary64 (UnpackedFloat.pack Format.binary64 (.finite s m e hm)))
  rcases pack_finite s m e hm with ⟨-, hpack⟩ | ⟨hfits, field, fraction, hpack, hfield⟩
  · obtain ⟨t, hinfinity⟩ := unpack_packedInfinity s
    rw [hpack, hinfinity]
    trivial
  · -- with all its bits, a number does not get the field of the smallest ones
    have hfield : (field.toNat : Int) = e + 1075 := by
      rcases hfield with h | ⟨-, h⟩
      · exact h
      · exact absurd ⟨hlog, he⟩ h
    have hexponent : (unpackExponent (packComponents Format.binary64 s field fraction)).toNat
        = field.toNat := congrArg BitVec.toNat unpackExponent_packComponents
    obtain ⟨t, hn, hnormal⟩ := unpack_normal (b := packComponents Format.binary64 s field fraction)
      (by omega) (by omega)
    have hbits : 52 ≤ (Nat.pow 2 52
        + (unpackMantissa (packComponents Format.binary64 s field fraction)).toNat).log2 :=
      (Nat.le_log2 (Nat.ne_of_gt hn)).mpr (Nat.le_add_right (Nat.pow 2 52) _)
    rw [hpack, hnormal, hexponent]
    unfold AtLeast
    omega

/-- The exponent field bounds an encoding from below, too. -/
theorem atLeast_of_encoding {b : BitVec Format.binary64.numBits} {k : Int}
    (hfirst : (unpackExponent b).toNat ≠ 0)
    (hk : (unpackExponent b).toNat ≠ 2047 → k ≤ (unpackExponent b).toNat - 1023)
    (hinfinity : (unpackExponent b).toNat = 2047 → (unpackMantissa b).toNat = 0) :
    AtLeast k (Float.Model.pack (UnpackedFloat.unpack Format.binary64 b)).unpack := by
  by_cases hlast : (unpackExponent b).toNat = 2047
  · obtain ⟨s, h⟩ := unpack_infinity hlast (hinfinity hlast)
    rw [h]
    exact atLeast_unpack_pack_infinity k s
  · have hk := hk hlast
    obtain ⟨s, hm, h⟩ := unpack_normal hfirst hlast
    have hlog : (Nat.pow 2 52 + (unpackMantissa b).toNat).log2 = 52 := by
      have hlt := unpackMantissa_lt b
      refine (Nat.log2_eq_iff (Nat.ne_of_gt hm)).mpr ⟨Nat.le_add_right (Nat.pow 2 52) _, ?_⟩
      show _ < Nat.pow 2 52 * 2
      omega
    rw [h]
    exact (atLeast_unpack_pack hlog (by omega)).mono (by omega)

/-! ## §4. Operations. -/

section

variable {j k l : Int} {f g : UnpackedFloat}

theorem below_neg (h : Below k f) : Below k f.neg := by
  rcases h.cases with ⟨s, rfl⟩ | ⟨s, m, e, hm, rfl, hlt⟩
  · trivial
  · exact hlt

theorem natAbs_apply_add_le (s t : Sign) (m n : Nat) :
    (s.apply m + t.apply n).natAbs ≤ m + n := by
  cases s <;> cases t <;> simp only [Sign.apply] <;> omega

theorem below_add (hf : Below k f) (hg : Below k g) (hk : -1021 ≤ k) :
    Below (k + 2) (UnpackedFloat.add Format.binary64 f g) := by
  rcases hf.cases with ⟨s, rfl⟩ | ⟨s, m, e, hm, rfl, hmlt⟩
  · rcases hg.cases with ⟨t, rfl⟩ | ⟨t, n, d, hn, rfl, hnlt⟩
    · show Below (k + 2) (if s == t then .zero s else .zero .positive)
      split <;> trivial
    · exact hg.mono (by omega)
  · rcases hg.cases with ⟨t, rfl⟩ | ⟨t, n, d, hn, rfl, hnlt⟩
    · exact hf.mono (by omega)
    · -- both in units of the smaller exponent, the sum has at most one bit more
      have hexponent := hmlt.1
      have hexponent' := hnlt.1
      have hmlt := shiftLeft_lt_pow hmlt.2 (e - min e d).toNat
      have hnlt := shiftLeft_lt_pow hnlt.2 (d - min e d).toNat
      have hle := natAbs_apply_add_le s t (m <<< (e - min e d).toNat) (n <<< (d - min e d).toNat)
      rw [show (k - e).toNat + (e - min e d).toNat = (k - min e d).toNat by omega] at hmlt
      rw [show (k - d).toNat + (d - min e d).toNat = (k - min e d).toNat by omega] at hnlt
      have hsum : Under (k + 1)
          (s.apply (m <<< (e - min e d).toNat : Nat)
            + t.apply (n <<< (d - min e d).toNat : Nat)).natAbs (min e d) := by
        refine ⟨by omega, ?_⟩
        rw [show (k + 1 - min e d).toNat = (k - min e d).toNat + 1 by omega]
        show _ < Nat.pow 2 (k - min e d).toNat * 2
        omega
      rw [show k + 2 = k + 1 + 1 by omega]
      exact below_normalize hsum (by omega) _

theorem below_mul (hf : Below j f) (hg : Below k g) (hjk : -1021 ≤ j + k) :
    Below (j + k + 1) (UnpackedFloat.mul Format.binary64 f g) := by
  rcases hf.cases with ⟨s, rfl⟩ | ⟨s, m, e, hm, rfl, hmlt⟩
  · rcases hg.cases with ⟨t, rfl⟩ | ⟨t, n, d, hn, rfl, -⟩ <;> trivial
  · rcases hg.cases with ⟨t, rfl⟩ | ⟨t, n, d, hn, rfl, hnlt⟩
    · trivial
    · have hexponent := hmlt.1
      have hexponent' := hnlt.1
      refine Under.round ⟨by omega, ?_⟩ hjk _ .exact
      exact lt_pow_of_le (mul_lt_pow hmlt.2 hnlt.2) (by omega)

theorem below_div (hf : Below j f) (hg : AtLeast l g) (hk : j - l ≤ k) (hlow : -1021 ≤ k) :
    Below (k + 1) (UnpackedFloat.div Format.binary64 f g) := by
  rcases hf.cases with ⟨s, rfl⟩ | ⟨s, m, e, hm, rfl, hmlt⟩
  · cases g with
    | zero t => exact hg.elim
    | notANumber => exact hg.elim
    | _ => trivial
  · cases g with
    | zero t => exact hg.elim
    | notANumber => exact hg.elim
    | infinity t => trivial
    | finite t n d hn =>
      have hg : l ≤ n.log2 + d := hg
      have hexponent := hmlt.1
      have htotal : totalExponent m e - totalExponent n d ≤ k := by
        have hlog := log2_lt_of_lt_pow hmlt.2 (by omega)
        unfold totalExponent
        omega
      have htarget := targetExponent_le htotal hlow
      have hpow : Nat.pow 2 n.log2 ≤ n := Nat.log2_self_le (by omega)
      refine Under.round ⟨by omega, ?_⟩ hlow _ _
      -- the quotient loses at least as many bits as the divisor has before its last ones
      refine Nat.lt_of_le_of_lt (Nat.div_le_div_left hpow (Nat.two_pow_pos _)) (div_lt_pow ?_)
      exact lt_pow_of_le (shiftLeft_lt_pow hmlt.2 _) (by omega)

end

/-! ## §5. Floats. -/

/-- A finite float whose magnitude is below `2 ^ k`. -/
def IsBelow (k : Int) (x : Float) : Prop := Below k x.toModel.unpack

/-- A float whose magnitude is at least `2 ^ k`. -/
def IsAtLeast (k : Int) (x : Float) : Prop := AtLeast k x.toModel.unpack

section

variable {j k l : Int} {x y : Float}

theorem IsBelow.mono (h : IsBelow j x) (hjk : j ≤ k) : IsBelow k x := Below.mono h hjk

theorem IsBelow.isFinite (h : IsBelow k x) : x.isFinite = true := Below.isFinite h

theorem IsBelow.neg (h : IsBelow k x) (hlow : -1021 ≤ k) (hk : k ≤ 1024) : IsBelow k (-x) :=
  below_unpack_pack (below_neg h) hlow hk

theorem IsBelow.add (hx : IsBelow k x) (hy : IsBelow k y) (hlow : -1021 ≤ k) (hk : k ≤ 1022) :
    IsBelow (k + 2) (x + y) :=
  below_unpack_pack (below_add hx hy hlow) (by omega) (by omega)

theorem IsBelow.mul (hx : IsBelow j x) (hy : IsBelow k y) (hlow : -1021 ≤ j + k)
    (hjk : j + k ≤ 1023) : IsBelow (j + k + 1) (x * y) :=
  below_unpack_pack (below_mul hx hy hlow) (by omega) (by omega)

theorem IsBelow.div (hx : IsBelow j x) (hy : IsAtLeast l y) (hk : j - l ≤ k) (hlow : -1021 ≤ k)
    (hhigh : k ≤ 1023) : IsBelow (k + 1) (x / y) :=
  below_unpack_pack (below_div hx hy hk hlow) (by omega) (by omega)

theorem isBelow_of_isFinite (h : x.isFinite = true) : IsBelow 1024 x := below_of_isFinite h

/-- A product of finite floats is finite, unless it is infinite. -/
theorem isFinite_mul (hx : x.isFinite = true) (hy : y.isFinite = true)
    (h : (x * y).isInf = false) : (x * y).isFinite = true := by
  have hmul := below_mul (below_of_isFinite hx) (below_of_isFinite hy) (by decide)
  rcases isFinite_or_isInf_unpack_pack hmul.isFinite with hfinite | hinf
  · exact hfinite
  · rw [show (x * y).isInf = true from hinf] at h
    cases h

theorem isBelow_toFloat {n : UInt64} (hn : n.toNat < Nat.pow 2 53) : IsBelow 54 n.toFloat := by
  have hunder : Under 53 (n.toNat : Int).natAbs 0 := ⟨by decide, hn⟩
  exact below_unpack_pack (below_normalize hunder (by decide) _) (by decide) (by decide)

/-- A small natural number as a float, which is computed as its product with one. -/
theorem isBelow_ofNat {n : Nat} (hn : n < Nat.pow 2 53) : IsBelow 56 (Float.ofNat n) := by
  have hone : IsBelow 1 (Float.ofBits 0x3FF0000000000000) :=
    below_unpack_pack (below_unpack (by decide) (by decide) (by decide)) (by decide) (by decide)
  have hproduct : Float.ofNat n = n.toUInt64.toFloat * Float.ofBits 0x3FF0000000000000 := by
    show Float.ofScientific n false 0 = _
    unfold Float.ofScientific
    rw [dif_pos ⟨hn, by decide⟩]
    rfl
  have hn : n.toUInt64.toNat < Nat.pow 2 53 := Nat.lt_of_le_of_lt (Nat.mod_le _ _) hn
  rw [hproduct]
  exact (isBelow_toFloat hn).mul hone (by decide) (by decide)

end

end JsonQuery.Number
