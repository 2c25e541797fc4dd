/-
  JsonQuery.Proofs.Number.Order
  ─────────────────────────────
  The order of floats, and rounding words keeps it.

  A float that is a number has a place on a line of integers: its exponent counts in
  steps of `2 ^ 52`, its significand within them, and its sign mirrors it.  Comparing
  two floats compares their places (`lt_iff_place_lt`).

  Rounding a word keeps the order, so a greater word never has a lower place
  (`place_ofInt64_le`); two words may share one.
-/
import JsonQuery.Proofs.Number.Rounding

namespace JsonQuery.Number

open Float.Model Float.Model.UnpackedFloat

/-! ## §1. Places on the line. -/

/-- A number as comparisons require it: 53 bits, of which the first is set unless the exponent is
the smallest. -/
def Canonical : UnpackedFloat → Prop
  | .finite _ m e _ =>
    m < Nat.pow 2 53 ∧ -1074 ≤ e ∧ e ≤ 971 ∧ (Nat.pow 2 52 ≤ m ∨ e = -1074)
  | .notANumber => False
  | .zero _ | .infinity _ => True

/-- The place of a number on the line: zero has place 0, and each number that is not negative is
followed by the next larger one. -/
def position : UnpackedFloat → Int
  | .zero _ | .notANumber => 0
  | .finite s m e _ => s.apply ((e + 1074) * (Nat.pow 2 52 : Nat) + m)
  | .infinity s => s.apply (2047 * (Nat.pow 2 52 : Nat))

/-- The sign mirrors the line. -/
theorem compare_neg (a b : Int) : compare (-a) (-b) = (compare a b).swap := by
  rw [Int.compare_swap]
  rcases Int.lt_trichotomy a b with hlt | rfl | hgt
  · rw [Int.compare_eq_gt.mpr (by omega), Int.compare_eq_gt.mpr hlt]
  · rw [Int.compare_eq_eq.mpr rfl, Int.compare_eq_eq.mpr rfl]
  · rw [Int.compare_eq_lt.mpr (by omega), Int.compare_eq_lt.mpr hgt]

/-- Exponents decide before significands do. -/
theorem compare_then_eq {m n : Nat} {d e : Int} (hm : m < Nat.pow 2 53) (hn : n < Nat.pow 2 53)
    (hd : -1074 ≤ d) (he : -1074 ≤ e) (hmd : Nat.pow 2 52 ≤ m ∨ d = -1074)
    (hne : Nat.pow 2 52 ≤ n ∨ e = -1074) :
    (compare d e).then (compare m n)
      = compare ((d + 1074) * (Nat.pow 2 52 : Nat) + m) ((e + 1074) * (Nat.pow 2 52 : Nat) + n) := by
  have hbits : Nat.pow 2 52 = 4503599627370496 := rfl
  have hbits' : Nat.pow 2 53 = 9007199254740992 := rfl
  rw [hbits] at hmd hne ⊢
  rw [hbits'] at hm hn
  -- one more in the exponent outweighs every significand
  rcases Int.lt_trichotomy d e with hlt | rfl | hgt
  · rw [Int.compare_eq_lt.mpr hlt]
    exact (Int.compare_eq_lt.mpr (by omega)).symm
  · rw [Int.compare_eq_eq.mpr rfl]
    show compare m n = _
    rcases Nat.lt_trichotomy m n with hlt | rfl | hgt
    · rw [Nat.compare_eq_lt.mpr hlt, Int.compare_eq_lt.mpr (by omega)]
    · rw [Nat.compare_eq_eq.mpr rfl, Int.compare_eq_eq.mpr rfl]
    · rw [Nat.compare_eq_gt.mpr hgt, Int.compare_eq_gt.mpr (by omega)]
  · rw [Int.compare_eq_gt.mpr hgt]
    exact (Int.compare_eq_gt.mpr (by omega)).symm

/-- A finite number is between zero and the infinity of its sign. -/
theorem position_bounds {s : Sign} {m : Nat} {e : Int} {hm : 0 < m}
    (h : Canonical (.finite s m e hm)) :
    0 < position (.finite .positive m e hm)
      ∧ position (.finite .positive m e hm) < position (.infinity .positive)
      ∧ position (.finite .negative m e hm) = -position (.finite .positive m e hm) := by
  obtain ⟨hlength, he, he', -⟩ := h
  have hlength : m < 9007199254740992 := hlength
  refine ⟨?_, ?_, rfl⟩
  · show 0 < (e + 1074) * 4503599627370496 + m
    omega
  · show (e + 1074) * 4503599627370496 + m < 2047 * 4503599627370496
    omega

/-- Comparing two numbers compares their places. -/
theorem compare_eq_compare_position {f g : UnpackedFloat} (hf : Canonical f) (hg : Canonical g) :
    f.compare g = some (compare (position f) (position g)) := by
  have hlt : ∀ {a b : Int}, a < b → some Ordering.lt = some (compare a b) :=
    fun h => congrArg some (Int.compare_eq_lt.mpr h).symm
  have hgt : ∀ {a b : Int}, b < a → some Ordering.gt = some (compare a b) :=
    fun h => congrArg some (Int.compare_eq_gt.mpr h).symm
  have hinfinity : position (.infinity .negative) = -position (.infinity .positive) := rfl
  -- all but two finite numbers of one sign are told apart by where zero and infinity are
  cases f with
  | notANumber => exact hf.elim
  | zero s =>
    have hzero : position (.zero s) = 0 := rfl
    cases g with
    | notANumber => exact hg.elim
    | zero t => rfl
    | infinity t => cases t <;> rfl
    | finite t n d hn =>
      obtain ⟨hpos, hbelow, hmirror⟩ := position_bounds hg
      cases t with
      | negative => exact hgt (by omega)
      | positive => exact hlt (by omega)
  | infinity s =>
    cases g with
    | notANumber => exact hg.elim
    | zero t => cases s <;> rfl
    | infinity t => cases s <;> cases t <;> rfl
    | finite t n d hn =>
      obtain ⟨hpos, hbelow, hmirror⟩ := position_bounds hg
      cases s with
      | negative => exact hlt (by cases t <;> omega)
      | positive => exact hgt (by cases t <;> omega)
  | finite s m e hm =>
    obtain ⟨hpos, hbelow, hmirror⟩ := position_bounds hf
    cases g with
    | notANumber => exact hg.elim
    | zero t =>
      have hzero : position (.zero t) = 0 := rfl
      cases s with
      | negative => exact hlt (by omega)
      | positive => exact hgt (by omega)
    | infinity t =>
      cases t with
      | negative => exact hgt (by cases s <;> omega)
      | positive => exact hlt (by cases s <;> omega)
    | finite t n d hn =>
      obtain ⟨hpos', hbelow', hmirror'⟩ := position_bounds hg
      obtain ⟨hlength, he, -, hfull⟩ := hf
      obtain ⟨hlength', hd, -, hfull'⟩ := hg
      have hthen := compare_then_eq hlength hlength' he hd hfull hfull'
      cases s with
      | negative =>
        cases t with
        | negative =>
          show some ((compare e d).then (compare m n)).swap = some (compare (-_) (-_))
          rw [hthen, compare_neg]
        | positive => exact hlt (by omega)
      | positive =>
        cases t with
        | negative => exact hgt (by omega)
        | positive => exact congrArg some hthen

/-- What is unpacked is canonical, unless it is no number. -/
theorem canonical_unpack {b : BitVec Format.binary64.numBits}
    (h : (UnpackedFloat.unpack Format.binary64 b).isNaN = false) :
    Canonical (UnpackedFloat.unpack Format.binary64 b) := by
  have hfield : (unpackExponent b).toNat < 2048 := (unpackExponent b).isLt
  have hfraction := unpackMantissa_lt b
  by_cases hlast : (unpackExponent b).toNat = 2047
  · -- the last exponent is that of infinity
    have hlast : unpackExponent b = -1#_ := BitVec.eq_of_toNat_eq hlast
    unfold UnpackedFloat.unpack at h ⊢
    rw [if_pos hlast] at h ⊢
    by_cases hzero : unpackMantissa b = 0#_
    · rw [if_pos hzero]
      trivial
    · rw [if_neg hzero] at h
      cases h
  by_cases hfirst : (unpackExponent b).toNat = 0
  · -- the first exponent has no bit in front of the fraction
    have hfirst : unpackExponent b = 0#_ := BitVec.eq_of_toNat_eq hfirst
    have hexponent : ((unpackExponent b).toNat : Int)
        - (Format.binary64.exponentBias + (52 : Nat)) + 1 = -1074 := by
      rw [hfirst]
      rfl
    have hlast : unpackExponent b ≠ -1#_ := fun h => hlast (congrArg BitVec.toNat h)
    unfold UnpackedFloat.unpack
    rw [if_neg hlast, if_pos hfirst]
    by_cases hzero : unpackMantissa b = 0#_
    · rw [dif_pos hzero]
      trivial
    · rw [dif_neg hzero]
      show _ ∧ -1074 ≤ _ ∧ _ ≤ (971 : Int) ∧ (_ ∨ _ = (-1074 : Int))
      rw [hexponent]
      exact ⟨lt_pow_of_le hfraction (by decide), by decide, by decide, .inr rfl⟩
  · obtain ⟨s, hm, hnormal⟩ := unpack_normal hfirst hlast
    rw [hnormal]
    refine ⟨?_, by omega, by omega, .inl (Nat.le_add_right _ _)⟩
    show _ < Nat.pow 2 52 * 2
    omega

/-! ## §2. Floats. -/

/-- The place of a float on the line. -/
def place (x : Float) : Int := position x.toModel.unpack

/-- Comparing two floats compares their places. -/
theorem lt_iff_place_lt {x y : Float} (hx : x.isNaN = false) (hy : y.isNaN = false) :
    x < y ↔ place x < place y := by
  have hcompare : x.toModel.unpack.compare y.toModel.unpack = some (compare (place x) (place y)) :=
    compare_eq_compare_position (canonical_unpack hx) (canonical_unpack hy)
  show decide ((x.toModel.unpack.compare y.toModel.unpack == some .lt) = true) = true ↔ _
  rw [decide_eq_true_iff, beq_iff_eq, hcompare, Option.some.injEq, Int.compare_eq_lt]

/-! ## §3. Words. -/

/-- The place of a natural number. -/
theorem place_ofNat {n : Nat} (hpos : 0 < n) (hn : n < Nat.pow 2 64) :
    place (Float.ofNat n) = (n.log2 + 1022) * (Nat.pow 2 52 : Nat) + rounded (n * Nat.pow 2 53) := by
  obtain ⟨m, e, hm, h, -, -, -, hplace⟩ := isNearest_ofNat hpos hn
  unfold place
  rw [h, ← hplace]
  rfl

theorem place_neg_ofNat {n : Nat} (hpos : 0 < n) (hn : n < Nat.pow 2 64) :
    place (-Float.ofNat n) = -place (Float.ofNat n) := by
  obtain ⟨m, e, hm, h, hlog, he, he', -⟩ := isNearest_ofNat hpos hn
  unfold place
  show position (Float.Model.pack (Float.ofNat n).toModel.unpack.neg).unpack = _
  rw [h]
  show position (Float.Model.pack (.finite .negative m e hm)).unpack = _
  rw [unpack_pack_normal hlog he he']
  rfl

/-- A greater natural number has no lower place. -/
theorem place_ofNat_le {m n : Nat} (hpos : 0 < m) (h : m ≤ n) (hn : n < Nat.pow 2 64) :
    place (Float.ofNat m) ≤ place (Float.ofNat n) := by
  have hpos' : 0 < n := Nat.lt_of_lt_of_le hpos h
  rw [place_ofNat hpos (Nat.lt_of_le_of_lt h hn), place_ofNat hpos' hn]
  have hlog : ∀ {k : Nat}, 0 < k → (k * Nat.pow 2 53).log2 = k.log2 + 53 :=
    fun hk => log2_mul_pow hk 53
  have hle : m.log2 ≤ n.log2 :=
    (Nat.le_log2 (Nat.ne_of_gt hpos')).mpr (Nat.le_trans (Nat.log2_self_le (Nat.ne_of_gt hpos)) h)
  rcases Nat.lt_or_eq_of_le hle with hlt | heq
  · -- rounding at most reaches the next power of two
    have hm : rounded (m * Nat.pow 2 53) ≤ 9007199254740992 :=
      (rounded_bounds (by rw [hlog hpos]; omega)).2
    have hn : 4503599627370496 ≤ rounded (n * Nat.pow 2 53) :=
      (rounded_bounds (by rw [hlog hpos']; omega)).1
    show ((m.log2 : Int) + 1022) * 4503599627370496 + _ ≤ (n.log2 + 1022) * 4503599627370496 + _
    omega
  · have hrounded := rounded_le_rounded (m := m * Nat.pow 2 53) (n := n * Nat.pow 2 53)
      (by rw [hlog hpos, hlog hpos', heq]) (Nat.mul_le_mul_right _ h)
    rw [heq]
    omega

/-- Positive numbers come after zero. -/
theorem place_ofNat_pos {n : Nat} (hpos : 0 < n) (hn : n < Nat.pow 2 64) :
    0 < place (Float.ofNat n) := by
  have hrounded : 4503599627370496 ≤ rounded (n * Nat.pow 2 53) :=
    (rounded_bounds (by rw [log2_mul_pow hpos]; omega)).1
  rw [place_ofNat hpos hn]
  show 0 < ((n.log2 : Int) + 1022) * 4503599627370496 + _
  omega

/-- A word is a natural number that fits the bits, or such a number with its sign. -/
theorem ofInt64_cases (n : Int64) :
    (n.toInt = 0 ∧ ofInt64 n = Float.ofNat 0)
      ∨ (∃ k, 0 < k ∧ k < Nat.pow 2 64 ∧ n.toInt = k ∧ ofInt64 n = Float.ofNat k)
      ∨ (∃ k, 0 < k ∧ k < Nat.pow 2 64 ∧ n.toInt = -k ∧ ofInt64 n = -Float.ofNat k) := by
  have hlow : -9223372036854775808 ≤ n.toInt := n.minValue_le_toInt
  have hhigh : n.toInt ≤ 9223372036854775807 := n.toInt_le
  have hword : ∀ k : Nat, (k : Int) ≤ 9223372036854775808 → k < Nat.pow 2 64 := by
    intro k hk
    show k < 18446744073709551616
    omega
  unfold ofInt64
  rcases Int.lt_trichotomy n.toInt 0 with hneg | hzero | hpos
  · rw [if_neg (by omega)]
    exact .inr (.inr ⟨(-n.toInt).toNat, by omega, hword _ (by omega), by omega, rfl⟩)
  · rw [if_pos (by omega), hzero]
    exact .inl ⟨rfl, rfl⟩
  · rw [if_pos (by omega)]
    exact .inr (.inl ⟨n.toInt.toNat, by omega, hword _ (by omega), by omega, rfl⟩)

/-- A word as a float is a number. -/
theorem isNaN_ofInt64 (n : Int64) : (ofInt64 n).isNaN = false := by
  show (ofInt64 n).toModel.unpack.isNaN = false
  rcases ofInt64_cases n with ⟨-, h⟩ | ⟨k, hk, hk', -, h⟩ | ⟨k, hk, hk', -, h⟩
  · rw [h]
    rfl
  · obtain ⟨m, e, hm, hunpack, -⟩ := isNearest_ofNat hk hk'
    rw [h, hunpack]
    rfl
  · obtain ⟨m, e, hm, hunpack, hlog, he, he', -⟩ := isNearest_ofNat hk hk'
    rw [h]
    show (Float.Model.pack (Float.ofNat k).toModel.unpack.neg).unpack.isNaN = false
    rw [hunpack]
    show (Float.Model.pack (.finite .negative m e hm)).unpack.isNaN = false
    rw [unpack_pack_normal hlog he he']
    rfl

/-- A greater word has no lower place. -/
theorem place_ofInt64_le {m n : Int64} (h : m.toInt ≤ n.toInt) :
    place (ofInt64 m) ≤ place (ofInt64 n) := by
  have hzero : place (Float.ofNat 0) = 0 := rfl
  -- only words of one sign have to be compared by their sizes
  rcases ofInt64_cases m with ⟨hm, hm'⟩ | ⟨j, hj, hj', hm, hm'⟩ | ⟨j, hj, hj', hm, hm'⟩
  · rcases ofInt64_cases n with ⟨hn, hn'⟩ | ⟨k, hk, hk', hn, hn'⟩ | ⟨k, hk, hk', hn, hn'⟩
    · exact Int.le_of_eq (by rw [hm', hn'])
    · have hpos := place_ofNat_pos hk hk'
      rw [hm', hn', hzero]
      omega
    · omega
  · rcases ofInt64_cases n with ⟨hn, hn'⟩ | ⟨k, hk, hk', hn, hn'⟩ | ⟨k, hk, hk', hn, hn'⟩
    · omega
    · rw [hm', hn']
      exact place_ofNat_le hj (by omega) hk'
    · omega
  · have hneg : place (ofInt64 m) < 0 := by
      have hpos := place_ofNat_pos hj hj'
      rw [hm', place_neg_ofNat hj hj']
      omega
    rcases ofInt64_cases n with ⟨hn, hn'⟩ | ⟨k, hk, hk', hn, hn'⟩ | ⟨k, hk, hk', hn, hn'⟩
    · rw [hn', hzero]
      omega
    · have hpos := place_ofNat_pos hk hk'
      rw [hn']
      omega
    · have hle := place_ofNat_le (m := k) (n := j) hk (by omega) hj'
      rw [hm', hn', place_neg_ofNat hj hj', place_neg_ofNat hk hk']
      omega

end JsonQuery.Number
