/-
  JsonQuery.Proofs.Number.Accumulation
  ────────────────────────────────────
  Decimals that are added up one after the other.

  The exact sum of a list has the places of the decimal that has the most of them
  (`exact`); no order of the list matters to it.  Adding up from left to right yields it
  unless something is lost on the way (`Lossless`).  Two things can be lost: the last digits
  of a partial sum that is too long for its mantissa; and the places of one that is zero,
  since a zero total makes way for the decimal that is added to it.

  Main results:
    * `IsSum.add` — what one addition makes of the exact sum of the decimals before it;
    * `Lossless.foldlM_add` — the total of a list that loses nothing is its exact sum;
    * `Harmless.lossless` — nothing is lost, in any order, if the magnitudes add up to one
      that fits, and the decimals are whole or of one sign.
-/
import JsonQuery.Proofs.Number.Decimal
import Mathlib.Algebra.BigOperators.Ring.List
import Mathlib.Algebra.Ring.Int.Defs
import Mathlib.Algebra.Ring.Nat
import Mathlib.Data.List.Induction
import Mathlib.Data.List.Infix

namespace JsonQuery.Number.Decimal

variable {d a b : Decimal} {ds ds' : List Decimal} {s t : Nat}

/-! ## §1. Signed mantissas. -/

theorem natAbs_signed (d : Decimal) : d.signed.natAbs = d.mantissa := by
  unfold signed
  split <;> omega

theorem signedAt_self (d : Decimal) : d.signedAt d.scale = d.signed := by
  unfold signedAt
  rw [Nat.sub_self]
  exact Int.mul_one _

/-- An integer as a decimal has it as its signed mantissa. -/
theorem signed_mk (n : Int) (s : Nat) : signed ⟨decide (n < 0), n.natAbs, s⟩ = n := by
  unfold signed
  simp only [decide_eq_true_eq]
  split <;> omega

theorem natAbs_signedAt (d : Decimal) (s : Nat) :
    (d.signedAt s).natAbs = d.mantissa * Nat.pow 10 (s - d.scale) := by
  unfold signedAt
  rw [Int.natAbs_mul, natAbs_signed, Int.natAbs_natCast]

theorem signedAt_of_zero (h : d.mantissa = 0) (s : Nat) : d.signedAt s = 0 := by
  rw [← Int.natAbs_eq_zero, natAbs_signedAt, h, Nat.zero_mul]

theorem signedAt_of_le (hd : d.scale ≤ s) (hst : s ≤ t) :
    d.signedAt t = d.signedAt s * (Nat.pow 10 (t - s) : Nat) := by
  unfold signedAt
  have hsplit : t - d.scale = (s - d.scale) + (t - s) := by omega
  have hpow : Nat.pow 10 (t - d.scale) = Nat.pow 10 (s - d.scale) * Nat.pow 10 (t - s) := by
    rw [hsplit]
    exact Nat.pow_add 10 _ _
  rw [hpow, Int.natCast_mul, Int.mul_assoc]

theorem isNegative_eq (d : Decimal) :
    (d.negative && d.mantissa != 0) = decide (d.signed < 0) := by
  unfold signed
  cases d.negative with
  | false => exact (decide_eq_false (by simp)).symm
  | true =>
    rw [Bool.true_and, Bool.eq_iff_iff, bne_iff_ne, decide_eq_true_iff, if_pos rfl]
    omega

/-- Where two decimals differ in the sign of zero only, they are the same float. -/
theorem toFloat_congr (hsigned : a.signed = b.signed) (hscale : a.scale = b.scale) :
    a.toFloat = b.toFloat := by
  have hmantissa : a.mantissa = b.mantissa := by rw [← natAbs_signed, hsigned, natAbs_signed]
  unfold toFloat magnitude
  rw [isNegative_eq, isNegative_eq, hsigned, hmantissa, hscale]

theorem toInt64?_congr (hsigned : a.signed = b.signed) (hscale : a.scale = b.scale) :
    a.toInt64? = b.toInt64? := by
  unfold toInt64?
  rw [hsigned, hscale]

/-! ## §2. Exact sums. -/

/-- The greatest number of places in a list. -/
def places (ds : List Decimal) : Nat := ds.foldr (fun d n => max d.scale n) 0

/-- The sum of signed mantissas at a scale. -/
def sumAt (ds : List Decimal) (scale : Nat) : Int := (ds.map fun d => d.signedAt scale).sum

/-- The exact sum of a list, with as many places as any decimal of it has. -/
def exact (ds : List Decimal) : Decimal :=
  ⟨decide (sumAt ds (places ds) < 0), (sumAt ds (places ds)).natAbs, places ds⟩

theorem signed_exact (ds : List Decimal) : (exact ds).signed = sumAt ds (places ds) :=
  signed_mk _ _

theorem places_le_iff {n : Nat} : places ds ≤ n ↔ ∀ d ∈ ds, d.scale ≤ n := by
  induction ds with
  | nil => exact iff_of_true (Nat.zero_le _) (List.forall_mem_nil _)
  | cons d ds ih =>
    rw [List.forall_mem_cons, ← ih]
    exact Nat.max_le

theorem scale_le_places (h : d ∈ ds) : d.scale ≤ places ds :=
  places_le_iff.mp (Nat.le_refl _) d h

theorem places_le_of_subset (h : ds ⊆ ds') : places ds ≤ places ds' :=
  places_le_iff.mpr fun _ hd => scale_le_places (h hd)

theorem places_concat (ds : List Decimal) (d : Decimal) :
    places (ds ++ [d]) = max (places ds) d.scale := by
  refine Nat.le_antisymm (places_le_iff.mpr ?_) (Nat.max_le.mpr ⟨?_, ?_⟩)
  · intro e he
    rcases List.mem_append.mp he with he | he
    · exact Nat.le_trans (scale_le_places he) (Nat.le_max_left _ _)
    · exact List.mem_singleton.mp he ▸ Nat.le_max_right _ _
  · exact places_le_of_subset (List.subset_append_left ds [d])
  · exact scale_le_places (List.mem_append_right ds (List.mem_singleton_self d))

theorem sumAt_concat (ds : List Decimal) (d : Decimal) (s : Nat) :
    sumAt (ds ++ [d]) s = sumAt ds s + d.signedAt s := by
  unfold sumAt
  rw [List.map_append, List.sum_append, List.map_singleton, List.sum_singleton]

theorem sumAt_of_le (hs : places ds ≤ s) (hst : s ≤ t) :
    sumAt ds t = sumAt ds s * (Nat.pow 10 (t - s) : Nat) := by
  unfold sumAt
  rw [← List.sum_map_mul_right]
  apply congrArg List.sum
  apply List.map_congr_left
  intro d hd
  exact signedAt_of_le (Nat.le_trans (scale_le_places hd) hs) hst

/-- The exact sum does not depend on the order. -/
theorem exact_perm (h : ds.Perm ds') : exact ds = exact ds' := by
  have hplaces : places ds = places ds' :=
    Nat.le_antisymm (places_le_of_subset h.subset) (places_le_of_subset h.symm.subset)
  have hsum : ∀ s, sumAt ds s = sumAt ds' s := fun s => (h.map _).sum_eq
  unfold exact
  rw [hplaces, hsum]

/-! ## §3. Decimals that are added. -/

/-- Zero has no places. -/
def Normal (d : Decimal) : Prop := d.mantissa = 0 → d.scale = 0

theorem normal_ofInt64 (n : Int64) : (ofInt64 n).Normal := fun _ => rfl

theorem stripZeros_zero {n : Nat} (scale : Nat) (h : (stripZeros n scale).1 = 0) :
    (stripZeros n scale).2 = 0 := by
  induction scale generalizing n with
  | zero => rfl
  | succ scale ih =>
    unfold stripZeros at h ⊢
    split at h
    · rename_i hzero
      rw [if_pos hzero]
      exact ih h
    · rename_i hdigit
      have hn : n = 0 := h
      exact absurd (hn ▸ Nat.zero_mod 10) hdigit

theorem normal_fit {negative : Bool} {n : Nat} {e : Int} (h : fit negative n e = some d) :
    d.Normal := by
  intro hzero
  unfold fit at h
  split at h
  · simp only at h
    split at h
    · injection h with h
      exact h ▸ rfl
    · cases h
  · injection h with h
    subst h
    exact stripZeros_zero _ hzero

theorem normal_ofFloat {x : Float} (h : ofFloat x = some d) : d.Normal := by
  unfold ofFloat at h
  simp only at h
  split at h
  · cases h
  · split at h
    · injection h with h
      intro _
      exact h ▸ rfl
    · split at h
      · exact normal_fit h
      · obtain ⟨⟨n, e⟩, -, h⟩ := Option.bind_eq_some_iff.mp h
        exact normal_fit h

/-! ## §4. Adding up from left to right. -/

/-- A total that is the exact sum of a list, whatever the sign of zero. -/
structure IsSum (ds : List Decimal) (total : Decimal) : Prop where
  signed : total.signed = (exact ds).signed
  scale : total.scale = (exact ds).scale

/-- Adding a list up from left to right loses nothing: the exact sum of what has been added
fits at every point, and before the end it is no zero with places. -/
structure Lossless (ds : List Decimal) : Prop where
  fits : ∀ p, p <+: ds → (exact p).mantissa < limit
  keeps : ∀ p, p <+: ds → p ≠ ds → (exact p).mantissa = 0 → (exact p).scale = 0

theorem lossless_iff_inits :
    Lossless ds ↔ ∀ p ∈ ds.inits, (exact p).mantissa < limit
      ∧ (p ≠ ds → (exact p).mantissa = 0 → (exact p).scale = 0) := by
  constructor
  · intro h p hp
    have hp := (List.mem_inits p ds).mp hp
    exact ⟨h.fits p hp, h.keeps p hp⟩
  · intro h
    have hinits : ∀ p, p <+: ds → p ∈ ds.inits := fun p hp => (List.mem_inits p ds).mpr hp
    exact ⟨fun p hp => (h p (hinits p hp)).1, fun p hp => (h p (hinits p hp)).2⟩

instance : DecidablePred Lossless := fun _ => decidable_of_iff' _ lossless_iff_inits

theorem roundPlaces_zero (n : Nat) : roundPlaces n 0 = n := by
  have hunit : Nat.pow 10 0 = 1 := rfl
  unfold roundPlaces
  simp only [hunit, Nat.div_one, Nat.mod_one]
  rfl

/-- Nothing is dropped from a mantissa that fits. -/
theorem shorten_of_lt {negative : Bool} {n : Nat} (h : n < limit) (scale : Nat) :
    shorten negative n 0 scale = some ⟨negative, n, scale⟩ := by
  cases scale with
  | zero =>
    unfold shorten
    rw [roundPlaces_zero, if_pos h]
  | succ scale =>
    unfold shorten
    rw [roundPlaces_zero, if_pos h]

variable {total : Decimal}

theorem IsSum.signedAt (h : IsSum ds total) (hs : places ds ≤ s) :
    total.signedAt s = sumAt ds s := by
  have hscale : total.scale = places ds := h.scale
  rw [signedAt_of_le (hscale ▸ Nat.le_refl _ : total.scale ≤ places ds) hs, sumAt_of_le
    (Nat.le_refl _) hs, ← hscale, signedAt_self, h.signed, signed_exact, hscale]

/-- One more decimal, if nothing is lost by adding it. -/
theorem IsSum.add (h : IsSum ds total) (hd : d.Normal)
    (hkeeps : (exact ds).mantissa = 0 → (exact ds).scale = 0)
    (hfits : (exact (ds ++ [d])).mantissa < limit) :
    ∃ next, total.add d = some next ∧ IsSum (ds ++ [d]) next := by
  have hplaces : (exact (ds ++ [d])).scale = max total.scale d.scale := by
    rw [h.scale]
    exact places_concat ds d
  have hsigned : (exact (ds ++ [d])).signed
      = total.signedAt (max total.scale d.scale) + d.signedAt (max total.scale d.scale) := by
    have hle : places ds ≤ max total.scale d.scale := h.scale ▸ Nat.le_max_left _ _
    rw [signed_exact, show places (ds ++ [d]) = _ from hplaces, sumAt_concat, h.signedAt hle]
  have hmantissa : total.mantissa = (exact ds).mantissa := by
    rw [← natAbs_signed, h.signed, natAbs_signed]
  unfold Decimal.add
  split
  · -- a zero total makes way; it has no places that would be lost with it
    rename_i hzero
    have hscale : max total.scale d.scale = d.scale := by
      rw [h.scale, hkeeps (hmantissa ▸ hzero), Nat.zero_max]
    rw [hscale] at hplaces hsigned
    rw [signedAt_of_zero hzero, Int.zero_add, signedAt_self] at hsigned
    exact ⟨d, rfl, hsigned.symm, hplaces.symm⟩
  · split
    · -- a zero that is added has no places to give
      rename_i hzero
      have hscale : max total.scale d.scale = total.scale := by
        rw [hd hzero, Nat.max_zero]
      rw [hscale] at hplaces hsigned
      rw [signedAt_of_zero hzero, Int.add_zero, signedAt_self] at hsigned
      exact ⟨total, rfl, hsigned.symm, hplaces.symm⟩
    · -- at the greater scale the sum is exact, and it fits as it is
      rw [← natAbs_signed, hsigned] at hfits
      refine ⟨_, shorten_of_lt hfits _, ?_, hplaces.symm⟩
      rw [hsigned]
      exact signed_mk _ _

/-- A list that loses nothing adds up to its exact sum. -/
theorem Lossless.foldlM_add (h : Lossless ds) (hnormal : ∀ d ∈ ds, d.Normal) :
    ∃ total, ds.foldlM Decimal.add zero = some total ∧ IsSum ds total := by
  -- by induction on the part that has been added, one decimal after the other
  suffices ∀ p, p <+: ds → ∃ total, p.foldlM Decimal.add zero = some total ∧ IsSum p total from
    this ds (List.prefix_refl ds)
  intro p
  induction p using List.reverseRecOn with
  | nil => exact fun _ => ⟨zero, rfl, rfl, rfl⟩
  | append_singleton p d ih =>
    intro hp
    have hbefore : p <+: ds := (List.prefix_append p [d]).trans hp
    have hproper : p ≠ ds := by
      rintro rfl
      have hlength := hp.length_le
      rw [List.length_append, List.length_singleton] at hlength
      omega
    obtain ⟨total, htotal, hsum⟩ := ih hbefore
    obtain ⟨next, hnext, hsum⟩ := hsum.add (hnormal d (hp.subset (by simp)))
      (h.keeps p hbefore hproper) (h.fits _ hp)
    refine ⟨next, ?_, hsum⟩
    rw [List.foldlM_append, htotal]
    show List.foldlM Decimal.add total [d] = _
    rw [List.foldlM_cons, hnext]
    rfl

/-- Three decimals that lose 22 places when the first two of them cancel out. -/
example :
    [⟨false, 1, 27⟩, ⟨true, 1, 27⟩, ⟨false, 2, 5⟩].foldlM Decimal.add zero = some ⟨false, 2, 5⟩
      ∧ exact [⟨false, 1, 27⟩, ⟨true, 1, 27⟩, ⟨false, 2, 5⟩]
        = ⟨false, 20000000000000000000000, 27⟩ := by
  decide +kernel

/-! ## §5. Lists that lose nothing in any order. -/

/-- The magnitudes of a list at a scale, added up. -/
def magnitudesAt (ds : List Decimal) (scale : Nat) : Nat :=
  (ds.map fun d => (d.signedAt scale).natAbs).sum

/-- A list that loses nothing in any order: the magnitudes add up to one that fits, and the
decimals are whole or of one sign. -/
structure Harmless (ds : List Decimal) : Prop where
  fits : magnitudesAt ds (places ds) < limit
  signs : places ds = 0 ∨ (∀ d ∈ ds, 0 ≤ d.signed) ∨ ∀ d ∈ ds, d.signed ≤ 0

theorem Harmless.perm (h : Harmless ds) (hperm : ds.Perm ds') : Harmless ds' := by
  have hplaces : places ds = places ds' := congrArg scale (exact_perm hperm)
  have hmagnitudes : ∀ s, magnitudesAt ds s = magnitudesAt ds' s := fun s => (hperm.map _).sum_eq
  refine ⟨hplaces ▸ hmagnitudes _ ▸ h.fits, ?_⟩
  rcases h.signs with hwhole | hsign | hsign
  · exact .inl (hplaces ▸ hwhole)
  · exact .inr (.inl fun d hd => hsign d (hperm.mem_iff.mpr hd))
  · exact .inr (.inr fun d hd => hsign d (hperm.mem_iff.mpr hd))

theorem magnitudesAt_cons (d : Decimal) (ds : List Decimal) (s : Nat) :
    magnitudesAt (d :: ds) s = (d.signedAt s).natAbs + magnitudesAt ds s := by
  unfold magnitudesAt
  rw [List.map_cons, List.sum_cons]

theorem sumAt_cons (d : Decimal) (ds : List Decimal) (s : Nat) :
    sumAt (d :: ds) s = d.signedAt s + sumAt ds s := by
  unfold sumAt
  rw [List.map_cons, List.sum_cons]

theorem natAbs_sumAt_le (ds : List Decimal) (s : Nat) :
    (sumAt ds s).natAbs ≤ magnitudesAt ds s := by
  induction ds with
  | nil => exact Nat.le_refl _
  | cons d ds ih =>
    rw [sumAt_cons, magnitudesAt_cons]
    omega

/-- Without cancellation the sum is made of the magnitudes. -/
theorem sumAt_eq_mul {sign : Int} (h : ∀ d ∈ ds, d.signedAt s = sign * (d.signedAt s).natAbs) :
    sumAt ds s = sign * magnitudesAt ds s := by
  induction ds with
  | nil => exact (Int.mul_zero sign).symm
  | cons d ds ih =>
    obtain ⟨hd, hds⟩ := List.forall_mem_cons.mp h
    rw [sumAt_cons, magnitudesAt_cons, ih hds, Int.natCast_add, Int.mul_add, ← hd]

theorem exists_sign (s : Nat) (h : (∀ d ∈ ds, 0 ≤ d.signed) ∨ ∀ d ∈ ds, d.signed ≤ 0) :
    ∃ sign : Int, sign ≠ 0 ∧ ∀ d ∈ ds, d.signedAt s = sign * (d.signedAt s).natAbs := by
  rcases h with h | h
  · refine ⟨1, by decide, ?_⟩
    intro d hd
    have hsigned : 0 ≤ d.signedAt s := Int.mul_nonneg (h d hd) (Int.natCast_nonneg _)
    omega
  · refine ⟨-1, by decide, ?_⟩
    intro d hd
    have hsigned : d.signedAt s ≤ 0 :=
      Int.mul_nonpos_of_nonpos_of_nonneg (h d hd) (Int.natCast_nonneg _)
    omega

/-- Decimals of one sign whose sum is zero are zero. -/
theorem mantissa_of_sumAt (hsigns : (∀ d ∈ ds, 0 ≤ d.signed) ∨ ∀ d ∈ ds, d.signed ≤ 0)
    (h : sumAt ds s = 0) (hd : d ∈ ds) : d.mantissa = 0 := by
  obtain ⟨sign, hsign, hds⟩ := exists_sign s hsigns
  rw [sumAt_eq_mul hds] at h
  have hmagnitudes : magnitudesAt ds s = 0 :=
    Int.natCast_eq_zero.mp ((Int.mul_eq_zero.mp h).resolve_left hsign)
  have hzero := List.sum_eq_zero_iff_forall_eq_nat.mp hmagnitudes _ (List.mem_map_of_mem hd)
  rw [natAbs_signedAt] at hzero
  exact (Nat.mul_eq_zero.mp hzero).resolve_right (Nat.pow_pos (by decide)).ne'

theorem magnitudesAt_le (p q : List Decimal) (h : s ≤ t) :
    magnitudesAt p s ≤ magnitudesAt (p ++ q) t := by
  induction p with
  | nil => exact Nat.zero_le _
  | cons d p ih =>
    rw [List.cons_append, magnitudesAt_cons, magnitudesAt_cons, natAbs_signedAt, natAbs_signedAt]
    have hpow : Nat.pow 10 (s - d.scale) ≤ Nat.pow 10 (t - d.scale) :=
      Nat.pow_le_pow_right (by decide) (Nat.sub_le_sub_right h _)
    exact Nat.add_le_add (Nat.mul_le_mul_left _ hpow) ih

theorem Harmless.lossless (h : Harmless ds) (hnormal : ∀ d ∈ ds, d.Normal) : Lossless ds where
  fits := by
    rintro p ⟨q, rfl⟩
    have hplaces : places p ≤ places (p ++ q) :=
      places_le_of_subset (List.subset_append_left p q)
    calc (exact p).mantissa ≤ magnitudesAt p (places p) := natAbs_sumAt_le p _
      _ ≤ magnitudesAt (p ++ q) (places (p ++ q)) := magnitudesAt_le p q hplaces
      _ < limit := h.fits
  keeps := by
    intro p hp _ hzero
    refine Nat.le_zero.mp ?_
    rcases h.signs with hwhole | hsigns
    · exact hwhole ▸ places_le_of_subset hp.subset
    · -- a sum without cancellation is zero for want of anything but zeros, which have no places
      have hsigns : (∀ d ∈ p, 0 ≤ d.signed) ∨ ∀ d ∈ p, d.signed ≤ 0 := by
        rcases hsigns with hsign | hsign
        · exact .inl fun d hd => hsign d (hp.subset hd)
        · exact .inr fun d hd => hsign d (hp.subset hd)
      have hsum : sumAt p (places p) = 0 := Int.natAbs_eq_zero.mp hzero
      apply places_le_iff.mpr
      intro d hd
      rw [hnormal d (hp.subset hd) (mantissa_of_sumAt hsigns hsum hd)]

end JsonQuery.Number.Decimal
