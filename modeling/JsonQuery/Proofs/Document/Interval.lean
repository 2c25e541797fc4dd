/-
  JsonQuery.Proofs.Document.Interval
  ──────────────────────────────────
  Indexes and spans as half-open intervals of positions.

  A negative integer counts from the end of an array, so it means the length plus itself.
  An index is a position if that lies in the array (`resolveIndex_eq_some_iff`).  A span
  addresses the positions at or after its start and before its stop, whatever became of
  the bounds when they were moved into the array (`Span.mem_bounds_iff`), and its items are
  those at these positions, in order (`Span.positions_eq_filter`).
-/
import JsonQuery.Proofs.Document.Fill

namespace JsonQuery

/-! ## §1. Integers as positions. -/

/-- The position that an integer means, computed in words of 64 bits, which wrap around. -/
def wordFromStart (n : Int64) (length : Nat) : Int64 :=
  if n < 0 then Int64.ofNat length + n else n

/-- As long as the length is a word itself, no sum wraps around. -/
theorem toInt_wordFromStart {length : Nat} (h : (length : Int) ≤ Int64.maxValue.toInt)
    (n : Int64) : (wordFromStart n length).toInt = fromStart n length := by
  have hmax : Int64.maxValue.toInt = 9223372036854775807 := by decide
  have hlow := n.le_toInt
  have hlength : (Int64.ofNat length).toInt = length := Int64.toInt_ofNat_of_lt (by omega)
  by_cases hn : n.toInt < 0
  · have hlt : n < 0 := Int64.lt_iff_toInt_lt.mpr hn
    unfold wordFromStart fromStart
    rw [if_pos hlt, if_pos hn, Int64.toInt_add, hlength]
    apply Int.bmod_eq_of_le <;> omega
  · have hge : ¬ n < 0 := fun hlt => hn (Int64.lt_iff_toInt_lt.mp hlt)
    unfold wordFromStart fromStart
    rw [if_neg hge, if_neg hn]

theorem resolveIndex_eq_some_iff {n : Int64} {length i : Nat} :
    resolveIndex n length = some i ↔
      -(length : Int) ≤ n.toInt ∧ n.toInt < length
        ∧ (i : Int) = if n.toInt < 0 then length + n.toInt else n.toInt := by
  have hrange : 0 ≤ fromStart n length ∧ fromStart n length < length ↔
      -(length : Int) ≤ n.toInt ∧ n.toInt < length := by
    unfold fromStart
    split <;> omega
  show _ ↔ _ ∧ _ ∧ (i : Int) = fromStart n length
  rw [← and_assoc, ← hrange, resolveIndex]
  by_cases h : 0 ≤ fromStart n length ∧ fromStart n length < length
  · simp only [if_pos h, Option.some.injEq]
    omega
  · simp only [if_neg h, reduceCtorEq, false_iff]
    exact fun hi => h hi.1

theorem isSome_resolveIndex_iff {n : Int64} {length : Nat} :
    (∃ i, resolveIndex n length = some i) ↔ -(length : Int) ≤ n.toInt ∧ n.toInt < length := by
  constructor
  · rintro ⟨i, hi⟩
    obtain ⟨hlow, hhigh, -⟩ := resolveIndex_eq_some_iff.mp hi
    exact ⟨hlow, hhigh⟩
  · rintro ⟨hlow, hhigh⟩
    refine ⟨(fromStart n length).toNat, resolveIndex_eq_some_iff.mpr ⟨hlow, hhigh, ?_⟩⟩
    unfold fromStart
    split <;> omega

/-! ## §2. Bounds. -/

namespace Span

/-- Whether a position in an array of `length` items is at or after a start. An absent one does not
restrict. -/
def AtOrAfter (start : Option Int64) (length j : Nat) : Prop :=
  match start with
  | none => True
  | some a => if a.toInt < 0 then length + a.toInt ≤ j else a.toInt ≤ j

/-- Whether a position in an array of `length` items is before a stop. An absent one does not
restrict. -/
def Before (stop : Option Int64) (length j : Nat) : Prop :=
  match stop with
  | none => True
  | some b => if b.toInt < 0 then j < length + b.toInt else j < b.toInt

instance (start : Option Int64) (length j : Nat) : Decidable (AtOrAfter start length j) :=
  match start with
  | none => .isTrue trivial
  | some a => inferInstanceAs (Decidable (if a.toInt < 0 then _ else _))

instance (stop : Option Int64) (length j : Nat) : Decidable (Before stop length j) :=
  match stop with
  | none => .isTrue trivial
  | some b => inferInstanceAs (Decidable (if b.toInt < 0 then _ else _))

/-- For the positions of an array it is the same whether a bound was moved into it. -/
theorem clampBound_le_iff {length j : Nat} (a : Int64) (h : j < length) :
    clampBound length a ≤ j ↔ AtOrAfter (some a) length j := by
  simp only [clampBound, fromStart, AtOrAfter]
  split <;> omega

theorem lt_clampBound_iff {length j : Nat} (b : Int64) :
    j < clampBound length b ↔ j < length ∧ Before (some b) length j := by
  simp only [clampBound, fromStart, Before]
  split <;> omega

/-! ## §3. Spans. -/

/-- Whether a span addresses a position in an array of `length` items. -/
def Admits (span : Span) (length j : Nat) : Prop :=
  match span with
  | .all => True
  | .range start stop => AtOrAfter start length j ∧ Before stop length j

instance (span : Span) (length j : Nat) : Decidable (span.Admits length j) :=
  match span with
  | .all => .isTrue trivial
  | .range start stop =>
    inferInstanceAs (Decidable (AtOrAfter start length j ∧ Before stop length j))

theorem mem_bounds_iff (span : Span) (length j : Nat) :
    (span.bounds length).1 ≤ j ∧ j < (span.bounds length).2 ↔
      j < length ∧ span.Admits length j := by
  cases span with
  | all => simp [bounds, Admits]
  | range start stop =>
    -- below the length, a clamped bound admits the same positions as the bound
    have hlow (hj : j < length) :
        (start.map (clampBound length)).getD 0 ≤ j ↔ AtOrAfter start length j := by
      cases start with
      | none => simp [AtOrAfter]
      | some a => exact clampBound_le_iff a hj
    have hhigh : j < (stop.map (clampBound length)).getD length ↔
        j < length ∧ Before stop length j := by
      cases stop with
      | none => simp [Before]
      | some b => exact lt_clampBound_iff b
    simp only [bounds, sliceBounds, Admits]
    constructor
    · rintro ⟨hl, hh⟩
      have hj := hhigh.mp (by omega)
      exact ⟨hj.1, (hlow hj.1).mp hl, hj.2⟩
    · rintro ⟨hj, ha, hb⟩
      have hl := (hlow hj).mpr ha
      have hh := hhigh.mpr ⟨hj, hb⟩
      exact ⟨hl, by omega⟩

/-! ## §4. The items of a span. -/

/-- The middle part of a list is what stands at its positions. -/
theorem filter_zipIdx_append {α : Type} (pre mid post : List α) {f : α × Nat → Bool}
    (hf : ∀ p : α × Nat, p.2 < (pre ++ mid ++ post).length →
      (f p = true ↔ pre.length ≤ p.2 ∧ p.2 < pre.length + mid.length)) :
    (pre ++ mid ++ post).zipIdx.filter f = mid.zipIdx pre.length := by
  simp only [List.length_append] at hf
  rw [List.zipIdx_append, List.zipIdx_append, List.filter_append, List.filter_append, Nat.zero_add,
    Nat.zero_add, List.length_append]
  -- each of the three parts is either dropped whole or kept whole
  have hpre : pre.zipIdx.filter f = [] := by
    refine List.filter_eq_nil_iff.mpr fun p hp => ?_
    have hlt := List.snd_lt_add_of_mem_zipIdx hp
    rw [hf p (by omega)]
    omega
  have hmid : (mid.zipIdx pre.length).filter f = mid.zipIdx pre.length := by
    refine List.filter_eq_self.mpr fun p hp => ?_
    have hlt := List.snd_lt_add_of_mem_zipIdx hp
    have hle := List.le_snd_of_mem_zipIdx hp
    rw [hf p (by omega)]
    omega
  have hpost : (post.zipIdx (pre.length + mid.length)).filter f = [] := by
    refine List.filter_eq_nil_iff.mpr fun p hp => ?_
    have hlt := List.snd_lt_add_of_mem_zipIdx hp
    have hle := List.le_snd_of_mem_zipIdx hp
    rw [hf p (by omega)]
    omega
  rw [hpre, hmid, hpost, List.nil_append, List.append_nil]

/-- The items that a span addresses are those at the positions that it admits, in order. -/
theorem positions_eq_filter (span : Span) (items : List Json) :
    span.positions items = items.zipIdx.filter fun p => span.Admits items.length p.2 := by
  obtain ⟨hle, hlen⟩ := span.bounds_le items.length
  -- the bounds cut the items into three parts, of which the span addresses the middle one
  have hlow : (items.take (span.bounds items.length).1).length
      = (span.bounds items.length).1 := by
    rw [List.length_take]
    omega
  have hhigh : (items.take (span.bounds items.length).1).length + (span.items items).length
      = (span.bounds items.length).2 := by
    rw [hlow, Span.items, List.length_drop, List.length_take]
    omega
  have hadmits : ∀ p : Json × Nat, p.2 < items.length →
      (decide (span.Admits items.length p.2) = true ↔
        (span.bounds items.length).1 ≤ p.2 ∧ p.2 < (span.bounds items.length).2) := by
    intro p hp
    rw [decide_eq_true_eq, span.mem_bounds_iff, and_iff_right hp]
  have hmid := filter_zipIdx_append (items.take (span.bounds items.length).1) (span.items items)
    (items.drop (span.bounds items.length).2) (f := fun p => span.Admits items.length p.2)
    (by rwa [span.append_items, hhigh, hlow])
  rw [span.append_items, hlow, ← span.positions_eq] at hmid
  exact hmid.symm

/-- A bound splits an array into what is before it and what is not. -/
theorem items_append_items (items : List Json) (a : Int64) :
    (range none (some a)).items items ++ (range (some a) none).items items = items := by
  have hle : clampBound items.length a ≤ items.length := Nat.min_le_right _ _
  simp [Span.items, Span.bounds, sliceBounds, Nat.max_eq_left hle]

end Span

end JsonQuery
