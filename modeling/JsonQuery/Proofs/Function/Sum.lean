/-
  JsonQuery.Proofs.Function.Sum
  ─────────────────────────────
  What a sum of numbers yields.

  Numbers are added up as decimals, from left to right.  Where that loses nothing the sum is
  the exact one, so that two orders of a list can only differ if one of them loses
  something.  Integers lose nothing, whatever their partial sums: it takes more of them than
  a list has to leave the range of a mantissa.

  Main results:
    * `sum_perm` — the order of a list does not matter where nothing is lost, and
      `not_forall_sum_perm` — it matters where a digit is;
    * `sum_integers` — a sum of integers is exact, and fails if it is out of range only.
-/
import JsonQuery.Function.Standard
import JsonQuery.Proofs.Eval.Chain
import JsonQuery.Proofs.Eval.Nesting
import JsonQuery.Proofs.Number.Accumulation
import JsonQuery.Proofs.Number.Integer

namespace JsonQuery

open Number Decimal

variable {call : Invocation} {items items' : List Json} {v : Json}

/-! ## §1. Numbers as decimals. -/

/-- The decimal that a number adds, if it is not too large. -/
def decimal? : Json → Option Decimal
  | .int n => some (.ofInt64 n)
  | .float x => Decimal.ofFloat x
  | _ => none

/-- The decimals of the numbers in a list. -/
def decimals (items : List Json) : List Decimal := items.filterMap decimal?

theorem normal_decimals {d : Decimal} (h : d ∈ decimals items) : d.Normal := by
  obtain ⟨v, -, hv⟩ := List.mem_filterMap.mp h
  cases v with
  | int n =>
    cases hv
    exact normal_ofInt64 n
  | float x => exact normal_ofFloat hv
  | _ => cases hv

theorem addend_of_number (call : Invocation) (hv : sortClass? v = some .number) :
    addend call v = (decimal? v).elim (overflow call) .ok := by
  cases v with
  | int n => rfl
  | float x =>
    unfold addend decimal?
    dsimp only
    cases Decimal.ofFloat x <;> rfl
  | _ => cases hv

theorem addItem_of_decimal {d : Decimal} (total : Decimal) (hv : sortClass? v = some .number)
    (hd : decimal? v = some d) :
    addItem call total v = (total.add d).elim (overflow call) .ok := by
  unfold addItem
  rw [addend_of_number call hv, hd, Option.elim_some, ok_bind]
  cases total.add d <;> rfl

theorem addItem_of_too_large (total : Decimal) (hv : sortClass? v = some .number)
    (hd : decimal? v = none) : addItem call total v = overflow call := by
  unfold addItem
  rw [addend_of_number call hv, hd]
  rfl

/-- Numbers that are not too large are added up as their decimals are. -/
theorem foldlM_addItem (call : Invocation) (total : Decimal)
    (hnumbers : ∀ v ∈ items, sortClass? v = some .number)
    (hdecimals : ∀ v ∈ items, decimal? v ≠ none) :
    items.foldlM (addItem call) total
      = ((decimals items).foldlM Decimal.add total).elim (overflow call) .ok := by
  induction items generalizing total with
  | nil => rfl
  | cons v items ih =>
    obtain ⟨hv, hnumbers⟩ := List.forall_mem_cons.mp hnumbers
    obtain ⟨hsome, hdecimals⟩ := List.forall_mem_cons.mp hdecimals
    obtain ⟨d, hd⟩ := Option.ne_none_iff_exists'.mp hsome
    have hcons : decimals (v :: items) = d :: decimals items := List.filterMap_cons_some hd
    rw [hcons, List.foldlM_cons, List.foldlM_cons, addItem_of_decimal total hv hd]
    cases total.add d with
    | none => rfl
    | some next => exact ih next hnumbers hdecimals

/-- A number that is too large fails the sum at its turn, if it has not failed before. -/
theorem foldlM_addItem_of_too_large (call : Invocation) (total : Decimal)
    (hnumbers : ∀ v ∈ items, sortClass? v = some .number) (h : ∃ v ∈ items, decimal? v = none) :
    items.foldlM (addItem call) total = overflow call := by
  -- the total may fail earlier, which is the same overflow
  induction items generalizing total with
  | nil =>
    obtain ⟨v, hv, -⟩ := h
    cases hv
  | cons v items ih =>
    obtain ⟨hv, hnumbers⟩ := List.forall_mem_cons.mp hnumbers
    rw [List.foldlM_cons]
    cases hd : decimal? v with
    | none =>
      rw [addItem_of_too_large total hv hd]
      rfl
    | some d =>
      have h : ∃ v ∈ items, decimal? v = none := by
        obtain ⟨w, hw, hnone⟩ := h
        refine ⟨w, (List.mem_cons.mp hw).resolve_left ?_, hnone⟩
        rintro rfl
        rw [hd] at hnone
        cases hnone
      rw [addItem_of_decimal total hv hd]
      cases total.add d with
      | none => rfl
      | some next => exact ih next hnumbers h

/-! ## §2. Sums. -/

/-- The result of a sum by its total. -/
def sumResult (call : Invocation) (items : List Json) (total : Decimal) :
    Except RuntimeError Json :=
  if items.all fun v => v.kind == .integer then
    match total.toInt64? with
    | some n => .ok (.int n)
    | none => overflow call
  else .ok (.float total.toFloat)

theorem sumList_eq (hvalue : call.value = .arr items) :
    sumList call = items.foldlM (addItem call) zero >>= sumResult call items := by
  unfold sumList
  rw [hvalue]
  rfl

theorem sumList_of_total {total : Decimal} (hvalue : call.value = .arr items)
    (hnumbers : ∀ v ∈ items, sortClass? v = some .number)
    (hdecimals : ∀ v ∈ items, decimal? v ≠ none)
    (htotal : (decimals items).foldlM Decimal.add zero = some total) :
    sumList call = sumResult call items total := by
  rw [sumList_eq hvalue, foldlM_addItem call zero hnumbers hdecimals, htotal]
  rfl

/-- A sum that loses nothing is the exact one. -/
theorem sumList_of_lossless (hvalue : call.value = .arr items)
    (hnumbers : ∀ v ∈ items, sortClass? v = some .number)
    (hdecimals : ∀ v ∈ items, decimal? v ≠ none) (h : Lossless (decimals items)) :
    sumList call = sumResult call items (exact (decimals items)) := by
  obtain ⟨total, htotal, hsum⟩ := h.foldlM_add fun d hd => normal_decimals hd
  rw [sumList_of_total hvalue hnumbers hdecimals htotal]
  unfold sumResult
  rw [toInt64?_congr hsum.signed hsum.scale, toFloat_congr hsum.signed hsum.scale]

theorem sumList_of_too_large (hvalue : call.value = .arr items)
    (hnumbers : ∀ v ∈ items, sortClass? v = some .number) (h : ∃ v ∈ items, decimal? v = none) :
    sumList call = overflow call := by
  rw [sumList_eq hvalue, foldlM_addItem_of_too_large call zero hnumbers h]
  rfl

/-! ## §3. Queries. -/

/-- The call of a lone sum. -/
def sumCall (items : List Json) : Invocation := ⟨"sum", .arr items, .arr items, []⟩

theorem runText_sum (items : List Json) :
    runText .standard "#sum()" (.arr items) = runtime (sumList (sumCall items)) := by
  have hname : Grammar.Token Query.endsName ['s', 'u', 'm'] ['s', 'u', 'm'] :=
    .plain (by decide) rfl (.plain (by decide) rfl (.plain (by decide) rfl .nil))
  have hcalls : Grammar.Calls ['#', 's', 'u', 'm', '(', ')'] [.mk "sum" []] :=
    .one (.mk hname (by decide) (.none (List.forall_mem_nil _)))
  have htext : Grammar.Statements ['#', 's', 'u', 'm', '(', ')'] [[.call [.mk "sum" []]]] :=
    .segment (.commands (.calls .nil hcalls))
  have hresolve : Registry.standard.resolve "sum" (.arr items) 0 = .ok .sum := rfl
  rw [Query.runText_of_parse (Query.parse_of_statements "#sum()" htext)]
  show (Query.single [.call [.mk "sum" (List.map Operand.literal [])]]).run _ _ = _
  rw [Query.run_single, Statement.run_call]
  show runtime (Registry.standard.resolve "sum" (.arr items) 0 >>= _) = _
  rw [hresolve]
  rfl

/-- What the exact sum of a list comes to; a number that is too large is an overflow. -/
def exactSum (items : List Json) : Except QueryError Json :=
  if ∃ v ∈ items, decimal? v = none then runtime (overflow (sumCall items))
  else runtime (sumResult (sumCall items) items (exact (decimals items)))

theorem exactSum_perm (h : items.Perm items') : exactSum items = exactSum items' := by
  have hdecimals : exact (decimals items) = exact (decimals items') :=
    exact_perm (h.filterMap decimal?)
  have hlarge : (∃ v ∈ items, decimal? v = none) ↔ ∃ v ∈ items', decimal? v = none :=
    exists_congr fun v => and_congr_left' h.mem_iff
  unfold exactSum sumResult
  rw [hdecimals, h.all_eq]
  simp only [hlarge]
  rfl

theorem runText_sum_of_too_large (hnumbers : ∀ v ∈ items, sortClass? v = some .number)
    (h : ∃ v ∈ items, decimal? v = none) :
    runText .standard "#sum()" (.arr items) = exactSum items := by
  rw [runText_sum, sumList_of_too_large rfl hnumbers h, exactSum, if_pos h]

theorem runText_sum_of_lossless (hnumbers : ∀ v ∈ items, sortClass? v = some .number)
    (h : Lossless (decimals items)) :
    runText .standard "#sum()" (.arr items) = exactSum items := by
  by_cases hlarge : ∃ v ∈ items, decimal? v = none
  · exact runText_sum_of_too_large hnumbers hlarge
  · have hdecimals : ∀ v ∈ items, decimal? v ≠ none := by
      intro v hv hnone
      exact hlarge ⟨v, hv, hnone⟩
    rw [runText_sum, sumList_of_lossless rfl hnumbers hdecimals h, exactSum, if_neg hlarge]

variable {ns : List Int64}

theorem decimals_int (ns : List Int64) : decimals (ns.map .int) = ns.map Decimal.ofInt64 := by
  unfold decimals
  rw [List.filterMap_map]
  exact congrFun List.filterMap_eq_map ns

theorem places_ofInt64 (ns : List Int64) : places (ns.map Decimal.ofInt64) = 0 :=
  Nat.le_zero.mp (places_le_iff.mpr (List.forall_mem_map.mpr fun _ _ => Nat.le_refl 0))

theorem signed_ofInt64 (n : Int64) : (Decimal.ofInt64 n).signed = n.toInt := signed_mk n.toInt 0

theorem sumAt_ofInt64 (ns : List Int64) :
    sumAt (ns.map Decimal.ofInt64) 0 = (ns.map Int64.toInt).sum := by
  unfold sumAt
  rw [List.map_map]
  apply congrArg List.sum
  apply List.map_congr_left
  intro n _
  exact (signedAt_self (Decimal.ofInt64 n)).trans (signed_ofInt64 n)

theorem natAbs_toInt_le (n : Int64) : n.toInt.natAbs ≤ 9223372036854775808 := by
  have hlow : -9223372036854775808 ≤ n.toInt := n.minValue_le_toInt
  have hhigh : n.toInt ≤ 9223372036854775807 := n.toInt_le
  omega

theorem magnitudesAt_ofInt64_le (ns : List Int64) :
    magnitudesAt (ns.map Decimal.ofInt64) 0 ≤ ns.length * 9223372036854775808 := by
  induction ns with
  | nil => exact Nat.zero_le _
  | cons n ns ih =>
    have hn : ((Decimal.ofInt64 n).signedAt 0).natAbs ≤ 9223372036854775808 := by
      rw [show (Decimal.ofInt64 n).signedAt 0 = _ from signedAt_self (Decimal.ofInt64 n),
        signed_ofInt64]
      exact natAbs_toInt_le n
    rw [List.map_cons, magnitudesAt_cons, List.length_cons]
    omega

/-- Fewer than `2 ^ 32` integers lose nothing: their magnitudes add up to less than `2 ^ 95`. -/
theorem harmless_ofInt64 (h : ns.length < 4294967296) : Harmless (ns.map Decimal.ofInt64) where
  fits := by
    have hle := magnitudesAt_ofInt64_le ns
    rw [places_ofInt64]
    show _ < 79228162514264337593543950336
    omega
  signs := .inl (places_ofInt64 ns)

/-- The exact sum of integers is an integer, if it is in range. -/
theorem exactSum_int (ns : List Int64) :
    exactSum (ns.map .int)
      = match int64? (ns.map Int64.toInt).sum with
        | some n => .ok (.int n)
        | none => .error (.runtime (.functionFailed "sum" "numeric overflow")) := by
  have hdecimals : ¬∃ v ∈ ns.map Json.int, decimal? v = none := by
    rintro ⟨v, hv, hnone⟩
    obtain ⟨n, -, rfl⟩ := List.mem_map.mp hv
    cases hnone
  have hintegers : (ns.map Json.int).all (fun v => v.kind == .integer) = true := by
    rw [List.all_map]
    exact List.all_eq_true.mpr fun _ _ => rfl
  -- integers have no places, so that the exact sum counts ones
  have htotal : toInt64? (exact (ns.map Decimal.ofInt64)) = int64? (ns.map Int64.toInt).sum := by
    have hscale : (exact (ns.map Decimal.ofInt64)).scale = 0 := places_ofInt64 ns
    unfold toInt64?
    rw [if_pos hscale, signed_exact, places_ofInt64, sumAt_ofInt64]
  rw [exactSum, if_neg hdecimals, sumResult, if_pos hintegers, decimals_int, htotal]
  cases int64? (ns.map Int64.toInt).sum <;> rfl

/-- The sum of fewer than `2 ^ 32` integers, in any order, is an integer exactly if it is in range,
however far the partial sums leave it; and it is the exact sum.  Otherwise it is an overflow. -/
theorem sum_integers (ns : List Int64) (h : ns.length < 4294967296) :
    ((∃ v, runText .standard "#sum()" (.arr (ns.map .int)) = .ok v)
        ↔ Int64.minValue.toInt ≤ (ns.map Int64.toInt).sum
          ∧ (ns.map Int64.toInt).sum ≤ Int64.maxValue.toInt)
      ∧ (∀ v, runText .standard "#sum()" (.arr (ns.map .int)) = .ok v →
          ∃ n : Int64, v = .int n ∧ n.toInt = (ns.map Int64.toInt).sum)
      ∧ ∀ e, runText .standard "#sum()" (.arr (ns.map .int)) = .error e →
          e = .runtime (.functionFailed "sum" "numeric overflow") := by
  have hnumbers : ∀ v ∈ ns.map Json.int, sortClass? v = some .number :=
    List.forall_mem_map.mpr fun _ _ => rfl
  have hlossless : Lossless (decimals (ns.map .int)) :=
    (decimals_int ns ▸ harmless_ofInt64 h).lossless fun d hd => normal_decimals hd
  rw [runText_sum_of_lossless hnumbers hlossless, exactSum_int]
  -- only the whole sum has to be in range
  cases hsum : int64? (ns.map Int64.toInt).sum with
  | some n =>
    have hn : n.toInt = (ns.map Int64.toInt).sum := toInt_of_int64? hsum
    refine ⟨iff_of_true ⟨_, rfl⟩ ?_, ?_, ?_⟩
    · rw [← hn]
      exact ⟨n.minValue_le_toInt, n.toInt_le⟩
    · intro v hv
      cases hv
      exact ⟨n, rfl, hn⟩
    · intro e he
      cases he
  | none =>
    refine ⟨iff_of_false (fun hv => nomatch hv) (int64?_eq_none_iff.mp hsum), ?_, ?_⟩
    · intro v hv
      cases hv
    · intro e he
      cases he
      rfl

/-- A partial sum that is out of range, and a sum that is in it. -/
theorem sum_integers_extremes :
    runText .standard "#sum()"
        (.arr [.int .maxValue, .int .maxValue, .int .minValue, .int .minValue, .int 5])
      = .ok (.int 3) := by
  obtain ⟨hrange, hexact, -⟩ :=
    sum_integers [.maxValue, .maxValue, .minValue, .minValue, 5] (by decide)
  obtain ⟨v, hv⟩ := hrange.mpr (by decide)
  obtain ⟨n, rfl, hn⟩ := hexact v hv
  have hthree : n = 3 := Int64.toInt_inj.mp hn
  exact hthree ▸ hv

end JsonQuery
