/-
  JsonQuery.Proofs.Function.Standard
  ──────────────────────────────────
  The standard functions are behaved.

  They report failures of their own only.  What they yield is a scalar, a list of scalars
  or, when a list is sorted, the items that it had.  The one float that they compute is the
  total of a sum, which is finite.
-/
import JsonQuery.Function.Standard
import JsonQuery.Proofs.Eval.Safety
import JsonQuery.Proofs.Number.Decimal

namespace JsonQuery

variable {allowed : Float → Prop} {reports : RuntimeError → Prop} {α : Type}

/-! ## §1. Registries. -/

theorem Registry.mem_insert {f g : Function} {functions : List Function}
    (h : g ∈ insert f functions) : g = f ∨ g ∈ functions := by
  induction functions with
  | nil => exact .inl (List.mem_singleton.mp h)
  | cons first rest ih =>
    unfold insert at h
    split at h
    · rcases List.mem_cons.mp h with h | h
      · exact .inl h
      · exact .inr (List.mem_cons_of_mem _ h)
    · rcases List.mem_cons.mp h with h | h
      · exact .inr (h ▸ List.mem_cons_self)
      · exact (ih h).imp_right (List.mem_cons_of_mem _)

/-- A registry has no functions but those it was made of. -/
theorem Registry.mem_ofList {functions : List Function} {f : Function}
    (h : f ∈ (ofList functions).functions) : f ∈ functions := by
  have hfold : ∀ (fs : List Function) (r : Registry),
      f ∈ (fs.foldl Registry.register r).functions → f ∈ r.functions ∨ f ∈ fs := by
    intro fs
    induction fs with
    | nil => exact fun r h => .inl h
    | cons g fs ih =>
      intro r h
      rcases ih (r.register g) h with h | h
      · rcases Registry.mem_insert h with rfl | h
        · exact .inr List.mem_cons_self
        · exact .inl h
      · exact .inr (List.mem_cons_of_mem g h)
  rcases hfold functions empty h with h | h
  · cases h
  · exact h

/-- A registry of behaved functions is behaved. -/
theorem Registry.behaved_ofList {functions : List Function}
    (h : ∀ f ∈ functions, f.Behaved allowed reports) :
    (ofList functions).Behaved allowed reports :=
  fun f hf => h f (mem_ofList hf)

/-! ## §2. Sorting. -/

theorem within_fail {V : α → Prop} (call : Invocation) (message : String) :
    Within V RuntimeError.Ordinary (call.fail message) := trivial

theorem within_sortKeyArgument (call : Invocation) :
    Within (fun _ => True) RuntimeError.Ordinary (sortKeyArgument call) := by
  unfold sortKeyArgument
  split
  · exact trivial
  · exact trivial
  · split
    · exact trivial
    · exact within_fail _ _
  · exact within_fail _ _

theorem within_sortKey (call : Invocation) (key : Option Json) (item : Json) :
    Within (fun _ => True) RuntimeError.Ordinary (sortKey call key item) := by
  unfold sortKey
  split
  · exact trivial
  · split
    · exact trivial
    · exact within_fail _ _

theorem within_checkComparable (call : Invocation) (keys : List Json) :
    Within (fun _ => True) RuntimeError.Ordinary (checkComparable call keys) := by
  unfold checkComparable
  split
  · exact trivial
  · split
    · exact within_fail _ _
    · split
      · exact trivial
      · exact within_fail _ _

theorem perm_stableSort (before : α → α → Bool) (xs : List α) :
    (stableSort before xs).Perm xs := by
  -- what is sorted so far together with what is left holds the same items throughout
  have hfold : ∀ (xs sorted : List α),
      (xs.foldl (fun sorted x => insertLast before x sorted) sorted).Perm (xs ++ sorted) := by
    intro xs
    induction xs with
    | nil => exact fun sorted => .refl _
    | cons x xs ih =>
      intro sorted
      have hinsert := (perm_insertLast before x sorted).append_left xs
      exact ((ih _).trans hinsert).trans List.perm_middle
  have h := hfold xs []
  rw [List.append_nil] at h
  exact (List.reverse_perm _).trans h

/-- What is sorted holds the items that it held before. -/
theorem mem_sortKeyed {direction : Direction} {items keys : List Json} {v : Json}
    (h : v ∈ (sortKeyed direction (items.zip keys)).map Prod.fst) : v ∈ items := by
  obtain ⟨p, hp, rfl⟩ := List.mem_map.mp h
  exact (List.of_mem_zip ((perm_stableSort _ _).mem_iff.mp hp)).1

theorem within_sortList (direction : Direction) {call : Invocation}
    (hvalue : call.value.Lawful allowed) :
    Within (Json.Lawful allowed) RuntimeError.Ordinary (sortList direction call) := by
  unfold sortList
  split
  · rename_i items hitems
    rw [hitems] at hvalue
    -- keys only order the items, so nothing is asked of them
    refine (within_sortKeyArgument call).bind fun key _ => ?_
    refine (Within.mapM fun item _ => within_sortKey call key item).bind fun keys _ => ?_
    refine (within_checkComparable call keys).bind fun _ _ => ?_
    exact .arr fun v hv => hvalue.items v (mem_sortKeyed hv)
  · exact within_fail _ _

/-! ## §3. The other functions. -/

theorem within_changeCase (change : String → String) (call : Invocation) :
    Within (Json.Lawful allowed) RuntimeError.Ordinary (changeCase change call) := by
  unfold changeCase
  split
  · exact .str _
  · exact within_fail _ _

theorem within_subject (call : Invocation) :
    Within (fun _ => True) RuntimeError.Ordinary (subject call) := by
  unfold subject
  split
  · exact trivial
  · exact within_fail _ _

theorem within_patternArgument (call : Invocation) (arg : Json) :
    Within (fun _ => True) RuntimeError.Ordinary (patternArgument call arg) := by
  unfold patternArgument
  split
  · exact trivial
  · exact within_fail _ _

theorem within_replaceMatches (call : Invocation) :
    Within (Json.Lawful allowed) RuntimeError.Ordinary (replaceMatches call) := by
  unfold replaceMatches
  split
  · refine (within_subject call).bind fun s _ => ?_
    exact (within_patternArgument call _).bind fun p _ => .str _
  · exact within_fail _ _

theorem within_testPattern (call : Invocation) :
    Within (Json.Lawful allowed) RuntimeError.Ordinary (testPattern call) := by
  unfold testPattern
  split
  · refine (within_subject call).bind fun s _ => ?_
    exact (within_patternArgument call _).bind fun p _ => .bool _
  · exact within_fail _ _

theorem within_countEntries (call : Invocation) :
    Within (Json.Lawful allowed) RuntimeError.Ordinary (countEntries call) := by
  unfold countEntries
  split
  · exact .int _
  · exact .int _
  · exact within_fail _ _

theorem within_listKeys (call : Invocation) :
    Within (Json.Lawful allowed) RuntimeError.Ordinary (listKeys call) := by
  unfold listKeys
  split
  · refine .arr fun v hv => ?_
    obtain ⟨k, -, rfl⟩ := List.mem_map.mp hv
    exact .str k
  · exact within_fail _ _

/-- The totals of a sum fit the decimals. -/
theorem within_addItem (call : Invocation) {total : Number.Decimal} (htotal : total.Fits)
    (item : Json) : Within Number.Decimal.Fits RuntimeError.Ordinary (addItem call total item) := by
  have haddend : Within Number.Decimal.Fits RuntimeError.Ordinary (addend call item) := by
    unfold addend
    split
    · exact Number.Decimal.fits_ofInt64 _
    · split
      · rename_i hx
        exact Number.Decimal.fits_ofFloat hx
      · exact within_fail _ _
    · exact within_fail _ _
  unfold addItem
  refine haddend.bind fun d hd => ?_
  split
  · rename_i hadd
    exact Number.Decimal.fits_add htotal hd hadd
  · exact within_fail _ _

theorem within_sumList (hallowed : ∀ d : Number.Decimal, d.Fits → allowed d.toFloat)
    (call : Invocation) : Within (Json.Lawful allowed) RuntimeError.Ordinary (sumList call) := by
  unfold sumList
  split
  · refine (Within.foldlM (fun total item _ htotal => within_addItem call htotal item)
      Number.Decimal.fits_zero).bind fun total htotal => ?_
    split
    · split
      · exact .int _
      · exact within_fail _ _
    · exact .float (hallowed total htotal)
  · exact within_fail _ _

/-! ## §4. The standard registry. -/

/-- The standard functions yield lawful values where decimals are allowed as floats. -/
theorem Registry.behaved_standard_of
    (hallowed : ∀ d : Number.Decimal, d.Fits → allowed d.toFloat) :
    standard.Behaved allowed RuntimeError.Ordinary := by
  refine behaved_ofList ?_
  simp only [List.forall_mem_cons]
  refine ⟨?_, ?_, ?_, ?_, ?_, ?_, ?_, ?_, ?_, List.forall_mem_nil _⟩
  · exact fun call _ hvalue _ => within_sortList .ascending hvalue
  · exact fun call _ hvalue _ => within_sortList .descending hvalue
  · exact fun call _ _ _ => within_changeCase _ call
  · exact fun call _ _ _ => within_changeCase _ call
  · exact fun call _ _ _ => within_replaceMatches call
  · exact fun call _ _ _ => within_countEntries call
  · exact fun call _ _ _ => within_listKeys call
  · exact fun call _ _ _ => within_sumList hallowed call
  · exact fun call _ _ _ => within_testPattern call

/-- The standard functions keep the keys of objects distinct and report failures of their own. -/
theorem Registry.behaved_standard :
    standard.Behaved (fun _ => True) RuntimeError.Ordinary :=
  behaved_standard_of fun _ _ => trivial

/-- The standard functions keep values printable. -/
theorem Registry.behaved_standard_finite :
    standard.Behaved (fun x => x.isFinite = true) RuntimeError.Ordinary :=
  behaved_standard_of fun _ h => h.isFinite_toFloat

end JsonQuery
