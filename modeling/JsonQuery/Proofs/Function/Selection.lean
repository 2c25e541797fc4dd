/-
  JsonQuery.Proofs.Function.Selection
  ───────────────────────────────────
  Sorting by a key and selecting the key commute.

  A sort looks its key up where a selector goes, in items of every kind and under keys of
  every kind (`lookupKey_value`).  A list sorted by a key therefore has under the key what
  sorting the selected values yields: the sort moves items as it moves their keys, ties
  and keys that cannot be told apart included (`map_stableSort`).

  Main result:
    * `sort_select_comm` — either order of the two statements yields the same list, and
      both succeed just where every item has the key and the keys are of one class.
-/
import JsonQuery.Proofs.Eval.Chain
import JsonQuery.Proofs.Function.Sort

namespace JsonQuery

/-! ## §1. Looking up and selecting. -/

/-- A key as the value that a call is given for it. -/
def Key.value : Key → Json
  | .name s => .str s
  | .index n => .int n
  | .number x => .float x

theorem Key.text_value (key : Key) : key.value.text = key.text := by cases key <;> rfl

/-- A sort finds the key of an item where a selector goes. -/
theorem lookupKey_value (v : Json) (key : Key) :
    lookupKey v key.value = (v.slot key).toOption.map Prod.snd := by
  unfold Json.slot
  cases v with
  | arr items =>
    cases key with
    | index n =>
      show (item? items n).map Prod.snd = _
      dsimp only
      cases item? items n <;> rfl
    | _ => rfl
  | obj entries =>
    show Entries.get? entries key.value.text = _
    rw [key.text_value]
    dsimp only
    cases Entries.get? entries key.text <;> rfl
  | _ => rfl

theorem select_eq_ok_iff {v w : Json} {key : Key} :
    v.select key = .ok w ↔ lookupKey v key.value = some w := by
  rw [lookupKey_value, Json.select]
  cases v.slot key with
  | error e => exact iff_of_false (fun h => nomatch h) (fun h => nomatch h)
  | ok s => exact Except.ok.injEq s.2 w ▸ Option.some.injEq s.2 w ▸ Iff.rfl

/-! ## §2. The two statements. -/

/-- The values of all items under a key. -/
def Statement.selectAll (key : Key) : Statement := [.iterate .all, .select key]

/-- A sort with its arguments. -/
def Statement.sortBy (direction : Direction) (args : List Json) : Statement :=
  [.call [.mk direction.function.name (args.map .literal)]]

variable {direction : Direction} {key : Key} {items : List Json}

theorem run_selectAll (r : Registry) (key : Key) (items : List Json) :
    Statement.run r (Statement.selectAll key) (.arr items) = do
      let keys ← items.mapM fun item : Json => item.select key
      return .arr keys := by
  have hitems : Span.items .all items = items := by simp [Span.items, Span.bounds]
  have hlast : (Statement.selectAll key).getLast? = some (.select key) := rfl
  rw [Statement.run_eq_read hlast rfl, Statement.selectAll, Plain.read]
  simp only [Plain.read, Plain.readLast]
  show (Span.items .all items).mapM _ >>= _ = _
  rw [hitems]
  rfl

theorem run_sortBy (direction : Direction) {args : List Json} {arg : Option Json}
    (hargs : KeyArgument args arg) (items : List Json) :
    Statement.run .standard (Statement.sortBy direction args) (.arr items)
      = runtime (sortList direction
          ⟨direction.function.name, .arr items, .arr items, args⟩) := by
  have hresolve : Registry.standard.resolve direction.function.name (.arr items) args.length
      = .ok direction.function := by
    cases direction <;> cases hargs <;> rfl
  rw [Statement.sortBy, Statement.run_call, hresolve, ok_bind, direction.run_function]

theorem KeyArgument.unique {args : List Json} {arg arg' : Option Json}
    (h : KeyArgument args arg) (h' : KeyArgument args arg') : arg = arg' := by
  cases h <;> cases h' <;> rfl

/-- What a sort that succeeded could sort by. -/
theorem class_of_run_sortBy {args : List Json} {arg : Option Json} {v : Json}
    (hargs : KeyArgument args arg)
    (h : Statement.run .standard (Statement.sortBy direction args) (.arr items) = .ok v) :
    ∃ sortClass, ∀ item ∈ items, ∃ k, yieldedKey arg item = some k
      ∧ sortClass? k = some sortClass := by
  rw [run_sortBy direction hargs] at h
  obtain ⟨_, _, sortClass, hvalue, hargs', hkeys⟩ :=
    exists_class_of_sortList (runtime_eq_ok_iff.mp h)
  cases hvalue
  cases hargs.unique hargs'
  exact ⟨sortClass, hkeys⟩

/-- A sort of items whose keys are known. -/
theorem run_sortBy_of_keys (direction : Direction) {args : List Json} {arg : Option Json}
    {keyAt : Json → Json} {sortClass : SortClass} (hargs : KeyArgument args arg)
    (hkeys : ∀ item ∈ items, yieldedKey arg item = some (keyAt item)
      ∧ sortClass? (keyAt item) = some sortClass) :
    Statement.run .standard (Statement.sortBy direction args) (.arr items)
      = .ok (.arr (stableSort (fun a b => direction.before (keyAt a) (keyAt b)) items)) := by
  rw [run_sortBy direction hargs, sortList_eq_ok direction rfl hargs hkeys]
  rfl

/-! ## §3. One after the other. -/

/-- Every item has a value under the key, and all of these values are of one class. -/
def KeyedBy (key : Key) (items : List Json) : Prop :=
  ∃ sortClass, ∀ item ∈ items, ∃ k, lookupKey item key.value = some k
    ∧ sortClass? k = some sortClass

theorem mapM_select {keyAt : Json → Json}
    (h : ∀ item ∈ items, lookupKey item key.value = some (keyAt item)) :
    (items.mapM fun item : Json => item.select key) = .ok (items.map keyAt) := by
  rw [mapM_congr fun item hitem => select_eq_ok_iff.mpr (h item hitem)]
  exact List.mapM_pure

theorem keyedBy_of_sort_select {v : Json}
    (h : (Query.piped [Statement.sortBy direction [key.value], Statement.selectAll key]).run
      .standard (.arr items) = .ok v) : KeyedBy key items := by
  rw [Statement.run_pair] at h
  obtain ⟨w, hw, -⟩ := bind_eq_ok_iff.mp h
  exact class_of_run_sortBy (.key key.value) hw

theorem keyedBy_of_select_sort {v : Json}
    (h : (Query.piped [Statement.selectAll key, Statement.sortBy direction []]).run
      .standard (.arr items) = .ok v) : KeyedBy key items := by
  rw [Statement.run_pair, run_selectAll] at h
  obtain ⟨w, hw, h⟩ := bind_eq_ok_iff.mp h
  obtain ⟨keys, hkeys, hw⟩ := bind_eq_ok_iff.mp hw
  cases hw
  -- the selected values are sorted as they are, so they are of one class themselves
  obtain ⟨sortClass, hclass⟩ := class_of_run_sortBy .none h
  refine ⟨sortClass, fun item hitem => ?_⟩
  obtain ⟨k, hk, hmem⟩ := exists_mem_of_mapM hkeys hitem
  obtain ⟨_, hyield, hk'⟩ := hclass k hmem
  cases hyield
  exact ⟨k, select_eq_ok_iff.mp hk, hk'⟩

/-- Where there are keys to sort by, both orders yield the sorted keys. -/
theorem run_of_keyedBy (direction : Direction) (h : KeyedBy key items) :
    ∃ sorted,
      (Query.piped [Statement.sortBy direction [key.value], Statement.selectAll key]).run
        .standard (.arr items) = .ok (.arr sorted)
      ∧ (Query.piped [Statement.selectAll key, Statement.sortBy direction []]).run
        .standard (.arr items) = .ok (.arr sorted) := by
  obtain ⟨sortClass, hkeys⟩ := h
  have hyield : ∀ item ∈ items, ∃ k, yieldedKey (some key.value) item = some k
      ∧ sortClass? k = some sortClass := hkeys
  obtain ⟨keyAt, hkeyAt⟩ := exists_keyAt hyield
  refine ⟨stableSort direction.before (items.map keyAt), ?_, ?_⟩
  · -- sorted by the key first: the items move, and their keys with them
    have hlookup : ∀ item ∈ stableSort (fun a b => direction.before (keyAt a) (keyAt b)) items,
        lookupKey item key.value = some (keyAt item) := fun item hitem =>
      (hkeyAt item ((perm_stableSort _ _).mem_iff.mp hitem)).1
    rw [Statement.run_pair, run_sortBy_of_keys direction (.key key.value) hkeyAt, ok_bind,
      run_selectAll, mapM_select hlookup, map_stableSort keyAt direction.before]
    rfl
  · -- selected first: the keys are sorted by themselves
    have hclass : ∀ k ∈ items.map keyAt, yieldedKey none k = some (id k)
        ∧ sortClass? (id k) = some sortClass :=
      List.forall_mem_map.mpr fun item hitem => ⟨rfl, (hkeyAt item hitem).2⟩
    rw [Statement.run_pair, run_selectAll, mapM_select fun item hitem => (hkeyAt item hitem).1,
      ok_bind, pure_eq_ok, ok_bind, run_sortBy_of_keys direction .none hclass]
    rfl

/-- Sorting by a key and selecting the key commute, in both directions of the sort.  Sorting a list
by the key and selecting yields what selecting and sorting the selected values does, and one
succeeds where the other one does: where every item has the key, with values of one class under it.
At every place the sort finds the key if the selector does, and the same value under it. -/
theorem sort_select_comm (direction : Direction) (key : Key) (items : List Json) :
    (∀ v,
        (Query.piped [Statement.sortBy direction [key.value], Statement.selectAll key]).run
            .standard (.arr items) = .ok v
          ↔ (Query.piped [Statement.selectAll key, Statement.sortBy direction []]).run
            .standard (.arr items) = .ok v)
      ∧ ((∃ v, (Query.piped [Statement.selectAll key, Statement.sortBy direction []]).run
            .standard (.arr items) = .ok v) ↔ KeyedBy key items)
      ∧ ∀ p : Place, lookupKey p.value key.value = (p.select key).toOption.map Place.value := by
  refine ⟨fun v => ?_, ⟨?_, fun h => ?_⟩, fun p => ?_⟩
  · by_cases h : KeyedBy key items
    · obtain ⟨sorted, hsort, hselect⟩ := run_of_keyedBy direction h
      rw [hsort, hselect]
    · exact iff_of_false (fun hv => h (keyedBy_of_sort_select hv))
        fun hv => h (keyedBy_of_select_sort hv)
  · rintro ⟨v, hv⟩
    exact keyedBy_of_select_sort hv
  · obtain ⟨sorted, -, hselect⟩ := run_of_keyedBy direction h
    exact ⟨_, hselect⟩
  · rw [lookupKey_value, Place.select_eq]
    cases p.value.slot key <;> rfl

/-- The key -1 names an entry of an object and the last item of an array. -/
example :
    (Query.piped [Statement.sortBy .descending [.int (-1)], Statement.selectAll (.index (-1))]).run
        .standard (.arr [.arr [.int 7, .int 1], .obj [("-1", .int 2)]])
      = .ok (.arr [.int 2, .int 1]) := rfl

end JsonQuery
