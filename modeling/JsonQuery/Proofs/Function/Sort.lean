/-
  JsonQuery.Proofs.Function.Sort
  ──────────────────────────────
  The functions that sort are correct and stable.

  Where the keys of a list are all integers, all strings or all booleans, the list is put in
  order of its keys, and items of equal keys stay as they were, in both directions.  That
  settles the result, so a list that was sorted before is sorted as if it had not been.
-/
import Mathlib.Data.List.FinRange
import JsonQuery.Function.Standard
import JsonQuery.Proofs.Except
import JsonQuery.Proofs.Function.Comparison
import JsonQuery.Proofs.Function.Standard

namespace JsonQuery

/-! ## §1. Stable insertion. -/

section

variable {α β : Type} {before : α → α → Bool} {R : α → α → Prop}

theorem map_insertLast (f : α → β) (before : β → β → Bool) (x : α) (ys : List α) :
    (insertLast (fun a b => before (f a) (f b)) x ys).map f
      = insertLast before (f x) (ys.map f) := by
  induction ys with
  | nil => rfl
  | cons y ys ih =>
    simp only [insertLast, List.map_cons]
    by_cases h : before (f x) (f y) = true
    · rw [if_pos h, if_pos h, List.map_cons, ih]
    · rw [if_neg h, if_neg h, List.map_cons, List.map_cons]

/-- Sorting what items are mapped to is sorting the items by it. -/
theorem map_stableSort (f : α → β) (before : β → β → Bool) (xs : List α) :
    (stableSort (fun a b => before (f a) (f b)) xs).map f = stableSort before (xs.map f) := by
  unfold stableSort
  rw [List.map_reverse, List.foldl_map]
  exact congrArg List.reverse
    (List.foldl_hom (List.map f) fun sorted x => (map_insertLast f before x sorted).symm).symm

/-- The order that a sort is to establish agrees with what it is told of two items, the first of
which it is given first. -/
def Agrees (before : α → α → Bool) (R : α → α → Prop) (y x : α) : Prop :=
  if before x y then R x y else R y x

/-- Insertion keeps what is sorted from last to first in order. -/
theorem pairwise_insertLast (htrans : ∀ {a b c}, R a b → R b c → R a c) {x : α} {sorted : List α}
    (hx : ∀ y ∈ sorted, Agrees before R y x) (hsorted : sorted.Pairwise fun a b => R b a) :
    (insertLast before x sorted).Pairwise fun a b => R b a := by
  induction sorted with
  | nil => exact List.pairwise_singleton _ _
  | cons y ys ih =>
    obtain ⟨hy, hys⟩ := List.forall_mem_cons.mp hx
    obtain ⟨hlast, hsorted⟩ := List.pairwise_cons.mp hsorted
    unfold insertLast
    by_cases h : before x y = true
    · rw [if_pos h]
      refine List.pairwise_cons.mpr ⟨fun z hz => ?_, ih hys hsorted⟩
      rcases List.mem_cons.mp ((perm_insertLast before x ys).mem_iff.mp hz) with rfl | hz
      · exact (if_pos h).mp hy
      · exact hlast z hz
    · rw [if_neg h]
      have hyx : R y x := (if_neg h).mp hy
      -- what comes before the last item comes before the new one
      refine List.pairwise_cons.mpr ⟨List.forall_mem_cons.mpr ⟨hyx, fun z hz => ?_⟩,
        List.pairwise_cons.mpr ⟨hlast, hsorted⟩⟩
      exact htrans (hlast z hz) hyx

/-- A sort establishes an order that agrees with what it is told. -/
theorem pairwise_stableSort (htrans : ∀ {a b c}, R a b → R b c → R a c) {xs : List α}
    (hxs : xs.Pairwise (Agrees before R)) : (stableSort before xs).Pairwise R := by
  have hfold : ∀ (xs sorted : List α), xs.Pairwise (Agrees before R) →
      (∀ y ∈ sorted, ∀ x ∈ xs, Agrees before R y x) → (sorted.Pairwise fun a b => R b a) →
      (xs.foldl (fun sorted x => insertLast before x sorted) sorted).Pairwise fun a b => R b a := by
    intro xs
    induction xs with
    | nil => exact fun _ _ _ hsorted => hsorted
    | cons x xs ih =>
      intro sorted hxs hbefore hsorted
      obtain ⟨hx, hxs⟩ := List.pairwise_cons.mp hxs
      have hinsert := pairwise_insertLast (R := R) htrans
        (fun y hy => hbefore y hy x List.mem_cons_self) hsorted
      refine ih _ hxs (fun y hy z hz => ?_) hinsert
      rcases List.mem_cons.mp ((perm_insertLast before x sorted).mem_iff.mp hy) with rfl | hy
      · exact hx z hz
      · exact hbefore y hy z (List.mem_cons_of_mem _ hz)
  exact List.pairwise_reverse.mpr (hfold xs [] hxs (fun y hy => absurd hy List.not_mem_nil) .nil)

end

/-! ## §2. Sorted lists. -/

/-- The order of two keys in a direction. -/
def Direction.Precedes (direction : Direction) (a b : Json) : Prop :=
  match direction with
  | .ascending => KeyLt a b
  | .descending => KeyLt b a

/-- The order of two places of a list by the keys that its items have there, and of equal keys as
they are. -/
def InOrder (direction : Direction) (keyOf : Json → Option Json) (items : List Json)
    (i j : Fin items.length) : Prop :=
  ∃ a b, keyOf (items.get i) = some a ∧ keyOf (items.get j) = some b
    ∧ (direction.Precedes a b ∨ a = b ∧ i < j)

/-- A list holds the items of another one in the order of their keys, and those of equal keys as
they were. -/
def StablySorted (direction : Direction) (keyOf : Json → Option Json)
    (items sorted : List Json) : Prop :=
  ∃ order : List (Fin items.length), order.Perm (List.finRange items.length)
    ∧ sorted = order.map items.get ∧ order.Pairwise (InOrder direction keyOf items)

variable {direction direction' : Direction} {keyOf : Json → Option Json}
  {items sorted sorted' : List Json}

theorem Direction.Precedes.trans {a b c : Json} (hab : direction.Precedes a b)
    (hbc : direction.Precedes b c) : direction.Precedes a c := by
  cases direction with
  | ascending => exact KeyLt.trans hab hbc
  | descending => exact KeyLt.trans hbc hab

theorem Direction.Precedes.irrefl {a : Json} (h : direction.Precedes a a) : False := by
  cases direction with
  | ascending => exact KeyLt.irrefl h
  | descending => exact KeyLt.irrefl h

theorem InOrder.trans {i j k : Fin items.length} (hij : InOrder direction keyOf items i j)
    (hjk : InOrder direction keyOf items j k) : InOrder direction keyOf items i k := by
  obtain ⟨a, b, ha, hb, hab⟩ := hij
  obtain ⟨b', c, hb', hc, hbc⟩ := hjk
  obtain rfl : b = b' := Option.some.inj (hb.symm.trans hb')
  refine ⟨a, c, ha, hc, ?_⟩
  rcases hab with hab | ⟨rfl, hij⟩
  · rcases hbc with hbc | ⟨rfl, -⟩
    · exact .inl (hab.trans hbc)
    · exact .inl hab
  · rcases hbc with hbc | ⟨rfl, hjk⟩
    · exact .inl hbc
    · exact .inr ⟨rfl, Fin.lt_trans hij hjk⟩

theorem InOrder.irrefl {i : Fin items.length} (h : InOrder direction keyOf items i i) : False := by
  obtain ⟨a, b, ha, hb, hab⟩ := h
  obtain rfl : a = b := Option.some.inj (ha.symm.trans hb)
  rcases hab with hab | ⟨-, hlt⟩
  · exact hab.irrefl
  · exact Nat.lt_irrefl _ hlt

theorem StablySorted.perm (h : StablySorted direction keyOf items sorted) : sorted.Perm items := by
  obtain ⟨order, hperm, rfl, -⟩ := h
  have hmap := hperm.map items.get
  rwa [List.map_get_finRange] at hmap

/-- A list can be stably sorted in one way only. -/
theorem StablySorted.unique (h : StablySorted direction keyOf items sorted)
    (h' : StablySorted direction keyOf items sorted') : sorted = sorted' := by
  obtain ⟨order, hperm, rfl, hpairwise⟩ := h
  obtain ⟨order', hperm', rfl, hpairwise'⟩ := h'
  have heq : order = order' := by
    refine List.Perm.eq_of_pairwise (fun i j _ _ hij hji => ?_) hpairwise hpairwise'
      (hperm.trans hperm'.symm)
    exact (hij.trans hji).irrefl.elim
  rw [heq]

/-- Sorting what has been sorted by the same key sorts the list that it was made of. -/
theorem StablySorted.trans (h : StablySorted direction' keyOf items sorted)
    (h' : StablySorted direction keyOf sorted sorted') :
    StablySorted direction keyOf items sorted' := by
  obtain ⟨order, hperm, rfl, hpairwise⟩ := h
  obtain ⟨order', hperm', rfl, hpairwise'⟩ := h'
  have hlength : (order.map items.get).length = order.length := List.length_map _
  -- a place in the sorted list, seen as the place in the list that the item there came from
  let origin (i : Fin (order.map items.get).length) : Fin items.length :=
    order.get (i.cast hlength)
  have hget : ∀ i, (order.map items.get).get i = items.get (origin i) := by
    intro i
    simp only [origin, List.get_eq_getElem, List.getElem_map, Fin.val_cast]
  have hrange : (List.finRange (order.map items.get).length).map origin = order := by
    refine List.ext_getElem (by rw [List.length_map, List.length_finRange, hlength]) ?_
    intro i hi hi'
    rw [List.getElem_map, List.getElem_finRange]
    rfl
  refine ⟨order'.map origin, ?_, ?_, ?_⟩
  · have hmap := hperm'.map origin
    rw [hrange] at hmap
    exact hmap.trans hperm
  · rw [List.map_map]
    exact List.map_congr_left fun i _ => hget i
  · refine List.pairwise_map.mpr (hpairwise'.imp fun {i j} hij => ?_)
    obtain ⟨a, b, ha, hb, hab⟩ := hij
    rw [hget] at ha hb
    refine ⟨a, b, ha, hb, hab.imp_right ?_⟩
    rintro ⟨rfl, hlt⟩
    refine ⟨rfl, ?_⟩
    -- items of equal keys kept their order in the first sort
    have hfirst : InOrder direction' keyOf items (origin i) (origin j) :=
      List.pairwise_iff_getElem.mp hpairwise i j (i.cast hlength).isLt (j.cast hlength).isLt hlt
    obtain ⟨a', b', ha', hb', hab'⟩ := hfirst
    obtain rfl : a = a' := Option.some.inj (ha.symm.trans ha')
    obtain rfl : a = b' := Option.some.inj (hb.symm.trans hb')
    rcases hab' with hab' | ⟨-, hlt⟩
    · exact hab'.irrefl.elim
    · exact hlt

/-! ## §3. Sorting by keys in a line. -/

/-- On keys in a line a direction tells two keys apart by the line. -/
theorem Direction.before_iff {kind : Kind} (hkind : kind ∈ linearKinds) {a b : Json}
    (ha : a.kind = kind) (hb : b.kind = kind) :
    direction.before a b = true ↔ direction.Precedes a b := by
  cases direction with
  | ascending => exact beq_iff_eq.trans (compareKeys_eq_lt hkind ha hb)
  | descending => exact beq_iff_eq.trans (compareKeys_eq_gt hkind ha hb)

/-- Of two keys in a line one comes strictly before the other or they are the same. -/
theorem Direction.Precedes.of_not {kind : Kind} (hkind : kind ∈ linearKinds) {a b : Json}
    (ha : a.kind = kind) (hb : b.kind = kind) (h : ¬direction.Precedes b a) :
    direction.Precedes a b ∨ a = b := by
  rcases KeyLt.trichotomy hkind ha hb with hlt | heq | hgt
  · cases direction with
    | ascending => exact .inl hlt
    | descending => exact absurd hlt h
  · exact .inr heq
  · cases direction with
    | ascending => exact absurd hgt h
    | descending => exact .inl hgt

theorem stablySorted_stableSort {kind : Kind} (hkind : kind ∈ linearKinds) {key : Json → Json}
    (hkeys : ∀ item ∈ items, keyOf item = some (key item) ∧ (key item).kind = kind) :
    StablySorted direction keyOf items
      (stableSort (fun a b => direction.before (key a) (key b)) items) := by
  -- the places of the items are sorted in their stead
  refine ⟨stableSort (fun i j => direction.before (key (items.get i)) (key (items.get j)))
    (List.finRange items.length), perm_stableSort _ _, ?_, pairwise_stableSort InOrder.trans ?_⟩
  · rw [map_stableSort items.get fun a b => direction.before (key a) (key b),
      List.map_get_finRange]
  · refine (List.pairwise_lt_finRange items.length).imp fun {i j} hlt => ?_
    obtain ⟨hi, hi'⟩ := hkeys (items.get i) (List.get_mem items i)
    obtain ⟨hj, hj'⟩ := hkeys (items.get j) (List.get_mem items j)
    unfold Agrees
    split
    · rename_i hbefore
      exact ⟨_, _, hj, hi, .inl ((Direction.before_iff hkind hj' hi').mp hbefore)⟩
    · rename_i hbefore
      have hnot := fun h => hbefore ((Direction.before_iff hkind hj' hi').mpr h)
      have horder := Direction.Precedes.of_not hkind hi' hj' hnot
      exact ⟨_, _, hi, hj, horder.imp_right fun heq => ⟨heq, hlt⟩⟩

/-! ## §4. The functions. -/

/-- The forms of the arguments, with the key that they name. -/
inductive KeyArgument : List Json → Option Json → Prop
  | none : KeyArgument [] none
  | key (key : Json) : KeyArgument [key] (some key)
  | item (key : Json) : KeyArgument [.str "item", key] (some key)

/-- The sort key that an item yields: itself, or what is found in it under the key. -/
def yieldedKey (key : Option Json) (item : Json) : Option Json :=
  match key with
  | none => some item
  | some key => lookupKey item key

/-- The function that sorts in a direction. -/
def Direction.function : Direction → Function
  | .ascending => .sort
  | .descending => .rsort

theorem Direction.run_function (direction : Direction) :
    direction.function.run = sortList direction := by
  cases direction <;> rfl

theorem sortKeyArgument_eq_ok {call : Invocation} {key : Option Json} :
    sortKeyArgument call = .ok key ↔ KeyArgument call.args key := by
  unfold sortKeyArgument
  constructor
  · intro h
    split at h
    · rename_i hargs
      cases h
      rw [hargs]
      exact .none
    · rename_i hargs
      cases h
      rw [hargs]
      exact .key _
    · rename_i type _ hargs
      split at h
      · rename_i htype
        cases h
        cases type <;> cases htype
        rw [hargs]
        exact .item _
      · cases h
    · cases h
  · intro h
    generalize call.args = args at h ⊢
    cases h <;> rfl

theorem sortKey_eq_ok {call : Invocation} {key : Option Json} {item k : Json} :
    sortKey call key item = .ok k ↔ yieldedKey key item = some k := by
  unfold sortKey yieldedKey
  cases key with
  | none => exact Except.ok.injEq item k ▸ Option.some.injEq item k ▸ Iff.rfl
  | some key =>
    dsimp only
    cases lookupKey item key with
    | none => exact iff_of_false (Invocation.fail_ne_ok call) (Option.some_ne_none k).symm
    | some v => exact Except.ok.injEq v k ▸ Option.some.injEq v k ▸ Iff.rfl

/-- The run of a sort whose items all yield keys of one class. -/
theorem sortList_eq_ok (direction : Direction) {call : Invocation} {key : Option Json}
    {keyAt : Json → Json} {sortClass : SortClass} (hvalue : call.value = .arr items)
    (hargs : KeyArgument call.args key)
    (hkeys : ∀ item ∈ items, yieldedKey key item = some (keyAt item)
      ∧ sortClass? (keyAt item) = some sortClass) :
    sortList direction call
      = .ok (.arr (stableSort (fun a b => direction.before (keyAt a) (keyAt b)) items)) := by
  have hmapM : items.mapM (sortKey call key) = .ok (items.map keyAt) := by
    rw [mapM_congr fun item hitem => sortKey_eq_ok.mpr (hkeys item hitem).1]
    exact List.mapM_pure
  have hclass : ∀ key ∈ items.map keyAt, sortClass? key = some sortClass :=
    List.forall_mem_map.mpr fun item hitem => (hkeys item hitem).2
  have hcomparable : checkComparable call (items.map keyAt) = .ok () :=
    checkComparable_eq_ok.mpr ⟨sortClass, hclass⟩
  have hsorted : (sortKeyed direction (items.zip (items.map keyAt))).map Prod.fst
      = stableSort (fun a b => direction.before (keyAt a) (keyAt b)) items := by
    unfold sortKeyed
    rw [← List.map_prod_left_eq_zip,
      ← map_stableSort (fun item => (item, keyAt item)) fun a b => direction.before a.2 b.2,
      List.map_map]
    exact List.map_id _
  unfold sortList
  rw [hvalue]
  dsimp only
  rw [sortKeyArgument_eq_ok.mpr hargs, ok_bind, hmapM, ok_bind, hcomparable, ok_bind, hsorted]
  rfl

/-- What a sort that succeeded was given. -/
theorem exists_class_of_sortList {call : Invocation} {v : Json}
    (h : sortList direction call = .ok v) :
    ∃ items key sortClass, call.value = .arr items ∧ KeyArgument call.args key
      ∧ ∀ item ∈ items, ∃ k, yieldedKey key item = some k ∧ sortClass? k = some sortClass := by
  unfold sortList at h
  split at h
  · rename_i items hvalue
    obtain ⟨key, hkey, h⟩ := bind_eq_ok_iff.mp h
    obtain ⟨keys, hkeys, h⟩ := bind_eq_ok_iff.mp h
    obtain ⟨_, hcomparable, -⟩ := bind_eq_ok_iff.mp h
    obtain ⟨sortClass, hclass⟩ := checkComparable_eq_ok.mp hcomparable
    refine ⟨items, key, sortClass, hvalue, sortKeyArgument_eq_ok.mp hkey, fun item hitem => ?_⟩
    obtain ⟨k, hk, hmem⟩ := exists_mem_of_mapM hkeys hitem
    exact ⟨k, sortKey_eq_ok.mp hk, hclass k hmem⟩
  · cases h

/-- Keys that are there and have a property are the values of a function on the items. -/
theorem exists_keyAt {key : Option Json} {P : Json → Prop}
    (h : ∀ item ∈ items, ∃ k, yieldedKey key item = some k ∧ P k) :
    ∃ keyAt : Json → Json,
      ∀ item ∈ items, yieldedKey key item = some (keyAt item) ∧ P (keyAt item) := by
  refine ⟨fun item => (yieldedKey key item).getD .null, fun item hitem => ?_⟩
  obtain ⟨k, hk, hP⟩ := h item hitem
  dsimp only
  rw [hk]
  exact ⟨rfl, hP⟩

theorem stablySorted_sortList (direction : Direction) {call : Invocation} {key : Option Json}
    {kind : Kind} (hkind : kind ∈ linearKinds) (hvalue : call.value = .arr items)
    (hargs : KeyArgument call.args key)
    (hkeys : ∀ item ∈ items, ∃ k, yieldedKey key item = some k ∧ k.kind = kind) :
    ∃ sorted, sortList direction call = .ok (.arr sorted)
      ∧ StablySorted direction (yieldedKey key) items sorted := by
  obtain ⟨keyAt, hkeyAt⟩ := exists_keyAt hkeys
  obtain ⟨sortClass, hclass⟩ := exists_class_of_kind hkind
  have hrun := sortList_eq_ok direction hvalue hargs
    fun item hitem => ⟨(hkeyAt item hitem).1, hclass _ (hkeyAt item hitem).2⟩
  exact ⟨_, hrun, stablySorted_stableSort hkind hkeyAt⟩

/-- Sorting is correct and stable in both directions.  A list whose items all yield keys of one
kind that is in a line is sorted: the result is a permutation of it in the order of the keys, where
items of equal keys keep their order; and sorting it by the same key before, in either direction,
makes no difference.  A value is sorted just where it is a list, the arguments have one of their
forms and the items all yield keys of one class. -/
theorem sort_stable (direction : Direction) (call : Invocation) :
    (∀ items key kind, call.value = .arr items → KeyArgument call.args key → kind ∈ linearKinds →
      (∀ item ∈ items, ∃ k, yieldedKey key item = some k ∧ k.kind = kind) →
        (∃ sorted, direction.function.run call = .ok (.arr sorted) ∧ sorted.Perm items
          ∧ StablySorted direction (yieldedKey key) items sorted)
        ∧ ∀ earlier : Direction, ∃ v, earlier.function.run call = .ok v
          ∧ direction.function.run { call with value := v } = direction.function.run call)
      ∧ ((∃ v, direction.function.run call = .ok v)
        ↔ ∃ items key sortClass, call.value = .arr items ∧ KeyArgument call.args key
            ∧ ∀ item ∈ items, ∃ k, yieldedKey key item = some k ∧ sortClass? k = some sortClass) := by
  simp only [Direction.run_function]
  constructor
  · intro items key kind hvalue hargs hkind hkeys
    obtain ⟨sorted, hrun, hsorted⟩ := stablySorted_sortList direction hkind hvalue hargs hkeys
    refine ⟨⟨sorted, hrun, hsorted.perm, hsorted⟩, fun earlier => ?_⟩
    obtain ⟨first, hrun', hfirst⟩ := stablySorted_sortList earlier hkind hvalue hargs hkeys
    -- what has been sorted has the same items, so they yield the same keys
    have hkeys' := fun item hitem => hkeys item (hfirst.perm.mem_iff.mp hitem)
    obtain ⟨again, hagain, hsecond⟩ :
        ∃ again, sortList direction { call with value := .arr first } = .ok (.arr again)
          ∧ StablySorted direction (yieldedKey key) first again :=
      stablySorted_sortList direction hkind rfl hargs hkeys'
    refine ⟨.arr first, hrun', ?_⟩
    rw [hagain, hrun, (hfirst.trans hsecond).unique hsorted]
  · constructor
    · rintro ⟨v, h⟩
      exact exists_class_of_sortList h
    · rintro ⟨items, key, sortClass, hvalue, hargs, hkeys⟩
      obtain ⟨keyAt, hkeyAt⟩ := exists_keyAt hkeys
      exact ⟨_, sortList_eq_ok direction hvalue hargs hkeyAt⟩

/-- Lists of a number and a mark, sorted by the number, which two of them share. -/
theorem sort_stable_ties :
    let item (n : Int64) (mark : String) : Json := .arr [.int n, .str mark]
    let items := [item 1 "a", item 0 "b", item 1 "c"]
    let call : Invocation := ⟨"sort", .null, .arr items, [.int 0]⟩
    (call.value = .arr items ∧ KeyArgument call.args (some (.int 0))
        ∧ .integer ∈ linearKinds
        ∧ ∀ item ∈ items, ∃ k, yieldedKey (some (.int 0)) item = some k ∧ k.kind = .integer)
      ∧ Function.sort.run call = .ok (.arr [item 0 "b", item 1 "a", item 1 "c"])
      ∧ Function.rsort.run call = .ok (.arr [item 1 "a", item 1 "c", item 0 "b"])
      ∧ (∃ sorted, Function.sort.run call = .ok (.arr sorted) ∧ sorted.Perm items
          ∧ StablySorted .ascending (yieldedKey (some (.int 0))) items sorted)
      ∧ ∃ v, Function.rsort.run call = .ok v
          ∧ Function.sort.run { call with value := v } = Function.sort.run call := by
  intro item items call
  have hkeys : ∀ item ∈ items, ∃ k, yieldedKey (some (.int 0)) item = some k
      ∧ k.kind = .integer := by
    intro item hitem
    simp only [items, List.mem_cons, List.not_mem_nil, or_false] at hitem
    rcases hitem with rfl | rfl | rfl
    · exact ⟨.int 1, rfl, rfl⟩
    · exact ⟨.int 0, rfl, rfl⟩
    · exact ⟨.int 1, rfl, rfl⟩
  obtain ⟨hstable, -⟩ := sort_stable .ascending call
  obtain ⟨hsorted, hagain⟩ :=
    hstable items (some (.int 0)) .integer rfl (.key _) (by decide) hkeys
  exact ⟨⟨rfl, .key _, by decide, hkeys⟩, rfl, rfl, hsorted, hagain .descending⟩

end JsonQuery
