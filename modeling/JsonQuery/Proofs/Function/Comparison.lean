/-
  JsonQuery.Proofs.Function.Comparison
  ────────────────────────────────────
  The comparison that sorts are made with.

  Integers, strings and booleans are each in a line, and the comparison follows it.  Over
  all numbers it falls short of a preorder.  Two integers are compared exactly, an integer
  and a float after the integer is rounded; so a float can be equal to two integers of
  which one is greater.  Such triples are the only ones that break transitivity.
-/
import JsonQuery.Function.Sort
import JsonQuery.Proofs.Number.Order

namespace JsonQuery

open Number

/-! ## §1. Keys that are compared. -/

/-- The kinds whose values are in a line. -/
def linearKinds : List Kind := [.integer, .string, .boolean]

/-- The line of integers, the line of strings by their characters, and `false` before `true`. -/
inductive KeyLt : Json → Json → Prop
  | int {m n : Int64} (h : m.toInt < n.toInt) : KeyLt (.int m) (.int n)
  | str {s t : String} (h : s < t) : KeyLt (.str s) (.str t)
  | bool : KeyLt (.bool false) (.bool true)

/-- The value is no float that is not a number. -/
def Json.IsNumeral : Json → Prop
  | .float x => x.isNaN = false
  | _ => True

/-- A greater integer, a float and a lesser integer that both round to the float. -/
inductive Overtaken : Json → Json → Json → Prop
  | intro {m n : Int64} {x : Float} (h : n.toInt < m.toInt)
      (hm : compareFloats (ofInt64 m) x = .eq) (hn : compareFloats x (ofInt64 n) = .eq) :
      Overtaken (.int m) (.float x) (.int n)

theorem Invocation.fail_ne_ok {α : Type} (call : Invocation) {message : String} {a : α} :
    call.fail message ≠ .ok a := by
  intro h
  cases h

/-- Keys are comparable when they are all of one class. -/
theorem checkComparable_eq_ok {call : Invocation} {keys : List Json} :
    checkComparable call keys = .ok () ↔
      ∃ sortClass, ∀ key ∈ keys, sortClass? key = some sortClass := by
  cases keys with
  | nil => exact iff_of_true rfl ⟨.number, fun key h => absurd h List.not_mem_nil⟩
  | cons first rest =>
    simp only [checkComparable]
    cases hfirst : sortClass? first with
    | none =>
      refine iff_of_false (Invocation.fail_ne_ok call) fun hall => ?_
      obtain ⟨sortClass, h⟩ := hall
      have hclass := h first List.mem_cons_self
      rw [hfirst] at hclass
      cases hclass
    | some expected =>
      -- the class that all are of can only be that of the first
      dsimp only
      cases hfind : rest.find? fun key => sortClass? key != some expected with
      | none =>
        refine iff_of_true rfl ⟨expected, List.forall_mem_cons.mpr ⟨hfirst, fun key hkey => ?_⟩⟩
        have hsame := List.find?_eq_none.mp hfind key hkey
        simpa only [bne_iff_ne, ne_eq, Decidable.not_not] using hsame
      | some key =>
        refine iff_of_false (Invocation.fail_ne_ok call) fun hall => ?_
        obtain ⟨sortClass, h⟩ := hall
        have hother := List.find?_some hfind
        have hclass := h key (List.mem_cons_of_mem _ (List.mem_of_find?_eq_some hfind))
        rw [hclass, ← h first List.mem_cons_self, hfirst] at hother
        simp only [bne_self_eq_false, Bool.false_eq_true] at hother

/-! ## §2. Keys in a line. -/

theorem KeyLt.trans {a b c : Json} (hab : KeyLt a b) (hbc : KeyLt b c) : KeyLt a c := by
  cases hab with
  | int h => cases hbc with | int h' => exact .int (Int.lt_trans h h')
  | str h => cases hbc with | str h' => exact .str (String.lt_trans h h')
  | bool => cases hbc

theorem KeyLt.irrefl {a : Json} (h : KeyLt a a) : False := by
  cases h with
  | int h => exact Int.lt_irrefl _ h
  | str h => exact String.lt_irrefl _ h

/-- The comparison follows the line, from either side. -/
theorem KeyLt.compareKeys {a b : Json} (h : KeyLt a b) :
    compareKeys a b = .lt ∧ compareKeys b a = .gt := by
  cases h with
  | int h => exact ⟨Int.compare_eq_lt.mpr h, Int.compare_eq_gt.mpr h⟩
  | str h =>
    have hnot := fun h' => String.lt_irrefl _ (String.lt_trans h h')
    exact ⟨if_pos h, (if_neg hnot).trans (if_pos h)⟩
  | bool => exact ⟨rfl, rfl⟩

section

variable {kind : Kind} (hkind : kind ∈ linearKinds) {a b c : Json} (ha : a.kind = kind)
  (hb : b.kind = kind)

include hkind ha

theorem compareKeys_self : compareKeys a a = .eq := by
  cases a with
  | int n => exact Int.compare_eq_eq.mpr rfl
  | str s => exact (if_neg (String.lt_irrefl s)).trans (if_neg (String.lt_irrefl s))
  | float x =>
    rw [← ha] at hkind
    exact absurd (show Kind.float ∈ linearKinds from hkind) (by decide)
  | bool b => cases b <;> rfl
  | _ => rfl

include hb

/-- Of two keys of one kind in a line, one is before the other or they are the same. -/
theorem KeyLt.trichotomy : KeyLt a b ∨ a = b ∨ KeyLt b a := by
  cases a with
  | int m =>
    cases b with
    | int n =>
      rcases Int.lt_trichotomy m.toInt n.toInt with h | h | h
      · exact .inl (.int h)
      · exact .inr (.inl (congrArg Json.int (Int64.toInt_inj.mp h)))
      · exact .inr (.inr (.int h))
    | _ => exact nomatch ha.trans hb.symm
  | str s =>
    cases b with
    | str t =>
      by_cases hst : s < t
      · exact .inl (.str hst)
      · by_cases hts : t < s
        · exact .inr (.inr (.str hts))
        · have heq : s = t := String.le_antisymm (String.not_lt.mp hts) (String.not_lt.mp hst)
          exact .inr (.inl (congrArg Json.str heq))
    | _ => exact nomatch ha.trans hb.symm
  | bool p =>
    cases b with
    | bool q =>
      cases p <;> cases q
      · exact .inr (.inl rfl)
      · exact .inl .bool
      · exact .inr (.inr .bool)
      · exact .inr (.inl rfl)
    | _ => exact nomatch ha.trans hb.symm
  | _ =>
    -- keys of the other kinds do not stand in a line
    rw [← ha] at hkind
    simp only [linearKinds, Json.kind, List.mem_cons, List.not_mem_nil, or_false, reduceCtorEq]
      at hkind

theorem compareKeys_eq_lt : compareKeys a b = .lt ↔ KeyLt a b := by
  refine ⟨fun h => ?_, fun h => h.compareKeys.1⟩
  rcases KeyLt.trichotomy hkind ha hb with hlt | rfl | hgt
  · exact hlt
  · exact nomatch h.symm.trans (compareKeys_self hkind ha)
  · exact nomatch h.symm.trans hgt.compareKeys.2

theorem compareKeys_eq_gt : compareKeys a b = .gt ↔ KeyLt b a := by
  refine ⟨fun h => ?_, fun h => h.compareKeys.2⟩
  rcases KeyLt.trichotomy hkind ha hb with hlt | rfl | hgt
  · exact nomatch h.symm.trans hlt.compareKeys.1
  · exact nomatch h.symm.trans (compareKeys_self hkind ha)
  · exact hgt

theorem compareKeys_linear_trans (hc : c.kind = kind) (hab : compareKeys a b ≠ .gt)
    (hbc : compareKeys b c ≠ .gt) : compareKeys a c ≠ .gt := by
  intro hac
  have hca : KeyLt c a := (compareKeys_eq_gt hkind ha hc).mp hac
  rcases KeyLt.trichotomy hkind ha hb with hlt | rfl | hgt
  · exact hbc ((compareKeys_eq_gt hkind hb hc).mpr (hca.trans hlt))
  · exact hbc hac
  · exact hab ((compareKeys_eq_gt hkind ha hb).mpr hgt)

end

/-! ## §3. Numbers. -/

theorem compareFloats_eq_compare {x y : Float} (hx : x.isNaN = false) (hy : y.isNaN = false) :
    compareFloats x y = compare (place x) (place y) := by
  unfold compareFloats
  simp only [lt_iff_place_lt hx hy, lt_iff_place_lt hy hx]
  rcases Int.lt_trichotomy (place x) (place y) with h | h | h
  · rw [if_pos h, Int.compare_eq_lt.mpr h]
  · rw [if_neg (by omega), if_neg (by omega), Int.compare_eq_eq.mpr h]
  · rw [if_neg (by omega), if_pos h, Int.compare_eq_gt.mpr h]

/-- Integers, and floats that are numbers. -/
inductive IsNumber : Json → Prop
  | int (n : Int64) : IsNumber (.int n)
  | float {x : Float} (h : x.isNaN = false) : IsNumber (.float x)

/-- The float that a number is compared with other floats as. -/
def Json.toFloat : Json → Float
  | .int n => ofInt64 n
  | .float x => x
  | _ => 0

/-- The place of a number on the line of floats. -/
def rank (a : Json) : Int := place a.toFloat

/-- One integer that is greater than another. -/
inductive Exceeds : Json → Json → Prop
  | intro {m n : Int64} (h : n.toInt < m.toInt) : Exceeds (.int m) (.int n)

section

variable {a b c : Json} (ha : IsNumber a) (hb : IsNumber b)

include ha in
theorem IsNumber.isNaN_toFloat : a.toFloat.isNaN = false := by
  cases ha with
  | int n => exact isNaN_ofInt64 n
  | float h => exact h

/-- The ranks of integers do not decrease. -/
theorem rank_int_le {m n : Int64} (h : m.toInt ≤ n.toInt) : rank (.int m) ≤ rank (.int n) :=
  place_ofInt64_le h

include ha hb

/-- Two numbers are compared by their ranks, unless both are integers. -/
theorem compareKeys_of_float (h : ∀ m n, a = .int m → b ≠ .int n) :
    compareKeys a b = compare (rank a) (rank b) := by
  have hfloats := compareFloats_eq_compare ha.isNaN_toFloat hb.isNaN_toFloat
  cases ha with
  | int m =>
    cases hb with
    | int n => exact absurd rfl (h m n rfl)
    | float hy => exact hfloats
  | float hx =>
    cases hb with
    | int n => exact hfloats
    | float hy => exact hfloats

/-- A number is greater when it is rounded to a greater float or, of two integers, when it is
the greater one. -/
theorem compareKeys_number :
    compareKeys a b = .gt ↔ rank b < rank a ∨ rank a = rank b ∧ Exceeds a b := by
  by_cases hints : ∃ m n, a = .int m ∧ b = .int n
  · obtain ⟨m, n, rfl, rfl⟩ := hints
    show compare m.toInt n.toInt = .gt ↔ _
    rw [Int.compare_eq_gt]
    constructor
    · intro h
      rcases Int.lt_or_eq_of_le (rank_int_le (Int.le_of_lt h)) with hlt | heq
      · exact .inl hlt
      · exact .inr ⟨heq.symm, .intro h⟩
    · intro h
      rcases h with hlt | ⟨-, hexceeds⟩
      · by_cases hle : m.toInt ≤ n.toInt
        · have hrank := rank_int_le hle
          omega
        · exact Int.not_le.mp hle
      · cases hexceeds with
        | intro h => exact h
  · -- where one of them is a float only the ranks count
    have hfloat : ∀ m n, a = .int m → b ≠ .int n :=
      fun m n hm hn => hints ⟨m, n, hm, hn⟩
    have hnot : ¬Exceeds a b := by
      intro h
      cases h with
      | intro h => exact hfloat _ _ rfl rfl
    rw [compareKeys_of_float ha hb hfloat, Int.compare_eq_gt]
    exact ⟨.inl, fun h => h.resolve_right fun h => hnot h.2⟩

/-- Comparing two numbers the other way round turns the answer round. -/
theorem compareKeys_number_swap : compareKeys b a = (compareKeys a b).swap := by
  by_cases hints : ∃ m n, a = .int m ∧ b = .int n
  · obtain ⟨m, n, rfl, rfl⟩ := hints
    exact (Int.compare_swap m.toInt n.toInt).symm
  · have hfloat : ∀ m n, a = .int m → b ≠ .int n :=
      fun m n hm hn => hints ⟨m, n, hm, hn⟩
    have hfloat' : ∀ n m, b = .int n → a ≠ .int m :=
      fun n m hn hm => hints ⟨m, n, hm, hn⟩
    rw [compareKeys_of_float ha hb hfloat, compareKeys_of_float hb ha hfloat', Int.compare_swap]

/-- Among numbers only an overtaken triple is not in order from end to end. -/
theorem compareKeys_number_trans (hc : IsNumber c) (hnot : ¬Overtaken a b c)
    (hab : compareKeys a b ≠ .gt) (hbc : compareKeys b c ≠ .gt) : compareKeys a c ≠ .gt := by
  intro hac
  rw [ne_eq, compareKeys_number ha hb, not_or] at hab
  rw [ne_eq, compareKeys_number hb hc, not_or] at hbc
  -- the ranks do not decrease, so they are equal and the ends are integers
  have hle : rank a ≤ rank b := Int.not_lt.mp hab.1
  have hle' : rank b ≤ rank c := Int.not_lt.mp hbc.1
  rcases (compareKeys_number ha hc).mp hac with hlt | ⟨heq, hexceeds⟩
  · omega
  have hrank : rank a = rank b := by omega
  have hrank' : rank b = rank c := by omega
  cases hexceeds with
  | @intro m n h =>
    cases hb with
    | int k =>
      -- integers alone are in order
      by_cases hmk : k.toInt < m.toInt
      · exact hab.2 ⟨hrank, .intro hmk⟩
      · exact hbc.2 ⟨hrank', .intro (by omega)⟩
    | float hx =>
      refine hnot (.intro h ?_ ?_)
      · rw [compareFloats_eq_compare (isNaN_ofInt64 m) hx, Int.compare_eq_eq]
        exact hrank
      · rw [compareFloats_eq_compare hx (isNaN_ofInt64 n), Int.compare_eq_eq]
        exact hrank'

end

/-! ## §4. Comparable keys. -/

/-- Strings are of one kind, and so are booleans. -/
theorem exists_kind_of_class {sortClass : SortClass} (h : sortClass ≠ .number) :
    ∃ kind ∈ linearKinds, ∀ a, sortClass? a = some sortClass → a.kind = kind := by
  cases sortClass with
  | number => exact absurd rfl h
  | string =>
    refine ⟨.string, by decide, fun a ha => ?_⟩
    cases a <;> first | rfl | cases ha
  | boolean =>
    refine ⟨.boolean, by decide, fun a ha => ?_⟩
    cases a <;> first | rfl | cases ha

theorem exists_class_of_kind {kind : Kind} (h : kind ∈ linearKinds) :
    ∃ sortClass, ∀ a : Json, a.kind = kind → sortClass? a = some sortClass := by
  simp only [linearKinds, List.mem_cons, List.not_mem_nil, or_false] at h
  rcases h with rfl | rfl | rfl
  · refine ⟨.number, fun a ha => ?_⟩
    cases a <;> first | rfl | cases ha
  · refine ⟨.string, fun a ha => ?_⟩
    cases a <;> first | rfl | cases ha
  · refine ⟨.boolean, fun a ha => ?_⟩
    cases a <;> first | rfl | cases ha

/-- A key of a class, and no float that is not a number. -/
def IsKey (sortClass : SortClass) (a : Json) : Prop :=
  sortClass? a = some sortClass ∧ a.IsNumeral

theorem IsKey.isNumber {a : Json} (h : IsKey .number a) : IsNumber a := by
  obtain ⟨hclass, hnumeral⟩ := h
  cases a with
  | int n => exact .int n
  | float x => exact .float hnumeral
  | _ => cases hclass

/-- The comparison of an overtaken triple. -/
theorem Overtaken.compareKeys {a b c : Json} (h : Overtaken a b c) :
    compareKeys a b = .eq ∧ compareKeys b c = .eq ∧ compareKeys a c = .gt := by
  cases h with
  | intro h hm hn => exact ⟨hm, hn, Int.compare_eq_gt.mpr h⟩

section

variable {sortClass : SortClass} {a b c : Json} (ha : IsKey sortClass a) (hb : IsKey sortClass b)
  (hc : IsKey sortClass c)

include ha hb

/-- Comparing two keys the other way round turns the answer round. -/
theorem compareKeys_swap : compareKeys b a = (compareKeys a b).swap := by
  by_cases hclass : sortClass = .number
  · subst hclass
    exact compareKeys_number_swap ha.isNumber hb.isNumber
  · obtain ⟨kind, hkind, hof⟩ := exists_kind_of_class hclass
    rcases KeyLt.trichotomy hkind (hof a ha.1) (hof b hb.1) with h | rfl | h
    · rw [h.compareKeys.1, h.compareKeys.2]
      rfl
    · rw [compareKeys_self hkind (hof a ha.1)]
      rfl
    · rw [h.compareKeys.1, h.compareKeys.2]
      rfl

include hc

theorem compareKeys_trans (hnot : ¬Overtaken a b c) (hab : compareKeys a b ≠ .gt)
    (hbc : compareKeys b c ≠ .gt) : compareKeys a c ≠ .gt := by
  by_cases hclass : sortClass = .number
  · subst hclass
    exact compareKeys_number_trans ha.isNumber hb.isNumber hc.isNumber hnot hab hbc
  · obtain ⟨kind, hkind, hof⟩ := exists_kind_of_class hclass
    exact compareKeys_linear_trans hkind (hof a ha.1) (hof b hb.1) (hof c hc.1) hab hbc

/-- Equal keys are greater from neither side. -/
theorem compareKeys_eq_trans (hnot : ¬Overtaken a b c) (hnot' : ¬Overtaken c b a)
    (hab : compareKeys a b = .eq) (hbc : compareKeys b c = .eq) : compareKeys a c = .eq := by
  have hba : compareKeys b a = .eq := by rw [compareKeys_swap ha hb, hab]; rfl
  have hcb : compareKeys c b = .eq := by rw [compareKeys_swap hb hc, hbc]; rfl
  have hac := compareKeys_trans ha hb hc hnot (by rw [hab]; decide) (by rw [hbc]; decide)
  have hca := compareKeys_trans hc hb ha hnot' (by rw [hcb]; decide) (by rw [hba]; decide)
  rw [compareKeys_swap ha hc] at hca
  cases h : compareKeys a c with
  | lt =>
    rw [h] at hca
    exact absurd rfl hca
  | eq => rfl
  | gt => exact absurd h hac

end

/-- On keys that are compared together the comparison is a total preorder but for overtaken
triples.  Turning the keys round turns the answer round.  What is not greater is in order from end
to end just where no greater integer rounds to a float that a lesser one rounds to as well, and
what is equal is so from end to end just where this happens neither forwards nor backwards. -/
theorem compareKeys_preorder_iff (call : Invocation) (a b c : Json)
    (hcomparable : checkComparable call [a, b, c] = .ok ())
    (ha : a.IsNumeral) (hb : b.IsNumeral) (hc : c.IsNumeral) :
    compareKeys b a = (compareKeys a b).swap
      ∧ ((compareKeys a b ≠ .gt → compareKeys b c ≠ .gt → compareKeys a c ≠ .gt)
          ↔ ¬Overtaken a b c)
      ∧ ((compareKeys a b = .eq → compareKeys b c = .eq → compareKeys a c = .eq)
          ↔ ¬Overtaken a b c ∧ ¬Overtaken c b a) := by
  obtain ⟨sortClass, hclass⟩ := checkComparable_eq_ok.mp hcomparable
  obtain ⟨hclass, hrest⟩ := List.forall_mem_cons.mp hclass
  obtain ⟨hclass', hrest⟩ := List.forall_mem_cons.mp hrest
  have ha : IsKey sortClass a := ⟨hclass, ha⟩
  have hb : IsKey sortClass b := ⟨hclass', hb⟩
  have hc : IsKey sortClass c := ⟨hrest c List.mem_cons_self, hc⟩
  have hswap := compareKeys_swap ha hb
  refine ⟨hswap, ⟨fun htrans h => ?_, compareKeys_trans ha hb hc⟩,
    ⟨fun htrans => ⟨fun h => ?_, fun h => ?_⟩, fun hnot => ?_⟩⟩
  · obtain ⟨hab, hbc, hac⟩ := h.compareKeys
    exact htrans (by rw [hab]; decide) (by rw [hbc]; decide) hac
  · obtain ⟨hab, hbc, hac⟩ := h.compareKeys
    exact nomatch hac.symm.trans (htrans hab hbc)
  · -- the triple read backwards
    obtain ⟨hcb, hba, hca⟩ := h.compareKeys
    have hab : compareKeys a b = .eq := Ordering.swap_eq_eq.mp (hswap.symm.trans hba)
    have hbc : compareKeys b c = .eq :=
      Ordering.swap_eq_eq.mp ((compareKeys_swap hb hc).symm.trans hcb)
    have hac : compareKeys a c = .lt :=
      Ordering.swap_eq_gt.mp ((compareKeys_swap ha hc).symm.trans hca)
    exact nomatch hac.symm.trans (htrans hab hbc)
  · exact compareKeys_eq_trans ha hb hc hnot.1 hnot.2

/-- Two neighbouring integers beyond the precision of floats and the float that both round to: an
overtaken triple. -/
theorem compareKeys_preorder_iff_neighbours :
    let call : Invocation := ⟨"sort", .null, .null, []⟩
    let a : Json := .int 9007199254740993
    let b : Json := .float (Float.ofBits 0x4340000000000000)
    let c : Json := .int 9007199254740992
    checkComparable call [a, b, c] = .ok () ∧ a.IsNumeral ∧ b.IsNumeral ∧ c.IsNumeral
      ∧ compareKeys b a = (compareKeys a b).swap
      ∧ ¬(compareKeys a b ≠ .gt → compareKeys b c ≠ .gt → compareKeys a c ≠ .gt)
      ∧ ¬(compareKeys a b = .eq → compareKeys b c = .eq → compareKeys a c = .eq) := by
  intro call a b c
  have hcomparable : checkComparable call [a, b, c] = .ok () := rfl
  have hb : b.IsNumeral := by
    show (Float.ofBits 0x4340000000000000).isNaN = false
    decide +kernel
  have hover : Overtaken a b c := .intro (by decide) (by decide +kernel) (by decide +kernel)
  obtain ⟨hswap, htrans, heq⟩ := compareKeys_preorder_iff call a b c hcomparable trivial hb trivial
  exact ⟨hcomparable, trivial, hb, trivial, hswap, fun h => htrans.mp h hover,
    fun h => (heq.mp h).1 hover⟩

/-- The comparison is no preorder on the keys that are compared together. -/
theorem compareKeys_not_transitive :
    ¬∀ (call : Invocation) (a b c : Json), checkComparable call [a, b, c] = .ok () →
      a.IsNumeral → b.IsNumeral → c.IsNumeral →
        compareKeys b a = (compareKeys a b).swap
          ∧ (compareKeys a b ≠ .gt → compareKeys b c ≠ .gt → compareKeys a c ≠ .gt)
          ∧ (compareKeys a b = .eq → compareKeys b c = .eq → compareKeys a c = .eq) := by
  intro h
  have hb : (Json.float (Float.ofBits 0x4340000000000000)).IsNumeral := by
    show (Float.ofBits 0x4340000000000000).isNaN = false
    decide +kernel
  obtain ⟨-, htrans, -⟩ := h ⟨"sort", .null, .null, []⟩ (.int 9007199254740993)
    (.float (Float.ofBits 0x4340000000000000)) (.int 9007199254740992) rfl trivial hb trivial
  exact htrans (by decide +kernel) (by decide +kernel) (by decide)

end JsonQuery
