/-
  JsonQuery.Proofs.Number.Integer
  ───────────────────────────────
  The decimal text of a word, and reading it back.

  A word is written by its digits behind an optional sign, without leading zeros.  Both
  readers of numbers yield the word again: the one for whole texts, and the one for the
  number tokens of JSON, which stops where the digits do.
-/
import JsonQuery.Json.Number
import JsonQuery.Number.Numeral

namespace JsonQuery

open Number

/-! ## §1. Digits. -/

/-- The decimal digits of a number. -/
abbrev digits (n : Nat) : List Char := Nat.toDigits 10 n

theorem isDigit_of_mem_digits {n : Nat} {c : Char} (h : c ∈ digits n) : c.isDigit = true :=
  Nat.isDigit_of_mem_toDigits (by decide) (by decide) h

theorem digits_all_isDigit (n : Nat) : (digits n).all Char.isDigit = true :=
  List.all_eq_true.mpr fun _ hc => isDigit_of_mem_digits hc

theorem digitsValue_digits (n : Nat) : digitsValue (digits n) = n :=
  Nat.ofDigitChars_ten_toDigits

/-- Only zero is written with a leading zero. -/
theorem digits_head? (n : Nat) : ∃ c, (digits n).head? = some c ∧ (c = '0' → digits n = ['0']) := by
  induction n using Nat.strongRecOn with
  | _ n ih =>
    by_cases hn : n < 10
    · refine ⟨n.digitChar, by rw [digits, Nat.toDigits_of_lt_base hn]; rfl, fun h => ?_⟩
      rw [digits, Nat.toDigits_of_lt_base hn, h]
    · -- the leading digit is that of the number without its last one, which is no zero
      obtain ⟨c, hhead, hzero⟩ := ih (n / 10) (by omega)
      have hsplit : digits n = digits (n / 10) ++ [Nat.digitChar (n % 10)] :=
        Nat.toDigits_of_base_le (by decide) (by omega)
      refine ⟨c, ?_, fun hc => ?_⟩
      · rw [hsplit, List.head?_append, hhead]
        rfl
      · have hvalue := digitsValue_digits (n / 10)
        rw [hzero hc] at hvalue
        have hvalue : 0 = n / 10 := hvalue
        omega

/-! ## §2. Words. -/

/-- The text of an integer: its sign, if it is negative, and its digits. -/
theorem toList_toString (n : Int) :
    (toString n).toList = if n < 0 then '-' :: digits n.natAbs else digits n.natAbs := by
  rw [Int.toString_eq_repr, Int.repr_eq_if]
  by_cases hn : n < 0
  · have habs : (-n).toNat = n.natAbs := by omega
    rw [if_neg (by omega), if_pos hn, String.toList_append, Nat.toList_repr, habs]
    rfl
  · have habs : n.toNat = n.natAbs := by omega
    rw [if_pos (by omega), if_neg hn, Nat.toList_repr, habs]

theorem int64?_toInt (n : Int64) : int64? n.toInt = some n := by
  unfold int64?
  rw [if_pos ⟨n.minValue_le_toInt, n.toInt_le⟩, Int64.ofInt_toInt]

theorem int64?_eq_none_iff {z : Int} :
    int64? z = none ↔ ¬(Int64.minValue.toInt ≤ z ∧ z ≤ Int64.maxValue.toInt) := by
  unfold int64?
  split
  · rename_i h
    exact iff_of_false (fun hnone => nomatch hnone) (not_not_intro h)
  · rename_i h
    exact iff_of_true rfl h

theorem toInt_of_int64? {z : Int} {n : Int64} (h : int64? z = some n) : n.toInt = z := by
  unfold int64? at h
  split at h
  · rename_i hrange
    injection h with h
    rw [← h]
    exact Int64.toInt_ofInt_of_le hrange.1 (Int.lt_of_le_sub_one hrange.2)
  · cases h

/-- A sign is no digit. -/
theorem splitSign_digits (n : Nat) : splitSign (digits n) = (false, digits n) := by
  unfold splitSign
  split
  · rename_i rest h
    have hd := isDigit_of_mem_digits (n := n) (c := '-') (by rw [h]; exact List.mem_cons_self)
    cases hd
  · rename_i rest h
    have hd := isDigit_of_mem_digits (n := n) (c := '+') (by rw [h]; exact List.mem_cons_self)
    cases hd
  · rfl

/-- A word is read back from its text. -/
theorem readInt64_toString (n : Int64) : readInt64 (toString n.toInt).toList = some n := by
  have hdigits : ((digits n.toInt.natAbs).isEmpty || !(digits n.toInt.natAbs).all Char.isDigit)
      = false := by
    rw [digits_all_isDigit]
    simp
  unfold readInt64
  rw [toList_toString]
  by_cases hn : n.toInt < 0
  · have hvalue : -(n.toInt.natAbs : Int) = n.toInt := by omega
    rw [if_pos hn]
    simp only [splitSign, hdigits, digitsValue_digits, hvalue, int64?_toInt, if_true,
      Bool.false_eq_true, if_false]
  · have hvalue : (n.toInt.natAbs : Int) = n.toInt := by omega
    rw [if_neg hn, splitSign_digits]
    simp only [hdigits, digitsValue_digits, hvalue, int64?_toInt, Bool.false_eq_true, if_false]

/-! ## §3. Number tokens. -/

/-- Whether no number goes on with the character. -/
def endsNumber (c : Char) : Bool := !c.isDigit && c != '.' && c != 'e' && c != 'E'

namespace Numeral

variable {rest : List Char}

theorem readFraction_none (hr : ∀ c ∈ rest.head?, endsNumber c = true) :
    readFraction rest = some ([], 0) := by
  unfold readFraction
  split
  · cases hr '.' rfl
  · rfl

theorem readExponent_none (hr : ∀ c ∈ rest.head?, endsNumber c = true) :
    readExponent rest = some (none, 0) := by
  cases rest with
  | nil => rfl
  | cons c rest =>
    have hc := hr c rfl
    simp only [endsNumber, Bool.and_eq_true, bne_iff_ne, ne_eq] at hc
    have hmark : (c == 'e' || c == 'E') = false := by simp [hc]
    unfold readExponent
    simp only [hmark, Bool.false_eq_true, if_false]

theorem takeWhile_digits (n : Nat) (hr : ∀ c ∈ rest.head?, endsNumber c = true) :
    (digits n ++ rest).takeWhile Char.isDigit = digits n := by
  rw [List.takeWhile_append_of_pos fun _ => isDigit_of_mem_digits]
  cases rest with
  | nil => simp
  | cons c rest =>
    have hc := hr c rfl
    simp only [endsNumber, Bool.and_eq_true, Bool.not_eq_true'] at hc
    rw [List.takeWhile_cons_of_neg (by simp [hc]), List.append_nil]

/-- The digits of a number are a whole part. -/
theorem digits_valid (n : Nat) :
    ((digits n).isEmpty || ((digits n).head? == some '0' && 1 < (digits n).length)) = false := by
  obtain ⟨c, hhead, hzero⟩ := digits_head? n
  by_cases hc : c = '0'
  · rw [hzero hc]
    rfl
  · rw [hhead]
    simp [hc]

/-- Digits behind an optional sign are read up to their end. -/
theorem read_digits {text : List Char} {negative : Bool} {n : Nat}
    (hsign : (text.head? == some '-') = negative)
    (hbody : (if negative then text.drop 1 else text) = digits n ++ rest)
    (hr : ∀ c ∈ rest.head?, endsNumber c = true) :
    read text = some (⟨negative, digits n, [], none⟩, negative.toNat + (digits n).length) := by
  unfold read
  simp only [hsign, hbody, takeWhile_digits n hr, digits_valid, List.drop_left,
    readFraction_none hr, Bool.false_eq_true, if_false, Option.bind_eq_bind, Option.bind_some,
    List.drop_zero, readExponent_none hr, Nat.add_zero]

/-- The token of a word is read up to its end. -/
theorem read_toString (n : Int64) (hr : ∀ c ∈ rest.head?, endsNumber c = true) :
    read ((toString n.toInt).toList ++ rest)
      = some (⟨decide (n.toInt < 0), digits n.toInt.natAbs, [], none⟩,
          (toString n.toInt).toList.length) := by
  rw [toList_toString]
  by_cases hn : n.toInt < 0
  · rw [if_pos hn, decide_eq_true hn, List.length_cons, Nat.add_comm]
    exact read_digits rfl rfl hr
  · obtain ⟨c, hhead, -⟩ := digits_head? n.toInt.natAbs
    have hdigit := isDigit_of_mem_digits (List.mem_of_mem_head? hhead)
    have hsign : ((digits n.toInt.natAbs ++ rest).head? == some '-') = false := by
      rw [List.head?_append, hhead]
      refine beq_eq_false_iff_ne.mpr ?_
      rintro ⟨⟩
      cases hdigit
    rw [if_neg hn, decide_eq_false hn, ← Nat.zero_add (List.length _)]
    exact read_digits hsign rfl hr

/-- The value of the token of a word is the word. -/
theorem value_toString (n : Int64) :
    value ⟨decide (n.toInt < 0), digits n.toInt.natAbs, [], none⟩ = some (.int n) := by
  have hword : (if decide (n.toInt < 0) = true then -(n.toInt.natAbs : Int) else n.toInt.natAbs)
      = n.toInt := by
    by_cases hn : n.toInt < 0
    · rw [if_pos (decide_eq_true hn)]
      omega
    · rw [if_neg (by simp [hn])]
      omega
  -- the only word whose sign is lost is zero, which has none
  have hzero : (decide (n.toInt < 0) && (n.toInt.natAbs : Int) == 0) = false := by
    by_cases hn : n.toInt < 0
    · rw [Bool.and_eq_false_iff]
      exact .inr (beq_eq_false_iff_ne.mpr (by omega))
    · rw [decide_eq_false hn, Bool.false_and]
  unfold value
  simp only [digitsValue_digits, hword, hzero, int64?_toInt]
  rfl

end Numeral

end JsonQuery
