/-
  JsonQuery.Text.Ranges
  ─────────────────────
  Sets of characters given by ranges of code points, as the tables of character
  properties list them, and the operations on such sets.

  Ranges are canonical when they increase and neither overlap nor touch: every
  operation gives canonical ranges (`join` makes them so) for canonical ones.  No
  character lies between U+D7FF and U+E000; the ends that an operation makes step over
  that gap (`nextCode`, `previousCode`), yet ranges on both sides of it do not touch.
-/

namespace JsonQuery.Text

/-- Ranges of code points, both ends included, in increasing order and apart from each other. -/
abbrev Ranges := List (Nat × Nat)

/-! ## §1. Members. -/

/-- Whether a code point lies in one of the ranges. The order lets the search end early. -/
def Ranges.has (code : Nat) : Ranges → Bool
  | [] => false
  | (low, high) :: rest =>
    if code < low then false else if code ≤ high then true else has code rest

/-- Whether a character lies in one of the ranges. -/
def Ranges.contains (ranges : Ranges) (c : Char) : Bool := ranges.has c.toNat

/-! ## §2. Neighbours. -/

/-- The greatest code point. -/
def lastCode : Nat := 0x10FFFF

/-- The code point of the next character. -/
def nextCode (code : Nat) : Nat := if code = 0xD7FF then 0xE000 else code + 1

/-- The code point of the character before this one. -/
def previousCode (code : Nat) : Nat := if code = 0xE000 then 0xD7FF else code - 1

/-! ## §3. Canonical ranges. -/

/-- The order by the lower, then by the upper ends. -/
def rangeBefore (a b : Nat × Nat) : Bool := a.1 < b.1 || (a.1 == b.1 && a.2 ≤ b.2)

/-- The range from `low` to `high` and ordered ranges behind it, with those joined that overlap or
touch. -/
def joinFrom (low high : Nat) : List (Nat × Nat) → Ranges
  | [] => [(low, high)]
  | (low', high') :: rest =>
    if low' ≤ high + 1 then joinFrom low (max high high') rest
    else (low, high) :: joinFrom low' high' rest

/-- Ordered ranges with those joined that overlap or touch. -/
def join : List (Nat × Nat) → Ranges
  | [] => []
  | (low, high) :: rest => joinFrom low high rest

namespace Ranges

/-- The canonical form of any ranges. -/
def ofList (ranges : List (Nat × Nat)) : Ranges := join (ranges.mergeSort rangeBefore)

/-- The code points in one set or the other. -/
def union (a b : Ranges) : Ranges := join (List.merge a b rangeBefore)

/-- The code points in both sets. -/
def inter (a b : Ranges) : Ranges :=
  match a, b with
  | [], _ => []
  | _, [] => []
  | (low, high) :: as, (low', high') :: bs =>
    let rest := if high < high' then inter as ((low', high') :: bs)
      else inter ((low, high) :: as) bs
    if max low low' ≤ min high high' then (max low low', min high high') :: rest else rest
termination_by a.length + b.length
decreasing_by all_goals simp only [List.length_cons]; omega

/-- The code points in the first set that are not in the second. -/
def diff (a b : Ranges) : Ranges :=
  match a, b with
  | [], _ => []
  | a, [] => a
  | (low, high) :: as, (low', high') :: bs =>
    if high' < low then diff ((low, high) :: as) bs
    else if high < low' then (low, high) :: diff as ((low', high') :: bs)
    else
      -- what lies before the second range is kept, what lies behind it is looked at again
      let left := if low < low' then [(low, previousCode low')] else []
      if high' < high then left ++ diff ((nextCode high', high) :: as) bs
      else left ++ diff as ((low', high') :: bs)
termination_by a.length + b.length
decreasing_by all_goals simp only [List.length_cons]; omega

/-- The code points in exactly one of the sets. -/
def symmDiff (a b : Ranges) : Ranges := (a.union b).diff (a.inter b)

/-- What lies behind a range that ends at `high`: the gaps between the ranges that follow, and the
rest. Where two ranges meet at the surrogates, the characters on both sides make up their gap. -/
def gapsAfter (high : Nat) : Ranges → Ranges
  | [] => if high < lastCode then [(nextCode high, lastCode)] else []
  | (low', high') :: rest =>
    let first := nextCode high
    let last := previousCode low'
    (min first last, max first last) :: gapsAfter high' rest

/-- The code points that are not in the set. -/
def compl : Ranges → Ranges
  | [] => [(0, lastCode)]
  | (low, high) :: rest =>
    if 0 < low then (0, previousCode low) :: gapsAfter high rest else gapsAfter high rest

/-- Whether all of the set lies below a code point. -/
def below (ranges : Ranges) (code : Nat) : Bool := ranges.all fun r => r.2 < code

end Ranges

end JsonQuery.Text
