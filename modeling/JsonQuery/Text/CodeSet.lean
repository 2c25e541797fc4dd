/-
  JsonQuery.Text.CodeSet
  ──────────────────────
  Sets of characters written as the standard derives them: from tables, by union and
  difference.  A derivation is data; its ranges are worked out where they are needed
  (`CodeSet.ranges`).
-/
import JsonQuery.Text.Ranges
import JsonQuery.Text.Table.CaseMapping

namespace JsonQuery.Text

/-! ## §1. Runs of characters. -/

/-- Every second code point from `first` to `last`, both included. -/
def everySecond (first last : Nat) : Ranges :=
  (List.range ((last - first) / 2 + 1)).map fun k => (first + 2 * k, first + 2 * k)

/-- The code points of a set that a run maps. -/
def CaseRun.restrict (r : CaseRun) (ranges : Ranges) : Ranges :=
  ranges.flatMap fun (low, high) =>
    let first := max low r.first
    let last := min high r.last
    if last < first then []
    else if r.stride ≤ 1 then [(first, last)]
    else
      let first := first + (first - r.first) % 2
      if last < first then [] else everySecond first last

/-- The code points that a run maps. -/
def CaseRun.sources (r : CaseRun) : Ranges := r.restrict [(r.first, r.last)]

/-! ## §2. Derivations. -/

/-- A set of characters as it is derived. -/
inductive CodeSet where
  | table (ranges : Ranges)
  /-- Every second code point of each range. -/
  | stripes (ranges : Ranges)
  /-- The characters that a mapping of case changes. -/
  | mapped (runs : List CaseRun) (expansions : List (Nat × List Nat))
  | union (a b : CodeSet)
  | inter (a b : CodeSet)
  | diff (a b : CodeSet)

namespace CodeSet

instance : Union CodeSet := ⟨union⟩

instance : Inter CodeSet := ⟨inter⟩

instance : SDiff CodeSet := ⟨diff⟩

/-- The ranges of a set. -/
def ranges : CodeSet → Ranges
  | table ranges => ranges
  | stripes ranges => ranges.flatMap fun r => everySecond r.1 r.2
  | mapped runs expansions =>
    .ofList (runs.flatMap CaseRun.sources ++ expansions.map fun e => (e.1, e.1))
  | union a b => a.ranges.union b.ranges
  | inter a b => a.ranges.inter b.ranges
  | diff a b => a.ranges.diff b.ranges

/-- A single character. -/
def single (code : Nat) : CodeSet := table [(code, code)]

end CodeSet

end JsonQuery.Text
