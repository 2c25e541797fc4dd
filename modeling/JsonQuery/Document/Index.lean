/-
  JsonQuery.Document.Index
  ────────────────────────
  What an index or a span addresses in a container.

  A negative integer counts from the end of an array.  An index outside the array is none
  (`resolveIndex`); a bound of a slice is moved to the nearer end (`sliceBounds`).  Both
  are computed in exact integers.
-/
import JsonQuery.Query.Basic
import JsonQuery.RuntimeError

namespace JsonQuery

/-! ## §1. Positions given by integers. -/

/-- An integer as a position of an array of `length` items, counted from the start; negative
outside it on that side. -/
def fromStart (n : Int64) (length : Nat) : Int := if n.toInt < 0 then length + n.toInt else n.toInt

/-- The position that an index means, if it lies in an array of `length` items. -/
def resolveIndex (index : Int64) (length : Nat) : Option Nat :=
  let position := fromStart index length
  if 0 ≤ position ∧ position < length then some position.toNat else none

theorem resolveIndex_lt {index : Int64} {length i : Nat} (h : resolveIndex index length = some i) :
    i < length := by
  simp only [resolveIndex] at h
  split at h
  · cases h; omega
  · cases h

/-- A bound moved into an array of `length` items. -/
def clampBound (length : Nat) (bound : Int64) : Nat := min (fromStart bound length).toNat length

/-- The first position of a slice and the one behind its last; an absent bound is the end of the
array on its side. -/
def sliceBounds (length : Nat) (start stop : Option Int64) : Nat × Nat :=
  let low := (start.map (clampBound length)).getD 0
  let high := (stop.map (clampBound length)).getD length
  (low, max high low)

/-- The item that an index means, with its position. -/
def item? (items : List Json) (index : Int64) : Option (Nat × Json) := do
  let i ← resolveIndex index items.length
  return (i, ← items[i]?)

/-! ## §2. Spans. -/

namespace Span

/-- The first position that the span addresses in an array, and the one behind the last. -/
def bounds (length : Nat) : Span → Nat × Nat
  | .all => (0, length)
  | .range start stop => sliceBounds length start stop

/-- The addressed items of an array with their positions. -/
def positions (span : Span) (items : List Json) : List (Json × Nat) :=
  let (low, high) := span.bounds items.length
  (items.zipIdx.take high).drop low

/-- The addressed part of a container as a value of its own. -/
def slice (span : Span) (v : Json) : Except RuntimeError Json :=
  match v, span with
  | .arr items, span => .ok (.arr ((span.positions items).map Prod.fst))
  | .obj entries, .all => .ok (.obj entries)
  | .obj _, .range _ _ => .error .rangeOnObject
  | v, _ => .error (.notIterable v.kind)

end Span

/-- A container of the same shape with other values: an object keeps its keys. -/
def Json.refill (v : Json) (values : List Json) : Json :=
  match v with
  | .obj entries => .obj ((entries.map Prod.fst).zip values)
  | _ => .arr values

end JsonQuery
