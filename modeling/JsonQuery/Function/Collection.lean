/-
  JsonQuery.Function.Collection
  ─────────────────────────────
  What can be asked of a list or an object as a whole: its size, its keys, and the sum of
  its items.  Numbers are added up in decimals from left to right; the sum is an integer
  when every item is one.
-/
import JsonQuery.Function.Basic
import JsonQuery.Number.Decimal

namespace JsonQuery

open Number

/-! ## §1. Size and keys. -/

/-- How many items a list or entries an object has. -/
def countEntries (call : Invocation) : Except RuntimeError Json :=
  match call.value with
  | .arr items => .ok (.int (Int64.ofNat items.length))
  | .obj entries => .ok (.int (Int64.ofNat entries.length))
  | v => call.fail ("cannot count " ++ v.kind.name)

/-- The keys of an object, in document order. -/
def listKeys (call : Invocation) : Except RuntimeError Json :=
  match call.value with
  | .obj entries => .ok (.arr ((Entries.keys entries).map .str))
  | v => call.fail ("expects an object, got " ++ v.kind.name)

/-! ## §2. Sums. -/

/-- A failure of a sum that leaves the range of its numbers. -/
def overflow {α : Type} (call : Invocation) : Except RuntimeError α := call.fail "numeric overflow"

/-- The decimal that an item adds. -/
def addend (call : Invocation) : Json → Except RuntimeError Decimal
  | .int n => .ok (.ofInt64 n)
  | .float x =>
    match Decimal.ofFloat x with
    | some d => .ok d
    | none => overflow call
  | v => call.fail ("cannot add " ++ v.kind.name)

/-- A total with one more item. -/
def addItem (call : Invocation) (total : Decimal) (item : Json) : Except RuntimeError Decimal := do
  match total.add (← addend call item) with
  | some d => return d
  | none => overflow call

/-- The sum of the list that the call is applied to. -/
def sumList (call : Invocation) : Except RuntimeError Json :=
  match call.value with
  | .arr items => do
    let total ← items.foldlM (addItem call) Decimal.zero
    if items.all fun v => v.kind == .integer then
      match total.toInt64? with
      | some n => return .int n
      | none => overflow call
    else return .float total.toFloat
  | _ => call.fail "expects a list"

end JsonQuery
