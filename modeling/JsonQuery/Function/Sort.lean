/-
  JsonQuery.Function.Sort
  ───────────────────────
  Sorting a list by its items or by a key of them.

  Sort keys have to be of one class: numbers, strings or booleans.  Two integers are
  compared exactly; an integer is rounded to a float only against a float.  The sort is
  stable in both directions: descending order turns the comparison round, not the list.
-/
import JsonQuery.Document.Index
import JsonQuery.Function.Basic
import JsonQuery.Json.Describe

namespace JsonQuery

open Number

/-! ## §1. Stable insertion. -/

/-- Insert an item into a list sorted from last to first, behind the items that it must not come
before. -/
def insertLast {α : Type} (before : α → α → Bool) (x : α) : List α → List α
  | [] => [x]
  | y :: ys => if before x y then y :: insertLast before x ys else x :: y :: ys

/-- The items in order: each is moved forward past the items that it comes strictly before. -/
def stableSort {α : Type} (before : α → α → Bool) (xs : List α) : List α :=
  (xs.foldl (fun sorted x => insertLast before x sorted) []).reverse

theorem perm_insertLast {α : Type} (before : α → α → Bool) (x : α) (ys : List α) :
    (insertLast before x ys).Perm (x :: ys) := by
  induction ys with
  | nil => exact .refl _
  | cons y ys ih =>
    simp only [insertLast]
    split
    · exact (ih.cons y).trans (.swap x y ys)
    · exact .refl _

/-! ## §2. Sort keys. -/

/-- The classes of values that can be compared. -/
inductive SortClass where
  | number | string | boolean
  deriving Repr, DecidableEq

/-- The class of a value, if it can be sorted. -/
def sortClass? : Json → Option SortClass
  | .int _ | .float _ => some .number
  | .str _ => some .string
  | .bool _ => some .boolean
  | _ => none

/-- The order of two floats; what cannot be compared is equal. -/
def compareFloats (x y : Float) : Ordering := if x < y then .lt else if y < x then .gt else .eq

/-- The order of two sort keys of one class. -/
def compareKeys : Json → Json → Ordering
  | .int a, .int b => compare a.toInt b.toInt
  | .float a, .float b => compareFloats a b
  | .int a, .float b => compareFloats (ofInt64 a) b
  | .float a, .int b => compareFloats a (ofInt64 b)
  | .str a, .str b => if a < b then .lt else if b < a then .gt else .eq
  | .bool a, .bool b => compare a.toNat b.toNat
  | _, _ => .eq

/-- The value under a key of an item: objects are looked up by the key's text, arrays by an
integer. -/
def lookupKey (item key : Json) : Option Json :=
  match item with
  | .obj entries => Entries.get? entries key.text
  | .arr items => key.int?.bind fun n => (item? items n).map Prod.snd
  | _ => none

/-- The sort key of an item. -/
def sortKey (call : Invocation) (key : Option Json) (item : Json) : Except RuntimeError Json :=
  match key with
  | none => .ok item
  | some key =>
    match lookupKey item key with
    | some v => .ok v
    | none => call.fail ("unable to find key " ++ key.text ++ " in " ++ item.kind.name)

/-- Fail unless all keys are of one class, that of the first. -/
def checkComparable (call : Invocation) : List Json → Except RuntimeError Unit
  | [] => .ok ()
  | first :: rest =>
    match sortClass? first with
    | none => call.fail ("cannot sort " ++ first.kind.name)
    | some expected =>
      match rest.find? fun key => sortClass? key != some expected with
      | none => .ok ()
      | some key => call.fail ("cannot compare " ++ first.kind.name ++ " with " ++ key.kind.name)

/-! ## §3. The functions. -/

/-- Directions of a sort. -/
inductive Direction where
  | ascending | descending
  deriving Repr, DecidableEq

/-- Whether one sort key comes strictly before another. -/
def Direction.before (direction : Direction) (a b : Json) : Bool :=
  match direction with
  | .ascending => compareKeys a b == .lt
  | .descending => compareKeys a b == .gt

/-- The key to sort by: none, a lone argument, or the one that the word `item` announces. -/
def sortKeyArgument (call : Invocation) : Except RuntimeError (Option Json) :=
  match call.args with
  | [] => .ok none
  | [key] => .ok (some key)
  | [type, key] =>
    if type.str? = some "item" then .ok (some key)
    else call.fail ("Unknown sort type " ++ type.text)
  | _ => call.fail "too many arguments"

/-- Items paired with their sort keys, in order of the keys. -/
def sortKeyed (direction : Direction) (keyed : List (Json × Json)) : List (Json × Json) :=
  stableSort (fun a b => direction.before a.2 b.2) keyed

/-- Sort the list that the call is applied to. -/
def sortList (direction : Direction) (call : Invocation) : Except RuntimeError Json :=
  match call.value with
  | .arr items => do
    let key ← sortKeyArgument call
    let keys ← items.mapM (sortKey call key)
    checkComparable call keys
    return .arr ((sortKeyed direction (items.zip keys)).map Prod.fst)
  | _ => call.fail "expects a list"

end JsonQuery
