/-
  JsonQuery.Json.Basic
  ────────────────────
  JSON values.  Integers and floats are different kinds of value, and an object is a
  list of entries in document order.

  The type allows a key to occur twice; every object that a document or a query
  yields is built by `Entries.put`, which never lets that happen.
-/

namespace JsonQuery

/-! ## §1. Values. -/

/-- A JSON value. -/
inductive Json where
  | null
  | bool (b : Bool)
  | int (n : Int64)
  | float (x : Float)
  | str (s : String)
  | arr (items : List Json)
  | obj (entries : List (String × Json))
  deriving Inhabited

/-- What a value is, without its content. Functions say with it what they accept, errors what they
met. -/
inductive Kind where
  | null | boolean | integer | float | string | array | object
  deriving Repr, DecidableEq

/-- The word for a kind in messages. -/
def Kind.name : Kind → String
  | .null => "null"
  | .boolean => "boolean"
  | .integer => "integer"
  | .float => "float"
  | .string => "string"
  | .array => "array"
  | .object => "object"

/-- Every kind. -/
def Kind.all : List Kind := [.null, .boolean, .integer, .float, .string, .array, .object]

/-- The kind of a value. -/
def Json.kind : Json → Kind
  | .null => .null
  | .bool _ => .boolean
  | .int _ => .integer
  | .float _ => .float
  | .str _ => .string
  | .arr _ => .array
  | .obj _ => .object

/-- The integer, if the value is one. -/
def Json.int? : Json → Option Int64
  | .int n => some n
  | _ => none

/-- The string, if the value is one. -/
def Json.str? : Json → Option String
  | .str s => some s
  | _ => none

/-! ## §2. The entries of an object. -/

/-- The entries of an object, in document order. -/
abbrev Entries := List (String × Json)

namespace Entries

/-- The value under a key. -/
def get? (entries : Entries) (key : String) : Option Json :=
  match entries with
  | [] => none
  | (k, v) :: rest => if k = key then some v else get? rest key

/-- Write a value under a key: in place if the key is there, else as the last entry. -/
def put (entries : Entries) (key : String) (value : Json) : Entries :=
  match entries with
  | [] => [(key, value)]
  | (k, v) :: rest => if k = key then (k, value) :: rest else (k, v) :: put rest key value

/-- The keys, in document order. -/
def keys (entries : Entries) : List String := entries.map Prod.fst

theorem get?_put_self (entries : Entries) (key : String) (value : Json) :
    (entries.put key value).get? key = some value := by
  induction entries with
  | nil => simp [put, get?]
  | cons e rest ih => by_cases h : e.1 = key <;> simp [put, get?, h, ih]

theorem get?_put_of_ne {key other : String} (h : other ≠ key) (entries : Entries) (value : Json) :
    (entries.put key value).get? other = entries.get? other := by
  induction entries with
  | nil => simp [put, get?, Ne.symm h]
  | cons e rest ih =>
    by_cases hk : e.1 = key
    · simp [put, get?, hk, Ne.symm h]
    · simp [put, get?, hk, ih]

/-- The keys are unchanged when the key is there, and gain it at the end when it is not. -/
theorem keys_put (entries : Entries) (key : String) (value : Json) :
    (entries.put key value).keys
      = if key ∈ entries.keys then entries.keys else entries.keys ++ [key] := by
  induction entries with
  | nil => simp [put, keys]
  | cons e rest ih =>
    by_cases hk : e.1 = key
    · simp [put, keys, hk]
    · simp only [keys] at ih
      by_cases hm : key ∈ rest.map Prod.fst <;>
        simp [put, keys, hk, Ne.symm hk, hm, ih]

end Entries

end JsonQuery
