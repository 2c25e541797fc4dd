/-
  JsonQuery.Function.Basic
  ────────────────────────
  Functions that queries call by name, and the registry that holds them in the order in
  which they were registered.
-/
import JsonQuery.RuntimeError

namespace JsonQuery

/-! ## §1. Functions. -/

/-- What a function is called with. -/
structure Invocation where
  /-- The name by which it is called. -/
  name : String
  /-- The value of the statement's document at the place of the call. -/
  data : Json
  /-- The value it is applied to: the result of the call before it in the chain. -/
  value : Json
  args : List Json

/-- A failure reported by the called function. -/
def Invocation.fail {α : Type} (call : Invocation) (message : String) : Except RuntimeError α :=
  .error (.functionFailed call.name message)

/-- What becomes of a function's result. -/
inductive Role where
  /-- It replaces the value, and further calls may follow. -/
  | modifier
  /-- It is the result of the query; no call may follow. -/
  | producer
  deriving Repr, DecidableEq

/-- A function and the rules for calling it. -/
structure Function where
  name : String
  role : Role
  description : String := ""
  /-- Calls as a reader would write them. -/
  usages : List String := []
  /-- The kinds of value it applies to. -/
  accepts : List Kind := []
  /-- How many arguments it takes. -/
  arities : List Nat := [0]
  run : Invocation → Except RuntimeError Json

/-- Whether a function's result replaces the value. -/
def Function.isModifier (f : Function) : Bool := f.role == .modifier

/-! ## §2. Registries. -/

/-- Functions by name, in the order of their first registration. -/
structure Registry where
  functions : List Function

namespace Registry

/-- The registry without functions. -/
def empty : Registry := ⟨[]⟩

/-- The function with a name. -/
def get? (r : Registry) (name : String) : Option Function := r.functions.find? (·.name == name)

/-- A list of functions with one more, in place of the one with the same name if there is one. -/
def insert (f : Function) : List Function → List Function
  | [] => [f]
  | g :: rest => if g.name = f.name then f :: rest else g :: insert f rest

/-- Register a function; a function with the same name is replaced. -/
def register (r : Registry) (f : Function) : Registry := ⟨insert f r.functions⟩

/-- Register functions one after another. -/
def ofList (functions : List Function) : Registry := functions.foldl register empty

end Registry

/-! ## §3. Functions as a text for readers. -/

/-- The word for a role. -/
def Role.name : Role → String
  | .modifier => "modifier"
  | .producer => "producer"

/-- A function with its description, what it applies to and how it is called. -/
def Function.listing (f : Function) : String :=
  "    " ++ f.name ++ " : " ++ f.description ++ "\n"
    ++ "          " ++ f.role.name ++ " on "
    ++ String.intercalate ", " (f.accepts.map Kind.name) ++ "\n"
    ++ String.join (f.usages.map fun usage => "          " ++ usage ++ "\n")

/-- All functions in the order of the registry. -/
def Registry.listing (r : Registry) : String :=
  "FUNCTIONS\n\n" ++ String.join (r.functions.map Function.listing)

end JsonQuery
