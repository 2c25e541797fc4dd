/-
  JsonQuery.RuntimeError
  ──────────────────────
  Why a query fails on a document.
-/
import JsonQuery.Document.Path

namespace JsonQuery

/-- Where a query may only read. -/
inductive ModifierSite where
  | assignmentValue | functionArgument | listElement
  deriving Repr, DecidableEq

/-- The wording for a write at a place that may only read. -/
def ModifierSite.message : ModifierSite → String
  | .assignmentValue => "right hand side of assignment cannot be a modifier statement"
  | .functionArgument => "function argument cannot be a modifier"
  | .listElement => "list element cannot be a modifier"

/-- The reasons for which a query fails on a document. -/
inductive RuntimeError where
  /-- An object has no such key. -/
  | keyNotFound (key : String)
  /-- An index lies outside the array. -/
  | indexOutOfBounds (index : Int64) (length : Nat)
  /-- An array is selected from by a key that is no integer. -/
  | invalidIndex (key : String)
  /-- A scalar is selected from. -/
  | invalidSelection (kind : Kind) (key : String)
  /-- A scalar is iterated. -/
  | notIterable (kind : Kind)
  /-- An object is sliced. -/
  | rangeOnObject
  /-- A key is assigned in a scalar. -/
  | cannotAssign (kind : Kind) (key : String)
  /-- No function has the name. -/
  | unknownFunction (name : String)
  /-- A function does not apply to values of the kind. -/
  | functionNotApplicable (name : String) (kind : Kind)
  /-- A function does not take so many arguments. -/
  | badArity (name : String) (given : Nat) (expected : List Nat)
  /-- A producer is followed by further calls. -/
  | nonModifierNotLast (name : String)
  /-- A nested query writes. -/
  | modifierNotAllowed (site : ModifierSite)
  /-- A function reports a failure of its own. -/
  | functionFailed (name : String) (message : String)
  /-- A draft has no value at the path. -/
  | missingPath (path : Path)

/-- The wording of an error. -/
def RuntimeError.message : RuntimeError → String
  | .keyNotFound key => "Runtime Error : unable to find key " ++ key
  | .indexOutOfBounds index length =>
    "Runtime Error : Index out of bound " ++ toString index.toInt ++ " (length " ++ toString length
      ++ ")"
  | .invalidIndex key => "Runtime Error : Unable to access list index with " ++ key
  | .invalidSelection kind key =>
    "Runtime Error : selecting from type " ++ kind.name ++ " using key " ++ key ++ " is not allowed"
  | .notIterable kind => "Runtime Error : Unable to iterate object of type " ++ kind.name
  | .rangeOnObject => "Runtime Error : Unable to slice object, only .[*] can iterate an object"
  | .cannotAssign kind key =>
    "Runtime Error : Unable to assign key " ++ key ++ " in type " ++ kind.name
  | .unknownFunction name => "Function " ++ name ++ " not found"
  | .functionNotApplicable name kind =>
    "Function " ++ name ++ " cannot be applied to type " ++ kind.name
  | .badArity name given expected =>
    "Function " ++ name ++ " does not take " ++ toString given ++ " argument(s), expects "
      ++ String.intercalate " or " (expected.map toString)
  | .nonModifierNotLast name => "Non modifier function " ++ name ++ " must be the last command"
  | .modifierNotAllowed site => "modifier not allowed : " ++ site.message
  | .functionFailed name message => "Function " ++ name ++ " failed : " ++ message
  | .missingPath path => "Runtime Error : no value at " ++ path.text ++ " in the working copy"

end JsonQuery
