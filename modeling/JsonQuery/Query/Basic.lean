/-
  JsonQuery.Query.Basic
  ─────────────────────
  What a query says.  A query is a sequence of statements, each fed with the result of
  the one before it; a statement is a sequence of commands, applied from left to right;
  and a command may hold operands that are queries again.

  The reader of query text yields only part of these trees (it puts nothing after an
  assignment, say).  Trees built by hand may be any.
-/
import JsonQuery.Json.Describe

namespace JsonQuery

/-! ## §1. Keys and spans. -/

/-- A key that selects one child. Arrays are selected from by integers only, objects by the text of
any key. -/
inductive Key where
  | name (s : String)
  | index (n : Int64)
  | number (x : Float)

/-- The text of a key, which names the entry of an object. -/
def Key.text : Key → String
  | .name s => s
  | .index n => toString n.toInt
  | .number x => floatText x

/-- What an iterator addresses. -/
inductive Span where
  /-- Every item of an array, every entry of an object. -/
  | all
  /-- The items of an array from `start` up to but not including `stop`; a negative bound counts
  from the end, an absent one does not restrict. -/
  | range (start stop : Option Int64)
  deriving DecidableEq

/-! ## §2. The tree. -/

mutual

/-- A value that is written down or computed. -/
inductive Operand where
  | literal (v : Json)
  | query (q : Query)

/-- A call of a function by its name. -/
inductive Call where
  | mk (name : String) (args : List Operand)

/-- A step of a statement. -/
inductive Command where
  /-- Go to one child. -/
  | select (key : Key)
  /-- Go to several children at once. -/
  | iterate (span : Span)
  /-- Write a value under a key. -/
  | assign (target : Key) (value : Operand)
  /-- Apply functions one after another. -/
  | call (calls : List Call)
  /-- Build an array. -/
  | list (items : List Operand)

/-- A whole query. -/
inductive Query where
  | single (statement : List Command)
  | piped (statements : List (List Command))

end

/-- The commands of a statement. Without commands it yields its input. -/
abbrev Statement := List Command

instance : Inhabited Query := ⟨.single []⟩

/-- The name of the called function. -/
def Call.name : Call → String
  | .mk name _ => name

/-- The operands of the call. -/
def Call.args : Call → List Operand
  | .mk _ args => args

namespace Query

/-- The statements in the order in which they run. -/
def statements : Query → List Statement
  | .single s => [s]
  | .piped ss => ss

/-- The query with the given statements: a lone one is not a pipe, and none is an empty one. -/
def ofStatements : List Statement → Query
  | [] => .single []
  | [s] => .single s
  | ss => .piped ss

theorem statements_ofStatements {ss : List Statement} (h : ss ≠ []) :
    (ofStatements ss).statements = ss := by
  match ss, h with
  | [_], _ => rfl
  | _ :: _ :: _, _ => rfl

end Query

/-! ## §3. What a command is. -/

namespace Command

/-- The name of the form of a command. -/
def name : Command → String
  | .select _ => "Selector"
  | .iterate _ => "Iterator"
  | .assign _ _ => "Assignment"
  | .call _ => "FunctionChain"
  | .list _ => "ListConstruction"

/-- Whether nothing may follow the command in its statement. -/
def isTerminal : Command → Bool
  | .assign _ _ | .call _ | .list _ => true
  | _ => false

/-- Whether a statement that ends in the command works on a draft of its document. -/
def needsDraft : Command → Bool
  | .assign _ _ | .call _ => true
  | _ => false

/-- A bound of a range, empty if absent. -/
def boundText (bound : Option Int64) : String :=
  match bound with
  | some n => toString n.toInt
  | none => ""

/-- A short form of the command for reports. -/
def label (c : Command) : String :=
  let detail := match c with
    | .select key => key.text
    | .iterate .all => "*"
    | .iterate (.range start stop) => boundText start ++ ":" ++ boundText stop
    | .assign target _ => target.text
    | .call calls => String.intercalate "#" (calls.map Call.name)
    | .list items => toString items.length
  "(" ++ c.name ++ ":" ++ detail ++ ")"

end Command

end JsonQuery
