/-
  JsonQuery.Query.Fault
  ─────────────────────
  Why a query text cannot be read.  Inside the reader a fault is a reason and the text
  from the place of the fault on (`Fault`); what a caller gets is the reason's kind and
  wording, the whole text and the place as a number of characters (`ParseError`).
-/
import JsonQuery.Json.Basic

namespace JsonQuery

/-! ## §1. Reasons. -/

/-- The kinds of a fault. -/
inductive FaultKind where
  /-- The text ended where more was required. -/
  | unexpectedEnd
  /-- Another character was required. -/
  | unexpectedCharacter
  /-- A rule of the grammar was broken. -/
  | syntaxRule
  /-- A literal is not of the required type, or not written as its type is. -/
  | type
  deriving Repr, DecidableEq

/-- The types that a literal can be marked with. -/
inductive LiteralType where
  | integer | string | float | json
  deriving Repr, DecidableEq

/-- The reasons of faults. -/
inductive Reason where
  /-- The text ends where one of the patterns has to stand. -/
  | missing (patterns : List String)
  /-- Something else stands where one of the patterns has to. -/
  | instead (found : String) (patterns : List String)
  /-- No command begins with this character. -/
  | stray (found : Char)
  /-- The text ends inside a literal or a subscript. -/
  | endOfQuery
  /-- The text ends after an escape character. -/
  | endOfEscape
  /-- A command follows one that has to be the last. -/
  | notLast (form : String)
  /-- A list is built after other commands. -/
  | listInside
  /-- A group stands after other commands. -/
  | groupInside
  /-- An assignment without a target. -/
  | assignToRoot
  /-- An assignment whose target is no selector. -/
  | assignTo (form : String)
  /-- A point without a key; the text may end there. -/
  | missingKey (atEnd : Bool)
  /-- A key of a type that does not select. -/
  | keyType (kind : Kind)
  /-- A bound of a range that is no integer. -/
  | boundType (kind : Kind)
  /-- A subscript without an index. -/
  | missingIndex
  /-- A call without a name. -/
  | missingName
  /-- A literal not written as its type is. -/
  | illWritten (type : LiteralType) (body : String)
  /-- A JSON literal that is a scalar. -/
  | scalarJson (kind : Kind)

namespace Reason

/-- The kind of fault that a reason is. -/
def kind : Reason → FaultKind
  | .missing _ | .endOfQuery | .endOfEscape | .missingKey true => .unexpectedEnd
  | .instead _ _ | .stray _ => .unexpectedCharacter
  | .notLast _ | .listInside | .groupInside | .assignToRoot | .assignTo _ | .missingKey false
  | .missingIndex | .missingName => .syntaxRule
  | .keyType _ | .boundType _ | .illWritten _ _ | .scalarJson _ => .type

/-- Patterns as alternatives. -/
def alternatives (patterns : List String) : String := String.intercalate " or " patterns

/-- The wording of a reason. -/
def message : Reason → String
  | .missing ps => "Syntax Error : Unexpected end of query, expects " ++ alternatives ps
  | .instead found ps =>
    "Syntax Error : Unexpected character '" ++ found ++ "', expects '" ++ alternatives ps ++ "'"
  | .stray c => "Syntax Error : Unexpected character '" ++ c.toString ++ "'"
  | .endOfQuery => "Syntax Error : Unexpected end of query"
  | .endOfEscape => "Unexpected end of string"
  | .notLast form => "Statement of type " ++ form ++ " must be the last statement"
  | .listInside => "List construction cannot happen in the middle of query"
  | .groupInside => "Nested statement must begin a statement"
  | .assignToRoot => "Syntax Error : Cannot assign to root"
  | .assignTo form => "Syntax Error : Cannot assign to " ++ form
  | .missingKey _ => "Syntax Error : Expected a selector after '.'"
  | .keyType kind => "Type Error : Unable to use type " ++ kind.name ++ " for selector"
  | .boundType kind => "Type Error : Unable to use type " ++ kind.name ++ " for list iteration"
  | .missingIndex => "Syntax Error : Expected an index or range inside '.[ ]'"
  | .missingName => "Syntax Error : Expected a function name after '#'"
  | .illWritten .integer body => "Type Error : Unable to parse " ++ body ++ " as int"
  | .illWritten .float body => "Type Error : Unable to parse " ++ body ++ " as float"
  | .illWritten _ body => "Type Error : Unable to parse " ++ body ++ " as json-type"
  | .scalarJson kind => "Type Error : Unknown type " ++ kind.name ++ " after parsing a json type"

end Reason

/-- A fault met by the reader. -/
structure Fault where
  reason : Reason
  /-- The text from the place of the fault on. -/
  rest : List Char

/-! ## §2. Errors for callers. -/

/-- A fault of a query text with its place. -/
structure ParseError where
  kind : FaultKind
  query : String
  /-- How many characters stand before the place of the fault. -/
  index : Nat
  message : String

namespace ParseError

/-- A line with a caret under the place of the fault. -/
def caret (e : ParseError) : String := "".pushn ' ' e.index ++ "^"

/-- The query, the caret below it and the wording. -/
def report (e : ParseError) : String :=
  " query : " ++ e.query ++ "\n         " ++ e.caret ++ "\n error : " ++ e.message

end ParseError

end JsonQuery
