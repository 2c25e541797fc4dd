/-
  JsonQuery.Function.Text
  ───────────────────────
  What can be done with a string: its case, and what a pattern finds in it.
-/
import JsonQuery.Function.Basic
import JsonQuery.Json.Describe
import JsonQuery.Pattern.Replacement
import JsonQuery.Text.Case

namespace JsonQuery

/-- Apply a change of case to the string that the call is applied to. -/
def changeCase (change : String → String) (call : Invocation) : Except RuntimeError Json :=
  match call.value with
  | .str s => .ok (.str (change s))
  | v => call.fail ("expects a string, got " ++ v.kind.name)

/-- The string that the call is applied to. -/
def subject (call : Invocation) : Except RuntimeError String :=
  match call.value with
  | .str s => .ok s
  | _ => call.fail "expects a string"

/-- The pattern that an argument writes. -/
def patternArgument (call : Invocation) (arg : Json) : Except RuntimeError Pattern.Named :=
  match Pattern.read? arg.text with
  | some p => .ok p
  | none => call.fail "invalid pattern"

/-- Replace every match of the first argument, a pattern, by the second. -/
def replaceMatches (call : Invocation) : Except RuntimeError Json :=
  match call.args with
  | [pattern, replacement] => do
    let s ← subject call
    let p ← patternArgument call pattern
    return .str (p.replaceAll s replacement.text)
  | _ => call.fail "expects pattern and replacement"

/-- Whether the argument, a pattern, matches anywhere in the string. -/
def testPattern (call : Invocation) : Except RuntimeError Json :=
  match call.args with
  | [pattern] => do
    let s ← subject call
    let p ← patternArgument call pattern
    return .bool (p.test s)
  | _ => call.fail "expects a pattern"

end JsonQuery
