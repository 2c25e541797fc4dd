/-
  JsonQuery.Json.Describe
  ───────────────────────
  The text of a value where a text is wanted: for scalars the text that names an object
  key or prints as a result, for arrays and objects a description that shows the kind of
  everything inside.

  Strings stand between quotes in a description.  What cannot be seen is written by its
  code point: characters without a visible form, letters that only fill a place and
  characters that only extend the one before them.
-/
import JsonQuery.Json.Basic
import JsonQuery.Number.Layout
import JsonQuery.Text.Table.GraphemeExtend
import JsonQuery.Text.Table.Unprintable

namespace JsonQuery.Text

/-! ## §1. Strings between quotes. -/

/-- A code point escape: `\u`, and the hexadecimal code point between braces. -/
def codePointEscape (c : Char) : List Char :=
  ['\\', 'u', '\x7b'] ++ Nat.toDigits 16 c.toNat ++ ['\x7d']

/-- A character as it stands in a description. -/
def describeChar (c : Char) : List Char :=
  if c = '"' then ['\\', '"']
  else if c = '\\' then ['\\', '\\']
  else if c = '\n' then ['\\', 'n']
  else if c = '\r' then ['\\', 'r']
  else if c = '\t' then ['\\', 't']
  else if c.toNat = 0 then ['\\', '0']
  else if graphemeExtend.contains c || fillerLetter.contains c || unprintable.contains c then
    codePointEscape c
  else [c]

/-- A string between quotes. -/
def quoted (s : String) : String := "\"" ++ String.ofList (s.toList.flatMap describeChar) ++ "\""

end JsonQuery.Text

namespace JsonQuery

open Number

/-! ## §2. Descriptions. -/

mutual

/-- A value with its kind. -/
def Json.described : Json → String
  | .null => "Null"
  | .bool b => "Boolean(" ++ toString b ++ ")"
  | .int n => "Integer(" ++ toString n.toInt ++ ")"
  | .float x => "Float(" ++ plainFloat.text x ++ ")"
  | .str s => "String(" ++ Text.quoted s ++ ")"
  | .arr items => "Array([" ++ describedItems items ++ "])"
  | .obj entries => "Object(\x7b" ++ describedEntries entries ++ "\x7d)"

/-- The items of an array, separated by commas. -/
def describedItems : List Json → String
  | [] => ""
  | [v] => v.described
  | v :: vs => v.described ++ ", " ++ describedItems vs

/-- The entries of an object, separated by commas. -/
def describedEntries : List (String × Json) → String
  | [] => ""
  | [(k, v)] => Text.quoted k ++ ": " ++ v.described
  | (k, v) :: es => Text.quoted k ++ ": " ++ v.described ++ ", " ++ describedEntries es

end

/-! ## §3. Texts. -/

/-- The text of a float as an object key. -/
def floatText (x : Float) : String := keyFloat.text x

/-- The text of a value: strings without quotes, floats always with a fraction or an exponent. -/
def Json.text : Json → String
  | .null => "null"
  | .bool b => toString b
  | .int n => toString n.toInt
  | .float x => floatText x
  | .str s => s
  | v => v.described

end JsonQuery
