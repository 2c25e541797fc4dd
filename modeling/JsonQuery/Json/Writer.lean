/-
  JsonQuery.Json.Writer
  ─────────────────────
  JSON text of a value, in one line or with one line per item.  Strings escape the
  quote, the backslash and the control characters below U+0020 and hold everything
  else as it is; a float that is not finite has no JSON text and becomes `null`.
-/
import JsonQuery.Json.Basic
import JsonQuery.Number.Layout

namespace JsonQuery

open Number

/-! ## §1. Strings and scalars. -/

/-- A hexadecimal digit, lower case. -/
def hexChar (n : Nat) : Char := Char.ofNat (if n < 10 then '0'.toNat + n else 'a'.toNat + (n - 10))

/-- A character as it stands inside a JSON string. -/
def escapeChar (c : Char) : List Char :=
  if c = '"' then ['\\', '"']
  else if c = '\\' then ['\\', '\\']
  else if c = '\x08' then ['\\', 'b']
  else if c = '\x0c' then ['\\', 'f']
  else if c = '\n' then ['\\', 'n']
  else if c = '\r' then ['\\', 'r']
  else if c = '\t' then ['\\', 't']
  else if c.toNat < 0x20 then ['\\', 'u', '0', '0', hexChar (c.toNat / 16), hexChar (c.toNat % 16)]
  else [c]

/-- A string between quotes. -/
def quoteChars (s : String) : List Char := '"' :: (s.toList.flatMap escapeChar ++ ['"'])

/-- A float as JSON text. -/
def floatChars (x : Float) : List Char :=
  if x.isFinite then (jsonFloat.text x).toList else "null".toList

/-! ## §2. Containers. -/

/-- How the items of a container are spaced. -/
inductive Spacing where
  /-- Everything in one line, without blanks. -/
  | compact
  /-- Each item in a line of its own, indented by four blanks per level. -/
  | indented
  deriving Repr, DecidableEq

namespace Spacing

/-- What stands before an item or a closing bracket at the given level. -/
def lineBreak : Spacing → Nat → List Char
  | .compact, _ => []
  | .indented, level => '\n' :: List.replicate (4 * level) ' '

/-- What stands between a key and its value. -/
def colon : Spacing → List Char
  | .compact => [':']
  | .indented => [':', ' ']

end Spacing

mutual

/-- The text of a value inside `level` containers. -/
def Json.chars (spacing : Spacing) (level : Nat) : Json → List Char
  | .null => "null".toList
  | .bool b => (if b then "true" else "false").toList
  | .int n => (toString n.toInt).toList
  | .float x => floatChars x
  | .str s => quoteChars s
  | .arr [] => ['[', ']']
  | .arr (v :: vs) =>
    '[' :: (spacing.lineBreak (level + 1) ++ v.chars spacing (level + 1)
      ++ itemChars spacing (level + 1) vs ++ spacing.lineBreak level ++ [']'])
  | .obj [] => ['\x7b', '\x7d']
  | .obj ((k, v) :: es) =>
    '\x7b' :: (spacing.lineBreak (level + 1) ++ quoteChars k ++ spacing.colon
      ++ v.chars spacing (level + 1) ++ entryChars spacing (level + 1) es
      ++ spacing.lineBreak level ++ ['\x7d'])

/-- The items of an array after the first. -/
def itemChars (spacing : Spacing) (level : Nat) : List Json → List Char
  | [] => []
  | v :: vs =>
    ',' :: (spacing.lineBreak level ++ v.chars spacing level ++ itemChars spacing level vs)

/-- The entries of an object after the first. -/
def entryChars (spacing : Spacing) (level : Nat) : List (String × Json) → List Char
  | [] => []
  | (k, v) :: es =>
    ',' :: (spacing.lineBreak level ++ quoteChars k ++ spacing.colon ++ v.chars spacing level
      ++ entryChars spacing level es)

end

/-- The JSON text of a value. -/
def Json.write (spacing : Spacing) (v : Json) : String := String.ofList (v.chars spacing 0)

/-- The JSON text of a value in one line. -/
def Json.compact (v : Json) : String := v.write .compact

/-- The JSON text of a value with one line per item. -/
def Json.pretty (v : Json) : String := v.write .indented

end JsonQuery
