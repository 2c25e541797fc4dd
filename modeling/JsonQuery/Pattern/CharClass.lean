/-
  JsonQuery.Pattern.CharClass
  ───────────────────────────
  Sets of characters as patterns write them, in canonical ranges, and what they become
  when case does not count.
-/
import JsonQuery.Text.Case
import JsonQuery.Text.Derived
import JsonQuery.Text.Table.Folding

namespace JsonQuery.Pattern

/-- A set of characters. -/
abbrev CharClass := Text.Ranges

namespace CharClass

/-! ## §1. Case. -/

/-- A range moved by an offset. -/
def shift (offset : Int) (r : Nat × Nat) : Nat × Nat :=
  ((r.1 + offset).toNat, (r.2 + offset).toNat)

/-- The representatives of the members of a set that are not their own. -/
def representatives (runs : List Text.CaseRun) (c : CharClass) : CharClass :=
  .ofList (runs.flatMap fun r => (r.restrict c).map (shift r.offset))

/-- The characters whose representatives are in a set, those apart that are their own. -/
def represented (runs : List Text.CaseRun) (c : CharClass) : CharClass :=
  .ofList (runs.flatMap fun r => r.restrict (c.map (shift (-r.offset))))

/-- Every character that is one of the set when case does not count: `runs` maps the characters to
the representatives of their variants. -/
def caseless (runs : List Text.CaseRun) (c : CharClass) : CharClass :=
  let known := c.union (representatives runs c)
  known.union (represented runs known)

/-! ## §2. Sets with names. -/

/-- A single character. -/
def single (code : Nat) : CharClass := [(code, code)]

/-- Decimal digits. -/
def digit (unicode : Bool) : CharClass := if unicode then Text.decimalDigit else [(0x30, 0x39)]

/-- White space. -/
def space (unicode : Bool) : CharClass :=
  if unicode then Text.whiteSpace else [(0x09, 0x0D), (0x20, 0x20)]

/-- The characters of words. -/
def word (unicode : Bool) : CharClass :=
  if unicode then Text.CodeSet.word.ranges
  else [(0x30, 0x39), (0x41, 0x5A), (0x5F, 0x5F), (0x61, 0x7A)]

/-- The sets of ASCII characters that have a name inside brackets. -/
def ascii? : String → Option CharClass
  | "alnum" => some [(0x30, 0x39), (0x41, 0x5A), (0x61, 0x7A)]
  | "alpha" => some [(0x41, 0x5A), (0x61, 0x7A)]
  | "ascii" => some [(0x00, 0x7F)]
  | "blank" => some [(0x09, 0x09), (0x20, 0x20)]
  | "cntrl" => some [(0x00, 0x1F), (0x7F, 0x7F)]
  | "digit" => some [(0x30, 0x39)]
  | "graph" => some [(0x21, 0x7E)]
  | "lower" => some [(0x61, 0x7A)]
  | "print" => some [(0x20, 0x7E)]
  | "punct" => some [(0x21, 0x2F), (0x3A, 0x40), (0x5B, 0x60), (0x7B, 0x7E)]
  | "space" => some [(0x09, 0x0D), (0x20, 0x20)]
  | "upper" => some [(0x41, 0x5A)]
  | "word" => some (word false)
  | "xdigit" => some [(0x30, 0x39), (0x41, 0x46), (0x61, 0x66)]
  | _ => none

end CharClass

end JsonQuery.Pattern
