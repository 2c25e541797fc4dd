/-
  JsonQuery.Text.Case
  ───────────────────
  Upper and lower case of a text.  A character may become several (`ß` becomes `SS`),
  and a capital sigma at the end of a word becomes the final small sigma.
-/
import JsonQuery.Text.Ranges
import JsonQuery.Text.Table.Cased
import JsonQuery.Text.Table.CaseMapping

namespace JsonQuery.Text

/-! ## §1. Single characters. -/

/-- The image of a code point under the runs of a table; a code point in no run is its own. -/
def mapCode (runs : List CaseRun) (code : Nat) : Nat :=
  match runs.find? fun r => r.first ≤ code && code ≤ r.last && (code - r.first) % r.stride == 0 with
  | some r => (code + r.offset).toNat
  | none => code

/-- The image of a character, which may be several characters. -/
def mapChar (expansions : List (Nat × List Nat)) (runs : List CaseRun) (c : Char) : List Char :=
  match expansions.lookup c.toNat with
  | some codes => codes.map Char.ofNat
  | none => [Char.ofNat (mapCode runs c.toNat)]

/-- The upper case of a character. -/
def upperChar (c : Char) : List Char := mapChar upperExpansions upperRuns c

/-- The lower case of a character by itself. -/
def lowerChar (c : Char) : List Char := mapChar lowerExpansions lowerRuns c

/-! ## §2. Texts. -/

/-- Whether the first character that is not ignorable for case is cased. -/
def casedAhead (text : List Char) : Bool :=
  match text.dropWhile caseIgnorable.contains with
  | [] => false
  | c :: _ => cased.contains c

/-- The lower case of a text, given the text before it in reverse. -/
def lowerAfter (before : List Char) : List Char → List Char
  | [] => []
  | c :: rest =>
    let image :=
      if c = 'Σ' then
        if casedAhead before && !casedAhead rest then ['ς'] else ['σ']
      else lowerChar c
    image ++ lowerAfter (c :: before) rest

/-- The upper case of a string. -/
def upper (s : String) : String := String.ofList (s.toList.flatMap upperChar)

/-- The lower case of a string. -/
def lower (s : String) : String := String.ofList (lowerAfter [] s.toList)

end JsonQuery.Text
