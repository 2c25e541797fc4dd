/-
  JsonQuery.Text.Category
  ───────────────────────
  The general categories and their groups, and the scripts.

  Every code point has one category; what is in none of the tables is unassigned.  Every
  character belongs to one script; some are used in others too, and of the characters
  that belong to no script in particular many are used in a few scripts only
  (`Script.users`).
-/
import JsonQuery.Text.CodeSet
import JsonQuery.Text.Table.Letter
import JsonQuery.Text.Table.Mark
import JsonQuery.Text.Table.Number
import JsonQuery.Text.Table.Punctuation
import JsonQuery.Text.Table.Script
import JsonQuery.Text.Table.Separator

namespace JsonQuery.Text.CodeSet

/-! ## §1. Letters, marks and numbers. -/

/-- The capital letters. -/
def uppercaseLetter : CodeSet := table Text.uppercaseLetter ∪ stripes Text.uppercaseStripe

/-- The small letters. -/
def lowercaseLetter : CodeSet := table Text.lowercaseLetter ∪ stripes Text.lowercaseStripe

/-- The letters that begin with a capital and go on small. -/
def titlecaseLetter : CodeSet := table Text.titlecaseLetter

/-- The letters with a case. -/
def casedLetter : CodeSet := uppercaseLetter ∪ lowercaseLetter ∪ titlecaseLetter

/-- The letters. -/
def letter : CodeSet := casedLetter ∪ table Text.modifierLetter ∪ table Text.otherLetter

/-- The marks. -/
def mark : CodeSet :=
  table Text.nonspacingMark ∪ table Text.spacingMark ∪ table Text.enclosingMark

/-- The numbers. -/
def number : CodeSet := table Text.decimalDigit ∪ table Text.letterNumber ∪ table Text.otherNumber

/-! ## §2. Punctuation, symbols and separators. -/

/-- The punctuation that opens or closes something. -/
def bracket : CodeSet :=
  table Text.openPunctuation ∪ table Text.closePunctuation ∪ table Text.initialPunctuation
    ∪ table Text.finalPunctuation

/-- The punctuation. -/
def punctuation : CodeSet :=
  bracket ∪ table Text.connectorPunctuation ∪ table Text.dashPunctuation
    ∪ table Text.otherPunctuation

/-- The symbols. -/
def symbol : CodeSet :=
  table Text.mathSymbol ∪ table Text.currencySymbol ∪ table Text.modifierSymbol
    ∪ table Text.otherSymbol

/-- The separators of lines and paragraphs. -/
def breakSeparator : CodeSet := table Text.lineSeparator ∪ table Text.paragraphSeparator

/-- The separators. -/
def separator : CodeSet := table Text.spaceSeparator ∪ breakSeparator

/-! ## §3. Everything else. -/

/-- Every character. -/
def everything : CodeSet := table [(0, 0xD7FF), (0xE000, lastCode)]

/-- The characters with a form of their own. -/
def graphic : CodeSet :=
  letter ∪ mark ∪ number ∪ punctuation ∪ symbol ∪ table Text.spaceSeparator

/-- The code points that have been given to a character. -/
def assigned : CodeSet :=
  graphic ∪ breakSeparator ∪ table Text.control ∪ table Text.formatCharacter
    ∪ table Text.privateUse

/-- The code points that have not been given to a character. -/
def unassigned : CodeSet := everything \ assigned

/-- The controls and whatever else is no letter, mark, number, punctuation, symbol or separator. -/
def other : CodeSet :=
  unassigned ∪ table Text.control ∪ table Text.formatCharacter ∪ table Text.surrogate
    ∪ table Text.privateUse

end JsonQuery.Text.CodeSet

namespace JsonQuery.Text

/-! ## §4. Scripts. -/

/-- The script with a name. -/
def script? (name : String) : Option Script := scripts.find? fun s => s.names.contains name

/-- The characters that belong to the script with a name. -/
def CodeSet.script (name : String) : CodeSet :=
  table (((script? name).map Script.characters).getD [])

/-- The characters whose scripts are not just the one they belong to. -/
def sharedCharacters : Ranges := .ofList (sharedRanges.map fun r => (r.first, r.last))

/-- The characters that several scripts share, this one among them. -/
def Script.shared (s : Script) : Ranges :=
  .ofList ((sharedRanges.filter fun r => r.scripts.any s.names.contains).map fun r =>
    (r.first, r.last))

/-- The characters that are used in a script. -/
def Script.users (s : Script) : CodeSet :=
  (.table s.characters \ .table sharedCharacters) ∪ .table s.shared

end JsonQuery.Text
