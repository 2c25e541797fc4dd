/-
  JsonQuery.Text.Derived
  ──────────────────────
  The properties that the standard derives from general categories, from what it lists
  by hand, and from the mappings of case.
-/
import JsonQuery.Text.Category
import JsonQuery.Text.Table.Contributory
import JsonQuery.Text.Table.Property

namespace JsonQuery.Text.CodeSet

/-! ## §1. Letters and case. -/

/-- `Lowercase`. -/
def lowercase : CodeSet := lowercaseLetter ∪ table otherLowercase

/-- `Uppercase`. -/
def uppercase : CodeSet := uppercaseLetter ∪ table otherUppercase

/-- `Cased`. -/
def cased : CodeSet := lowercase ∪ uppercase ∪ titlecaseLetter

/-- `Alphabetic`. -/
def alphabetic : CodeSet :=
  cased ∪ table Text.modifierLetter ∪ table Text.otherLetter ∪ table Text.letterNumber
    ∪ table otherAlphabetic

/-- `Math`. -/
def math : CodeSet := table Text.mathSymbol ∪ table otherMath

/-- The punctuation that may stand inside a word: apostrophes, points and what is like them. -/
def midWord : CodeSet :=
  table [(0x27, 0x27), (0x2E, 0x2E), (0x3A, 0x3A), (0xB7, 0xB7), (0x387, 0x387), (0x55F, 0x55F),
    (0x5F4, 0x5F4), (0x2018, 0x2019), (0x2024, 0x2024), (0x2027, 0x2027), (0xFE13, 0xFE13),
    (0xFE52, 0xFE52), (0xFE55, 0xFE55), (0xFF07, 0xFF07), (0xFF0E, 0xFF0E), (0xFF1A, 0xFF1A)]

/-- `Case_Ignorable`. -/
def caseIgnorable : CodeSet :=
  table Text.nonspacingMark ∪ table Text.enclosingMark ∪ table Text.formatCharacter
    ∪ table Text.modifierLetter ∪ table Text.modifierSymbol ∪ midWord

/-- The characters of words: letters, marks, digits, connecting punctuation and join controls. -/
def word : CodeSet :=
  alphabetic ∪ mark ∪ table Text.decimalDigit ∪ table Text.connectorPunctuation
    ∪ table joinControl

/-! ## §2. Mappings of case. -/

/-- `Changes_When_Lowercased`. -/
def changesWhenLowercased : CodeSet := mapped lowerRuns lowerExpansions \ unassigned

/-- `Changes_When_Uppercased`: all that have a capital, two apart whose capitals are unassigned. -/
def changesWhenUppercased : CodeSet :=
  mapped upperRuns upperExpansions
    \ (unassigned ∪ table [(0xA7D3, 0xA7D3), (0xA7D5, 0xA7D5)])

/-- `Changes_When_Titlecased`: Georgian letters have capitals but do not begin a word with them, and
of the digraphs the pure capitals change. -/
def changesWhenTitlecased : CodeSet :=
  (changesWhenUppercased \ (titlecaseLetter ∪ table [(0x10D0, 0x10FA), (0x10FD, 0x10FF)]))
    ∪ table [(0x1C4, 0x1C4), (0x1C7, 0x1C7), (0x1CA, 0x1CA), (0x1F1, 0x1F1)]

/-- `Changes_When_Casefolded`: the capitals change, and so do small letters that are variants of
others; of the Cherokee letters it is the small ones. -/
def changesWhenCasefolded : CodeSet :=
  (changesWhenLowercased \ table [(0x13A0, 0x13F5)])
    ∪ table [(0xB5, 0xB5), (0xDF, 0xDF), (0x149, 0x149), (0x17F, 0x17F), (0x345, 0x345),
      (0x3C2, 0x3C2), (0x3D0, 0x3D1), (0x3D5, 0x3D6), (0x3F0, 0x3F1), (0x3F5, 0x3F5),
      (0x587, 0x587), (0x13F8, 0x13FD), (0x1C80, 0x1C88), (0x1E9A, 0x1E9B), (0x1F80, 0x1F87),
      (0x1F90, 0x1F97), (0x1FA0, 0x1FA7), (0x1FB2, 0x1FB4), (0x1FB7, 0x1FB7), (0x1FC2, 0x1FC4),
      (0x1FC7, 0x1FC7), (0x1FF2, 0x1FF4), (0x1FF7, 0x1FF7), (0xAB70, 0xABBF), (0xFB00, 0xFB06),
      (0xFB13, 0xFB17)]

/-- `Changes_When_Casemapped`. -/
def changesWhenCasemapped : CodeSet :=
  changesWhenLowercased ∪ changesWhenUppercased ∪ changesWhenTitlecased

/-! ## §3. What is seen of a character. -/

/-- `Grapheme_Extend`. -/
def graphemeExtend : CodeSet :=
  table Text.nonspacingMark ∪ table Text.enclosingMark ∪ table otherGraphemeExtend

/-- `Grapheme_Base`. -/
def graphemeBase : CodeSet := graphic \ graphemeExtend

/-- `Default_Ignorable_Code_Point`. -/
def defaultIgnorable : CodeSet :=
  (table otherIgnorable ∪ table Text.formatCharacter ∪ table variationSelector)
    \ (table whiteSpace ∪ table prependedConcatenationMark
      ∪ table [(0xFFF9, 0xFFFB), (0x13430, 0x1343F)])

/-! ## §4. Identifiers. -/

/-- The characters that are kept for the syntax of patterns. -/
def patternSign : CodeSet := table patternSyntax ∪ table patternWhiteSpace

/-- `ID_Start`. -/
def idStart : CodeSet :=
  (letter ∪ table Text.letterNumber ∪ table otherIdStart) \ patternSign

/-- `ID_Continue`. -/
def idContinue : CodeSet :=
  (idStart ∪ table Text.nonspacingMark ∪ table Text.spacingMark ∪ table Text.decimalDigit
    ∪ table Text.connectorPunctuation ∪ table otherIdContinue) \ patternSign

/-- The characters of identifiers that normalizing turns into something else. -/
def unstable : CodeSet :=
  table [(0x37A, 0x37A), (0x309B, 0x309C), (0xFC5E, 0xFC63), (0xFDFA, 0xFDFB), (0xFE70, 0xFE70),
    (0xFE72, 0xFE72), (0xFE74, 0xFE74), (0xFE76, 0xFE76), (0xFE78, 0xFE78), (0xFE7A, 0xFE7A),
    (0xFE7C, 0xFE7C), (0xFE7E, 0xFE7E)]

/-- `XID_Start`. -/
def xidStart : CodeSet :=
  idStart \ (unstable ∪ table [(0xE33, 0xE33), (0xEB3, 0xEB3), (0xFF9E, 0xFF9F)])

/-- `XID_Continue`. -/
def xidContinue : CodeSet := idContinue \ unstable

end JsonQuery.Text.CodeSet
