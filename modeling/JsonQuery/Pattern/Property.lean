/-
  JsonQuery.Pattern.Property
  ──────────────────────────
  Sets of characters by the names of their properties: properties that a character has
  or has not, and equations of a property and its value.  Every set has several names;
  how they are spelled hardly counts.
-/
import JsonQuery.Text.Break
import JsonQuery.Text.Table.Age

namespace JsonQuery.Pattern

open Text (CodeSet)

/-! ## §1. General categories. -/

/-- The sets that are named for a general category. -/
def categories : List (List String × CodeSet) :=
  [(["any"], .table [(0, Text.lastCode)]), (["assigned"], .assigned),
   (["ascii"], .table [(0x00, 0x7F)]),
   (["l", "letter"], .letter), (["lc", "casedletter"], .casedLetter),
   (["lu", "uppercaseletter"], .uppercaseLetter),
   (["ll", "lowercaseletter"], .lowercaseLetter),
   (["lt", "titlecaseletter"], .titlecaseLetter),
   (["lm", "modifierletter"], .table Text.modifierLetter),
   (["lo", "otherletter"], .table Text.otherLetter),
   (["m", "mark", "combiningmark"], .mark),
   (["mn", "nonspacingmark"], .table Text.nonspacingMark),
   (["mc", "spacingmark"], .table Text.spacingMark),
   (["me", "enclosingmark"], .table Text.enclosingMark),
   (["n", "number"], .number),
   (["nd", "decimalnumber", "digit"], .table Text.decimalDigit),
   (["nl", "letternumber"], .table Text.letterNumber),
   (["no", "othernumber"], .table Text.otherNumber),
   (["p", "punctuation", "punct"], .punctuation),
   (["pc", "connectorpunctuation"], .table Text.connectorPunctuation),
   (["pd", "dashpunctuation"], .table Text.dashPunctuation),
   (["ps", "openpunctuation"], .table Text.openPunctuation),
   (["pe", "closepunctuation"], .table Text.closePunctuation),
   (["pi", "initialpunctuation"], .table Text.initialPunctuation),
   (["pf", "finalpunctuation"], .table Text.finalPunctuation),
   (["po", "otherpunctuation"], .table Text.otherPunctuation),
   (["s", "symbol"], .symbol),
   (["sm", "mathsymbol"], .table Text.mathSymbol),
   (["sc", "currencysymbol"], .table Text.currencySymbol),
   (["sk", "modifiersymbol"], .table Text.modifierSymbol),
   (["so", "othersymbol"], .table Text.otherSymbol),
   (["z", "separator"], .separator),
   (["zs", "spaceseparator"], .table Text.spaceSeparator),
   (["zl", "lineseparator"], .table Text.lineSeparator),
   (["zp", "paragraphseparator"], .table Text.paragraphSeparator),
   (["c", "other"], .other),
   (["cc", "control", "cntrl"], .table Text.control),
   (["cf", "format"], .table Text.formatCharacter),
   (["co", "privateuse"], .table Text.privateUse),
   (["cn", "unassigned"], .unassigned)]

/-! ## §2. Other properties. -/

/-- The sets that are named for a property that a character has or has not. -/
def properties : List (List String × CodeSet) :=
  [(["asciihexdigit", "ahex"], .table Text.asciiHexDigit),
   (["alphabetic", "alpha"], .alphabetic),
   (["bidicontrol", "bidic"], .table Text.bidiControl),
   (["bidimirrored", "bidim"], .table Text.bidiMirrored),
   (["caseignorable", "ci"], .caseIgnorable),
   (["cased"], .cased),
   (["changeswhencasefolded", "cwcf"], .changesWhenCasefolded),
   (["changeswhencasemapped", "cwcm"], .changesWhenCasemapped),
   (["changeswhenlowercased", "cwl"], .changesWhenLowercased),
   (["changeswhentitlecased", "cwt"], .changesWhenTitlecased),
   (["changeswhenuppercased", "cwu"], .changesWhenUppercased),
   (["dash"], .table Text.dash),
   (["defaultignorablecodepoint", "di"], .defaultIgnorable),
   (["deprecated", "dep"], .table Text.deprecatedCharacter),
   (["diacritic", "dia"], .table Text.diacritic),
   (["emoji"], .table Text.emoji),
   (["emojicomponent", "ecomp"], .table Text.emojiComponent),
   (["emojimodifier", "emod"], .table Text.emojiModifier),
   (["emojimodifierbase", "ebase"], .table Text.emojiModifierBase),
   (["emojipresentation", "epres"], .table Text.emojiPresentation),
   (["extendedpictographic", "extpict"], .table Text.extendedPictographic),
   (["extender", "ext"], .table Text.extender),
   (["graphemebase", "grbase"], .graphemeBase),
   (["graphemeextend", "grext"], .graphemeExtend),
   (["graphemelink", "grlink"], .table Text.graphemeLink),
   (["hexdigit", "hex"], .table Text.hexDigit),
   (["hyphen"], .table Text.hyphen),
   (["idcompatmathcontinue"], .table Text.compatMathContinue),
   (["idcompatmathstart"], .table Text.compatMathStart),
   (["idcontinue", "idc"], .idContinue),
   (["idstart", "ids"], .idStart),
   (["ideographic", "ideo"], .table Text.ideographic),
   (["idsbinaryoperator", "idsb"], .table Text.idsBinaryOperator),
   (["idstrinaryoperator", "idst"], .table Text.idsTrinaryOperator),
   (["idsunaryoperator", "idsu"], .table Text.idsUnaryOperator),
   (["joincontrol", "joinc"], .table Text.joinControl),
   (["logicalorderexception", "loe"], .table Text.logicalOrderException),
   (["lowercase", "lower"], .lowercase),
   (["math"], .math),
   (["modifiercombiningmark", "mcm"], .table Text.modifierCombiningMark),
   (["noncharactercodepoint", "nchar"], .table Text.noncharacter),
   (["otheralphabetic", "oalpha"], .table Text.otherAlphabetic),
   (["otherdefaultignorablecodepoint", "odi"], .table Text.otherIgnorable),
   (["othergraphemeextend", "ogrext"], .table Text.otherGraphemeExtend),
   (["otheridcontinue", "oidc"], .table Text.otherIdContinue),
   (["otheridstart", "oids"], .table Text.otherIdStart),
   (["otherlowercase", "olower"], .table Text.otherLowercase),
   (["othermath", "omath"], .table Text.otherMath),
   (["otheruppercase", "oupper"], .table Text.otherUppercase),
   (["patternsyntax", "patsyn"], .table Text.patternSyntax),
   (["patternwhitespace", "patws"], .table Text.patternWhiteSpace),
   (["prependedconcatenationmark", "pcm"], .table Text.prependedConcatenationMark),
   (["quotationmark", "qmark"], .table Text.quotationMark),
   (["radical"], .table Text.radical),
   (["regionalindicator", "ri"], .table Text.regionalIndicator),
   (["sentenceterminal", "sterm"], .table Text.sentenceTerminal),
   (["softdotted", "sd"], .table Text.softDotted),
   (["terminalpunctuation", "term"], .table Text.terminalPunctuation),
   (["unifiedideograph", "uideo"], .table Text.unifiedIdeograph),
   (["uppercase", "upper"], .uppercase),
   (["variationselector", "vs"], .table Text.variationSelector),
   (["whitespace", "wspace", "space"], .table Text.whiteSpace),
   (["xidcontinue", "xidc"], .xidContinue),
   (["xidstart", "xids"], .xidStart)]

/-- The characters of an edition of the standard and of all editions before it. -/
def editionSet? (name : String) : Option CodeSet :=
  let isNamed (e : Text.Edition) : Bool :=
    name == e.number || name == "v" ++ String.ofList (e.number.toList.filter (· != '.'))
  let before := Text.editions.takeWhile fun e => !isNamed e
  (Text.editions.find? isNamed).map fun e =>
    before.foldl (fun set e => set ∪ .table e.added) (.table e.added)

/-! ## §3. Names. -/

/-- The set with a name. -/
def named? (sets : List (List String × CodeSet)) (name : String) : Option CodeSet :=
  (sets.find? fun s => s.1.contains name).map Prod.snd

/-- A name in the form in which sets are looked up: capitals count as small letters, and a leading
`is`, blanks, dashes and low lines do not count. -/
def plainName (name : List Char) : String :=
  let isLed := (name.take 2).map Char.toLower == ['i', 's']
  let rest := ((if isLed then name.drop 2 else name).filter fun c =>
    c.toNat < 0x80 && c != ' ' && c != '_' && c != '-').map Char.toLower
  if isLed && rest == ['c'] then "isc" else String.ofList rest

/-- The set of the characters for which a property has a value. -/
def valueSet? (property value : String) : Option CodeSet :=
  match property with
  | "gc" | "generalcategory" => named? categories value
  | "sc" | "script" => (Text.script? value).map fun s => .table s.characters
  | "scx" | "scriptextensions" => (Text.script? value).map Text.Script.users
  | "age" => editionSet? value
  | "gcb" | "graphemeclusterbreak" => named? CodeSet.graphemeBreaks value
  | "wb" | "wordbreak" => named? CodeSet.wordBreaks value
  | "sb" | "sentencebreak" => named? CodeSet.sentenceBreaks value
  | _ => none

/-- The text before and behind the first place where a sign stands. -/
def splitAtSign (sign : List Char) : List Char → Option (List Char × List Char)
  | [] => none
  | c :: rest =>
    if sign.isPrefixOf (c :: rest) then some ([], (c :: rest).drop sign.length)
    else (splitAtSign sign rest).map fun (before, after) => (c :: before, after)

/-- What a description of characters by a property says. -/
structure Description where
  /-- The property has another value. -/
  differs : Bool
  set : CodeSet

/-- Read a description: the name of a set, or an equation of a property and its value. -/
def Description.read? (text : List Char) : Option Description :=
  let equation (differs : Bool) (sides : List Char × List Char) : Option Description :=
    (valueSet? (plainName sides.1) (plainName sides.2)).map fun set => ⟨differs, set⟩
  match splitAtSign ['!', '='] text with
  | some sides => equation true sides
  | none =>
    match (splitAtSign [':'] text).or (splitAtSign ['='] text) with
    | some sides => equation false sides
    | none =>
      let name := plainName text
      ((named? properties name).or ((named? categories name).or
        ((Text.script? name).map fun s => .table s.characters))).map fun set => ⟨false, set⟩

end JsonQuery.Pattern
