/-
  JsonQuery.Text.Break
  ────────────────────
  The classes of characters by which texts are cut into user-perceived characters, words
  and sentences.  Each of the three families of classes is a partition: what two of the
  rules would claim is taken out of one of them.
-/
import JsonQuery.Text.Derived
import JsonQuery.Text.Table.Emoji

namespace JsonQuery.Text.CodeSet

/-! ## §1. What the partitions share. -/

/-- Carriage return. -/
def carriageReturn : CodeSet := single 0x0D

/-- Line feed. -/
def lineFeed : CodeSet := single 0x0A

/-- The joiner of zero width. -/
def zeroWidthJoiner : CodeSet := single 0x200D

/-- The marks that stand before a number. -/
def numberSign : CodeSet := table prependedConcatenationMark \ single 0x70F

/-- The digits of numbers, their decimal point and the marks before them. -/
def digitOfNumber : CodeSet :=
  table Text.decimalDigit ∪ single 0x66B ∪ single 0x19DA ∪ numberSign

/-! ## §2. User-perceived characters. -/

/-- `Grapheme_Cluster_Break=Prepend`. -/
def graphemePrepend : CodeSet :=
  table prependedConcatenationMark
    ∪ table [(0xD4E, 0xD4E), (0x111C2, 0x111C3), (0x113D1, 0x113D1), (0x1193F, 0x1193F),
      (0x11941, 0x11941), (0x11A3A, 0x11A3A), (0x11A84, 0x11A89), (0x11D46, 0x11D46),
      (0x11F02, 0x11F02)]

/-- `Grapheme_Cluster_Break=Extend`. -/
def graphemeExtender : CodeSet := graphemeExtend ∪ table emojiModifier

/-- `Grapheme_Cluster_Break=Control`. -/
def graphemeControl : CodeSet :=
  (breakSeparator ∪ table Text.control ∪ table Text.formatCharacter
      ∪ (defaultIgnorable ∩ unassigned))
    \ (carriageReturn ∪ lineFeed ∪ zeroWidthJoiner ∪ graphemePrepend ∪ graphemeExtender)

/-- `Grapheme_Cluster_Break=SpacingMark`. -/
def graphemeSpacingMark : CodeSet :=
  (table Text.spacingMark ∪ table [(0xE33, 0xE33), (0xEB3, 0xEB3)])
    \ (graphemeExtender
      ∪ table [(0x102B, 0x102C), (0x1038, 0x1038), (0x1062, 0x1064), (0x1067, 0x106D),
        (0x1083, 0x1083), (0x1087, 0x108C), (0x108F, 0x108F), (0x109A, 0x109C),
        (0x1A61, 0x1A61), (0x1A63, 0x1A64), (0xAA7B, 0xAA7B), (0xAA7D, 0xAA7D),
        (0x11720, 0x11721)])

/-- The Hangul syllables. -/
def hangulSyllable : CodeSet := table [(0xAC00, 0xD7A3)]

/-- The Hangul syllables without a final consonant: every 28th. -/
def openSyllable : CodeSet :=
  table ((List.range 399).map fun k => (0xAC00 + 28 * k, 0xAC00 + 28 * k))

/-- The classes of characters by which texts are cut into user-perceived characters. -/
def graphemeBreaks : List (List String × CodeSet) :=
  [(["cr"], carriageReturn), (["lf"], lineFeed), (["zwj"], zeroWidthJoiner),
   (["control", "cn"], graphemeControl), (["extend", "ex"], graphemeExtender),
   (["prepend", "pp"], graphemePrepend), (["spacingmark", "sm"], graphemeSpacingMark),
   (["regionalindicator", "ri"], table regionalIndicator),
   (["l"], table [(0x1100, 0x115F), (0xA960, 0xA97C)]),
   (["v"], table [(0x1160, 0x11A7), (0xD7B0, 0xD7C6), (0x16D63, 0x16D63), (0x16D67, 0x16D6A)]),
   (["t"], table [(0x11A8, 0x11FF), (0xD7CB, 0xD7FB)]),
   (["lv"], openSyllable), (["lvt"], hangulSyllable \ openSyllable)]

/-! ## §3. Words. -/

/-- `Word_Break=Extend`. -/
def wordExtend : CodeSet := graphemeExtender ∪ table Text.spacingMark

/-- `Word_Break=Format`. -/
def wordFormat : CodeSet :=
  table Text.formatCharacter
    \ (graphemeExtend ∪ table [(0x200B, 0x200D)] ∪ table prependedConcatenationMark)

/-- `Word_Break=Katakana`. -/
def wordKatakana : CodeSet :=
  (script "kana" ∪ table [(0x3031, 0x3035), (0x309B, 0x309C), (0x30A0, 0x30A0), (0x30FC, 0x30FC),
    (0xFF70, 0xFF70)]) \ wordExtend

/-- `Word_Break=Hebrew_Letter`. -/
def wordHebrewLetter : CodeSet := script "hebr" ∩ table Text.otherLetter

/-- `Word_Break=ALetter`. -/
def wordLetter : CodeSet :=
  (alphabetic
      ∪ table [(0x2C2, 0x2C5), (0x2D2, 0x2D7), (0x2DE, 0x2DF), (0x2E5, 0x2EB), (0x2ED, 0x2ED),
        (0x2EF, 0x2FF), (0x55A, 0x55C), (0x55E, 0x55E), (0x58A, 0x58A), (0x5F3, 0x5F3),
        (0x70F, 0x70F), (0xA708, 0xA716), (0xA720, 0xA721), (0xA789, 0xA78A), (0xAB5B, 0xAB5B)])
    \ (wordExtend ∪ wordKatakana ∪ wordHebrewLetter ∪ script "hira" ∪ table ideographic
      ∪ table complexContext)

/-- `Word_Break=MidNumLet`. -/
def wordMidNumLet : CodeSet :=
  table [(0x2E, 0x2E), (0x2018, 0x2019), (0x2024, 0x2024), (0xFE52, 0xFE52), (0xFF07, 0xFF07),
    (0xFF0E, 0xFF0E)]

/-- `Word_Break=MidNum`. -/
def wordMidNum : CodeSet :=
  table [(0x2C, 0x2C), (0x3B, 0x3B), (0x37E, 0x37E), (0x589, 0x589), (0x60C, 0x60D),
    (0x66C, 0x66C), (0x7F8, 0x7F8), (0x2044, 0x2044), (0xFE10, 0xFE10), (0xFE14, 0xFE14),
    (0xFE50, 0xFE50), (0xFE54, 0xFE54), (0xFF0C, 0xFF0C), (0xFF1B, 0xFF1B)]

/-- The classes of characters by which texts are cut into words. -/
def wordBreaks : List (List String × CodeSet) :=
  [(["cr"], carriageReturn), (["lf"], lineFeed), (["zwj"], zeroWidthJoiner),
   (["newline", "nl"], table [(0x0B, 0x0C), (0x85, 0x85), (0x2028, 0x2029)]),
   (["extend"], wordExtend), (["regionalindicator", "ri"], table regionalIndicator),
   (["numeric", "nu"], digitOfNumber), (["format", "fo"], wordFormat),
   (["katakana", "ka"], wordKatakana), (["hebrewletter", "hl"], wordHebrewLetter),
   (["singlequote", "sq"], single 0x27), (["doublequote", "dq"], single 0x22),
   (["midnumlet", "mb"], wordMidNumLet),
   (["midletter", "ml"], midWord \ (wordMidNumLet ∪ single 0x27)),
   (["midnum", "mn"], wordMidNum),
   (["extendnumlet", "ex"], table Text.connectorPunctuation ∪ single 0x202F),
   (["wsegspace"], table Text.spaceSeparator
     \ table [(0xA0, 0xA0), (0x2007, 0x2007), (0x202F, 0x202F)]),
   (["aletter", "le"], wordLetter)]

/-! ## §4. Sentences. -/

/-- `Sentence_Break=Sep`. -/
def sentenceSeparator : CodeSet := table [(0x85, 0x85), (0x2028, 0x2029)]

/-- `Sentence_Break=Extend`. -/
def sentenceExtend : CodeSet := graphemeExtend ∪ table Text.spacingMark ∪ zeroWidthJoiner

/-- `Sentence_Break=Lower`. -/
def sentenceLower : CodeSet :=
  lowercase \ (sentenceExtend ∪ table [(0x10D0, 0x10FA), (0x10FD, 0x10FF)])

/-- `Sentence_Break=Upper`. -/
def sentenceUpper : CodeSet :=
  (uppercase ∪ titlecaseLetter) \ table [(0x1C90, 0x1CBA), (0x1CBD, 0x1CBF)]

/-- `Sentence_Break=ATerm`. -/
def sentencePoint : CodeSet :=
  table [(0x2E, 0x2E), (0x2024, 0x2024), (0xFE52, 0xFE52), (0xFF0E, 0xFF0E)]

/-- `Sentence_Break=SContinue`. -/
def sentenceContinue : CodeSet :=
  table [(0x2C, 0x2D), (0x3A, 0x3B), (0x37E, 0x37E), (0x55D, 0x55D), (0x60C, 0x60D),
    (0x7F8, 0x7F8), (0x1802, 0x1802), (0x1808, 0x1808), (0x2013, 0x2014), (0x3001, 0x3001),
    (0xFE10, 0xFE11), (0xFE13, 0xFE14), (0xFE31, 0xFE32), (0xFE50, 0xFE51), (0xFE54, 0xFE55),
    (0xFE58, 0xFE58), (0xFE63, 0xFE63), (0xFF0C, 0xFF0D), (0xFF1A, 0xFF1B), (0xFF64, 0xFF64)]

/-- `Sentence_Break=Close`: brackets and quotation marks. -/
def sentenceClose : CodeSet :=
  bracket
    ∪ table [(0x22, 0x22), (0x27, 0x27), (0x275B, 0x2760), (0x2E00, 0x2E01), (0x2E06, 0x2E08),
      (0x2E0B, 0x2E0B), (0x1F676, 0x1F678)]

/-- The classes of characters by which texts are cut into sentences. -/
def sentenceBreaks : List (List String × CodeSet) :=
  [(["cr"], carriageReturn), (["lf"], lineFeed), (["sep", "se"], sentenceSeparator),
   (["extend", "ex"], sentenceExtend), (["numeric", "nu"], digitOfNumber ∪ single 0x66C),
   (["format", "fo"],
     table Text.formatCharacter \ (sentenceExtend ∪ numberSign)),
   (["sp"], table whiteSpace \ (sentenceSeparator ∪ carriageReturn ∪ lineFeed)),
   (["lower", "lo"], sentenceLower), (["upper", "up"], sentenceUpper),
   (["oletter", "le"],
     (alphabetic ∪ single 0x5F3) \ (sentenceLower ∪ sentenceUpper ∪ sentenceExtend)),
   (["aterm", "at"], sentencePoint),
   (["sterm", "st"], table sentenceTerminal \ sentencePoint),
   (["scontinue", "sc"], sentenceContinue), (["close", "cl"], sentenceClose)]

end JsonQuery.Text.CodeSet
