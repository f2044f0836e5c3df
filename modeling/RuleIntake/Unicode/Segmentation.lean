import RuleIntake.Unicode.Property
import RuleIntake.Unicode.Script

/-!
# Text segmentation classes

The classes by which graphemes, words and sentences are told apart, derived from categories,
scripts and binary properties with a few listed exceptions.
-/

namespace RuleIntake.Unicode.Segmentation

open Category Property

/-- The members of a script given by its short name. -/
def script (short : String) : CharSet :=
  match Script.named.find? (·.1.contains short) with
  | some entry => entry.2
  | none => .empty

def joiner : CharSet := .singleton 0x200D

def carriageReturn : CharSet := .singleton 0xD

def lineFeed : CharSet := .singleton 0xA

def extension : CharSet := (graphemeExtend.union emojiModifier).diff joiner

def wordExtension : CharSet := extension.union spacingMark

/-- Signs that span the digits after them and count as a part of the number. -/
def numberSign : CharSet := prependedConcatenationMark.diff (.singleton 0x70F)

def numeral : CharSet := .unions [decimalNumber, numberSign, .ofText "66B 19DA"]

/-! ## Graphemes -/

/-- Marks that stand before the grapheme they belong to. -/
def prepend : CharSet :=
  prependedConcatenationMark.union
    (.ofText "D4E 111C2-111C3 113D1 1193F 11941 11A3A 11A84-11A89 11D46 11F02")

def graphemeControl : CharSet :=
  (CharSet.unions [lineSeparator, paragraphSeparator, control, format,
    defaultIgnorableCodePoint.inter unassigned]).diff
    (.unions [graphemeExtend, prepend, joiner, carriageReturn, lineFeed])

/-- Spacing marks that stay with the character before them. -/
def graphemeSpacingMark : CharSet :=
  ((spacingMark.diff graphemeExtend).union (.ofText "E33 EB3")).diff
    (.ofText "102B-102C 1038 1062-1064 1067-106D 1083 1087-108C 108F 109A-109C 1A61 1A63-1A64
      AA7B AA7D 11720-11721")

def hangulLv : CharSet := .ofText "AC00-D788/1C"

/-- Grapheme classes under their loosely written names. -/
def graphemeClasses : List (List String × CharSet) := [
  (["cn", "control"], graphemeControl),
  (["cr"], carriageReturn),
  (["lf"], lineFeed),
  (["ex", "extend"], extension),
  (["pp", "prepend"], prepend),
  (["sm", "spacingmark"], graphemeSpacingMark),
  (["ri", "regionalindicator"], regionalIndicator),
  (["l"], .ofText "1100-115F A960-A97C"),
  (["v"], .ofText "1160-11A7 D7B0-D7C6 16D63 16D67-16D6A"),
  (["t"], .ofText "11A8-11FF D7CB-D7FB"),
  (["lv"], hangulLv),
  (["lvt"], (CharSet.interval 0xAC00 0xD7A3).diff hangulLv),
  (["zwj"], joiner)]

/-! ## Words -/

def katakana : CharSet :=
  (script "kana").union (.ofText "3031-3035 309B-309C 30A0 30FC FF70")

def hebrewLetter : CharSet := (script "hebr").inter otherLetter

/-- Letters of scripts that separate words. -/
def wordLetter : CharSet :=
  (alphabetic.diff (.unions [ideographic, katakana, script "hira", script "thai", script "laoo",
    script "khmr", script "mymr", script "tale", script "talu", script "lana", script "tavt",
    script "ahom", graphemeExtend, spacingMark, hebrewLetter])).union
    (.ofText "2C2-2C5 2D2-2D7 2DE-2DF 2E5-2EB 2ED 2EF-2FF 55A-55C 55E 58A 5F3 70F A708-A716
      A720-A721 A789-A78A AB5B")

/-- Word classes under their loosely written names. -/
def wordClasses : List (List String × CharSet) := [
  (["cr"], carriageReturn),
  (["lf"], lineFeed),
  (["nl", "newline"], .ofText "B-C 85 2028-2029"),
  (["dq", "doublequote"], .singleton 0x22),
  (["sq", "singlequote"], .singleton 0x27),
  (["extend"], wordExtension),
  (["fo", "format"], format.diff (.unions
    [graphemeExtend, joiner, prependedConcatenationMark, .singleton 0x200B])),
  (["ka", "katakana"], katakana),
  (["hl", "hebrewletter"], hebrewLetter),
  (["le", "aletter"], wordLetter),
  (["mb", "midnumlet"], .ofText "2E 2018-2019 2024 FE52 FF07 FF0E"),
  (["ml", "midletter"], .ofText "3A B7 387 55F 5F4 2027 FE13 FE55 FF1A"),
  (["mn", "midnum"], .ofText "2C 3B 37E 589 60C-60D 66C 7F8 2044 FE50 FE54 FF0C FF1B"),
  (["nu", "numeric"], numeral),
  (["ex", "extendnumlet"], connectorPunctuation.union (.singleton 0x202F)),
  (["ri", "regionalindicator"], regionalIndicator),
  (["wsegspace"], spaceSeparator.diff (.ofText "A0 2007 202F")),
  (["zwj"], joiner)]

/-! ## Sentences -/

def fullStop : CharSet := .ofText "2E 2024 FE52 FF0E"

def paragraphEnd : CharSet := .ofText "85 2028-2029"

def georgianCapital : CharSet := .ofText "1C90-1CBA 1CBD-1CBF"

def sentenceUpper : CharSet := (titlecaseLetter.union uppercase).diff georgianCapital

def sentenceLower : CharSet :=
  lowercase.diff (graphemeExtend.union (.ofText "10D0-10FA 10FD-10FF"))

def sentenceLetter : CharSet :=
  (alphabetic.diff (.unions [sentenceUpper, sentenceLower, graphemeExtend, spacingMark])).union
    (.singleton 0x5F3)

/-- Sentence classes under their loosely written names. -/
def sentenceClasses : List (List String × CharSet) := [
  (["at", "aterm"], fullStop),
  (["cl", "close"],
    (CharSet.unions [openPunctuation, closePunctuation, initialPunctuation, finalPunctuation,
      quotationMark, .ofText "275B-2760 2E00-2E01 2E06-2E08 2E0B 1F676-1F678"]).diff
      (.ofText "FF02 FF07")),
  (["cr"], carriageReturn),
  (["ex", "extend"], .unions [graphemeExtend, spacingMark, joiner]),
  (["fo", "format"], format.diff (.unions [graphemeExtend, joiner, numberSign])),
  (["le", "oletter"], sentenceLetter),
  (["lf"], lineFeed),
  (["lo", "lower"], sentenceLower),
  (["nu", "numeric"], numeral.union (.singleton 0x66C)),
  (["sc", "scontinue"],
    .ofText "2C-2D 3A-3B 37E 55D 60C-60D 7F8 1802 1808 2013-2014 3001 FE10-FE11 FE13-FE14
      FE31-FE32 FE50-FE51 FE54-FE55 FE58 FE63 FF0C-FF0D FF1A-FF1B FF64"),
  (["se", "sep"], paragraphEnd),
  (["sp"], whiteSpace.diff (.unions [paragraphEnd, lineFeed, carriageReturn])),
  (["st", "sterm"], sentenceTerminal.diff fullStop),
  (["up", "upper"], sentenceUpper)]

end RuleIntake.Unicode.Segmentation
