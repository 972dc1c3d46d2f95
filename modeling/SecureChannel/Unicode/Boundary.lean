import SecureChannel.Unicode.Property
import SecureChannel.Unicode.Script

/-! Classes of characters at the boundaries of graphemes, words and sentences. -/
namespace SecureChannel.Unicode.Boundary

private def point (c : Nat) : CharSet := .range c c

private def carriageReturn : CharSet := .single '\r'

private def lineFeed : CharSet := .single '\n'

private def zeroWidthJoiner : CharSet := point 0x200D

private def formats : CharSet :=
  GeneralCategory.set ["Cf"] \ (prependedConcatenationMark ∪ graphemeExtend ∪ zeroWidthJoiner)

private def script (code : String) : CharSet := select Script.table (· == code)

private def extenders : CharSet := graphemeExtend ∪ GeneralCategory.set ["Mc"]

/-! ### Graphemes -/

private def graphemeControl : CharSet :=
  (GeneralCategory.set ["Cc", "Zl", "Zp"] ∪ formats ∪
    (GeneralCategory.set ["Cn"] ∩ defaultIgnorableCodePoint)) \
    (carriageReturn ∪ lineFeed ∪ graphemeExtend)

private def graphemePrepend : CharSet :=
  prependedConcatenationMark ∪
    rangeRows "d4e 111c2,111c3 113d1 1193f 11941 11a3a 11a84,11a89 11d46 11f02"

private def spacingMark : CharSet :=
  (GeneralCategory.set ["Mc"] \ (graphemeExtend ∪ rangeRows (
      "102b,102c 1038 1062,1064 1067,106d 1083 1087,108c 108f 109a,109c 1a61 1a63,1a64 aa7b " ++
      "aa7d 11720,11721"))) ∪
    rangeRows "e33 eb3"

private def leadingJamo : CharSet := rangeRows "1100,115f a960,a97c"

private def vowelJamo : CharSet := rangeRows "1160,11a7 d7b0,d7c6 16d63 16d67,16d6a"

private def trailingJamo : CharSet := rangeRows "11a8,11ff d7cb,d7fb"

private def syllables : CharSet := .range 0xAC00 0xD7A3

/-- Syllables without a trailing part; each comes before 27 with one. -/
private def openSyllables : CharSet :=
  ⟨(List.range 399).map fun i => (0xAC00 + 28 * i, 0xAC00 + 28 * i)⟩

def graphemeClasses : List (List String × CharSet) :=
  [(["cr"], carriageReturn), (["lf"], lineFeed), (["cn", "control"], graphemeControl),
    (["ex", "extend"], graphemeExtend ∪ emojiModifier), (["zwj"], zeroWidthJoiner),
    (["ri", "regionalindicator"], regionalIndicator), (["pp", "prepend"], graphemePrepend),
    (["sm", "spacingmark"], spacingMark), (["l"], leadingJamo), (["v"], vowelJamo),
    (["t"], trailingJamo), (["lv"], openSyllables), (["lvt"], syllables \ openSyllables)]

/-! ### Words -/

private def hebrewLetter : CharSet := script "Hebr" ∩ GeneralCategory.set ["Lo"]

private def katakana : CharSet := script "Kana" ∪ rangeRows "3031,3035 309b,309c 30a0 30fc ff70"

/-- Letters of scripts that put blanks between words. -/
private def alphabeticLetter : CharSet :=
  (alphabetic \ (extenders ∪ ideographic ∪ script "Hira" ∪ katakana ∪ hebrewLetter ∪ rangeRows (
      "e01,e30 e32,e33 e40,e46 e81,e82 e84 e86,e8a e8c,ea3 ea5 ea7,eb0 eb2,eb3 ebd ec0,ec4 " ++
      "ec6 edc,edf 1000,102a 103f 1050,1055 105a,105d 1061 1065,1066 106e,1070 1075,1081 " ++
      "108e 1780,17b3 17d7 17dc 1950,196d 1970,1974 1980,19ab 19b0,19c9 1a20,1a54 1aa7 " ++
      "a9e0,a9e4 a9e6,a9ef a9fa,a9fe aa60,aa76 aa7a aa7e,aaaf aab1 aab5,aab6 aab9,aabd aac0 " ++
      "aac2 aadb,aadd 11700,1171a 11740,11746"))) ∪
    rangeRows ("2c2,2c5 2d2,2d7 2de,2df 2e5,2eb 2ed 2ef,2ff 55a,55c 55e 58a 5f3 70f a708,a716 " ++
      "a720,a721 a789,a78a ab5b")

private def wordNumeric : CharSet :=
  decimalNumber ∪ rangeRows "600,605 66b 6dd 890,891 8e2 19da 110bd 110cd"

def wordClasses : List (List String × CharSet) :=
  [(["cr"], carriageReturn), (["lf"], lineFeed), (["nl", "newline"], rangeRows "b,c 85 2028,2029"),
    (["ex", "extendnumlet"], GeneralCategory.set ["Pc"] ∪ point 0x202F),
    (["extend"], extenders ∪ emojiModifier), (["zwj"], zeroWidthJoiner),
    (["fo", "format"], formats \ point 0x200B), (["ka", "katakana"], katakana),
    (["hl", "hebrewletter"], hebrewLetter), (["le", "aletter"], alphabeticLetter),
    (["sq", "singlequote"], .single '\''), (["dq", "doublequote"], .single '"'),
    (["mb", "midnumlet"], midNumberOrLetter), (["ml", "midletter"], midLetter),
    (["mn", "midnum"], rangeRows "2c 3b 37e 589 60c,60d 66c 7f8 2044 fe50 fe54 ff0c ff1b"),
    (["nu", "numeric"], wordNumeric), (["ri", "regionalindicator"], regionalIndicator),
    (["wsegspace"], GeneralCategory.set ["Zs"] \ rangeRows "a0 2007 202f")]

/-! ### Sentences -/

private def lineSeparators : CharSet := rangeRows "85 2028,2029"

private def lower : CharSet := lowercase \ rangeRows "345 10d0,10fa 10fd,10ff"

private def upper : CharSet :=
  (uppercase ∪ GeneralCategory.set ["Lt"]) \ rangeRows "1c90,1cba 1cbd,1cbf"

/-- Ends a sentence, or an abbreviation. -/
private def ambiguousTerminal : CharSet := rangeRows "2e 2024 fe52 ff0e"

private def closing : CharSet :=
  GeneralCategory.set ["Ps", "Pe", "Pi", "Pf"] ∪
    rangeRows "22 27 275b,2760 2e00,2e01 2e06,2e08 2e0b 1f676,1f678"

private def continuing : CharSet := rangeRows <|
  "2c,2d 3a,3b 37e 55d 60c,60d 7f8 1802 1808 2013,2014 3001 fe10,fe11 fe13,fe14 fe31,fe32 " ++
  "fe50,fe51 fe54,fe55 fe58 fe63 ff0c,ff0d ff1a,ff1b ff64"

def sentenceClasses : List (List String × CharSet) :=
  [(["cr"], carriageReturn), (["lf"], lineFeed), (["ex", "extend"], extenders ∪ zeroWidthJoiner),
    (["se", "sep"], lineSeparators), (["fo", "format"], formats ∪ point 0x70F),
    (["sp"], whiteSpace \ (lineSeparators ∪ carriageReturn ∪ lineFeed)), (["lo", "lower"], lower),
    (["up", "upper"], upper),
    (["le", "oletter"], (alphabetic \ (extenders ∪ lower ∪ upper)) ∪ point 0x5F3),
    (["nu", "numeric"], wordNumeric ∪ point 0x66C), (["at", "aterm"], ambiguousTerminal),
    (["sc", "scontinue"], continuing), (["st", "sterm"], sentenceTerminal \ ambiguousTerminal),
    (["cl", "close"], closing)]

def named? (classes : List (List String × CharSet)) (name : String) : Option CharSet :=
  (classes.find? (·.1.contains name)).map (·.2)

end SecureChannel.Unicode.Boundary
