import SdkForge.Pattern.CharKind

/-!
# Where texts break

Characters fall into kinds by where a text breaks beside them: between what a reader takes for one
character, between words and between sentences. `graphemeBreak?`, `wordBreak?` and `sentenceBreak?`
give the characters of a kind by one of its names. Most kinds follow from the categories and
features of the characters; the others are listed here.
-/

namespace SdkForge.Pattern

namespace CodeSet

/-! ## What the kinds share -/

def carriageReturn : CodeSet := ofLines ["D"]
def lineFeed : CodeSet := ofLines ["A"]

/-- The separators that end a line or a paragraph. -/
def lineSeparators : CodeSet := ofLines ["85 2028-2029"]

/-- The joiner that makes one sign of two. -/
def widthJoiner : CodeSet := ofLines ["200D"]

/-- The mark for a shortened word, which stands in front of it. -/
def abbreviationMark : CodeSet := ofLines ["70F"]

/-- The marks that stand in front of the number that they belong to. -/
def numberMarks : CodeSet := difference (feature "pcm") abbreviationMark

/-- Full stops, which end a sentence or a shortened word. -/
def fullStops : CodeSet := ofLines ["2E 2024 FE52 FF0E"]

/-- Signs that only tell how a text is set. -/
def layoutSigns : CodeSet := difference (ofCategories ["cf"]) (feature "pcm")

/-- The marks that belong to the character before them, with those that take up space. -/
def wordExtend : CodeSet := union graphemeExtend (ofCategories ["mc"])

/-- The digits, and the marks and separators that belong to numbers. -/
def numeric : CodeSet := unionAll [ofLines ["66B-66C"], numberMarks, ofCategories ["nd"]]

/-! ## Characters as readers take them -/

/-- The marks that belong to the character before them, and the colours of signs. -/
def clusterExtend : CodeSet := union graphemeExtend (feature "emod")

/-- What belongs to the character behind it. -/
def clusterPrepend : CodeSet :=
  union (ofLines ["D4E 111C2-111C3 113D1 1193F 11941 11A3A 11A84-11A89 11D46 11F02"])
    (feature "pcm")

/-- What stands alone. -/
def clusterControl : CodeSet :=
  difference (unionAll [intersection unassigned (feature "di"),
    ofCategories ["cc", "cf", "zl", "zp"]]) (unionAll [carriageReturn, lineFeed, feature "joinc",
    feature "pcm", clusterExtend])

/-- The marks that take up space. Some of them stand for themselves. -/
def clusterSpacing : CodeSet :=
  difference (union (ofLines ["E33 EB3"]) (ofCategories ["mc"]))
    (union (ofLines ["102B-102C 1038 1062-1064 1067-106D 1083 1087-108C 108F 109A-109C",
      "1A61 1A63-1A64 AA7B AA7D 11720-11721"]) clusterExtend)

/-- Of the Hangul syllables, which come in rows of 28, each first one, or the others. -/
def hangulRows (opening : Bool) : CodeSet :=
  (List.range 399).map fun row =>
    let first := 0xAC00 + 28 * row
    if opening then ⟨first, first⟩ else ⟨first + 1, first + 27⟩

/-! ## Words -/

/-- Kana, and the signs that are used among them. -/
def wordKana : CodeSet :=
  union (ofLines ["3031-3035 309B-309C 30A0 30FC FF70"]) ((script? "kana").getD [])

/-- The letters of Hebrew, some of which are followed by quotation marks. -/
def wordHebrew : CodeSet := intersection ((script? "hebr").getD []) (ofCategories ["lo"])

/-- The characters of scripts that put no blanks between words. -/
def unspaced : CodeSet := ofLines [
  "E01-E3A E40-E4E E81-E82 E84 E86-E8A E8C-EA3 EA5 EA7-EBD EC0-EC4 EC6 EC8-ECE EDC-EDF 1000-103F",
  "1050-108F 109A-109F 1780-17D3 17D7 17DC-17DD 1950-196D 1970-1974 1980-19AB 19B0-19C9 19DA",
  "19DE-19DF 1A20-1A5E 1A60-1A7C 1AA0-1AAD A9E0-A9EF A9FA-A9FE AA60-AAC2 AADB-AADF 11700-1171A",
  "1171D-1172B 1173A-1173B 1173F-11746"]

/-- The letters of scripts that put blanks between words, and what is used like them. -/
def wordLetters : CodeSet :=
  let signs :=
    ofLines ["2C2-2C5 2D2-2D7 2DE-2DF 2E5-2EB 2ED 2EF-2FF 55A-55C 55E 58A 5F3 A708-A716 A720-A721",
    "A789-A78A AB5B"]
  difference (unionAll [signs, abbreviationMark, alphabetic])
    (unionAll [unspaced, wordKana, wordHebrew, (script? "hira").getD [],
      feature "ideo", wordExtend])

/-! ## Sentences -/

/-- The letters that start no sentence. Those of Georgian do not differ by where they stand. -/
def sentenceLower : CodeSet :=
  difference lowercase (union (ofLines ["10D0-10FA 10FD-10FF"]) graphemeExtend)

/-- The letters that start a sentence. -/
def sentenceUpper : CodeSet :=
  difference (union uppercase (ofCategories ["lt"])) (ofLines ["1C90-1CBA 1CBD-1CBF"])

/-- The marks that belong to what is before them. -/
def sentenceExtend : CodeSet := union widthJoiner wordExtend

/-- The letters that have no case. -/
def sentenceLetters : CodeSet :=
  difference (union (ofLines ["5F3"]) alphabetic) (unionAll [sentenceLower, sentenceUpper,
    sentenceExtend])

/-- The signs that end a sentence, the full stops left out. -/
def sentenceEnds : CodeSet := difference (feature "sterm") fullStops

/-- Brackets and quotation marks. -/
def sentenceClose : CodeSet :=
  let quotes := ofLines ["22 27 275B-2760 2E00-2E01 2E06-2E08 2E0B 1F676-1F678"]
  difference (union quotes (ofCategories ["ps", "pe", "pi", "pf"])) (union fullStops sentenceEnds)

end CodeSet

open CodeSet

/-! ## The kinds by their names -/

/-- The characters of a kind that tells where characters as readers take them break. -/
def graphemeBreak? : String → Option CodeSet
  | "cn" | "control" => some clusterControl
  | "cr" => some carriageReturn
  | "ex" | "extend" => some clusterExtend
  | "l" => some (ofLines ["1100-115F A960-A97C"])
  | "lf" => some lineFeed
  | "lv" => some (hangulRows true)
  | "lvt" => some (hangulRows false)
  | "pp" | "prepend" => some clusterPrepend
  | "regionalindicator" | "ri" => some (feature "ri")
  | "sm" | "spacingmark" => some clusterSpacing
  | "t" => some (ofLines ["11A8-11FF D7CB-D7FB"])
  | "v" => some (ofLines ["1160-11A7 D7B0-D7C6 16D63 16D67-16D6A"])
  | "zwj" => some widthJoiner
  | _ => none

/-- The characters of a kind that tells where words break. -/
def wordBreak? : String → Option CodeSet
  | "aletter" | "le" => some wordLetters
  | "cr" => some carriageReturn
  | "doublequote" | "dq" => some (ofLines ["22"])
  | "ex" | "extendnumlet" => some (union (ofLines ["202F"]) (ofCategories ["pc"]))
  | "extend" => some (difference (union wordExtend (feature "emod")) widthJoiner)
  | "fo" | "format" =>
    some (difference layoutSigns (unionAll [ofLines ["200B"], feature "joinc", wordExtend]))
  | "hebrewletter" | "hl" => some wordHebrew
  | "ka" | "katakana" => some wordKana
  | "lf" => some lineFeed
  | "mb" | "midnumlet" => some (union (ofLines ["2018-2019 FF07"]) fullStops)
  | "midletter" | "ml" => some (ofLines ["3A B7 387 55F 5F4 2027 FE13 FE55 FF1A"])
  | "midnum" | "mn" =>
    some (ofLines ["2C 3B 37E 589 60C-60D 66C 7F8 2044 FE10 FE14 FE50 FE54 FF0C FF1B"])
  | "newline" | "nl" => some (union (ofLines ["B-C"]) lineSeparators)
  | "nu" | "numeric" => some (difference numeric (ofLines ["66C"]))
  | "regionalindicator" | "ri" => some (feature "ri")
  | "singlequote" | "sq" => some (ofLines ["27"])
  | "wsegspace" => some (difference (ofCategories ["zs"]) (ofLines ["A0 2007 202F"]))
  | "zwj" => some widthJoiner
  | _ => none

/-- The characters of a kind that tells where sentences break. -/
def sentenceBreak? : String → Option CodeSet
  | "at" | "aterm" => some fullStops
  | "cl" | "close" => some sentenceClose
  | "cr" => some carriageReturn
  | "ex" | "extend" => some sentenceExtend
  | "fo" | "format" =>
    some (difference (union abbreviationMark layoutSigns) (union (feature "joinc") sentenceExtend))
  | "le" | "oletter" => some sentenceLetters
  | "lf" => some lineFeed
  | "lo" | "lower" => some sentenceLower
  | "nu" | "numeric" => some numeric
  | "sc" | "scontinue" =>
    some (ofLines [
      "2C-2D 3A-3B 37E 55D 60C-60D 7F8 1802 1808 2013-2014 3001 FE10-FE11 FE13-FE14 FE31-FE32",
      "FE50-FE51 FE54-FE55 FE58 FE63 FF0C-FF0D FF1A-FF1B FF64"])
  | "se" | "sep" => some lineSeparators
  | "sp" =>
    some (difference (feature "wspace") (unionAll [carriageReturn, lineFeed, lineSeparators]))
  | "st" | "sterm" => some sentenceEnds
  | "up" | "upper" => some sentenceUpper
  | _ => none

end SdkForge.Pattern
