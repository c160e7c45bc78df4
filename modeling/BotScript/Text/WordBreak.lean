import BotScript.Text.Property

/-! The classes by which a text is divided into words.  Code points of no class stand alone. -/

namespace BotScript

/-- A class of code points where a text is divided into words. -/
inductive WordBreak
  | carriageReturn
  | lineFeed
  | newline
  | extend
  | joiner
  | regionalIndicator
  | format
  | katakana
  | hebrewLetter
  | letter
  | singleQuote
  | doubleQuote
  | middleOfNumberOrLetters
  | middleOfLetters
  | middleOfNumber
  | numeric
  | connector
  | segmentSpace
  deriving DecidableEq

namespace WordBreak

/-- The classes by name. -/
def names : List (List String × WordBreak) :=
  [(["cr"], carriageReturn), (["lf"], lineFeed), (["nl", "newline"], newline),
   (["extend"], extend), (["zwj"], joiner), (["ri", "regionalindicator"], regionalIndicator),
   (["fo", "format"], format), (["ka", "katakana"], katakana),
   (["hl", "hebrewletter"], hebrewLetter), (["le", "aletter"], letter),
   (["sq", "singlequote"], singleQuote), (["dq", "doublequote"], doubleQuote),
   (["mb", "midnumlet"], middleOfNumberOrLetters), (["ml", "midletter"], middleOfLetters),
   (["mn", "midnum"], middleOfNumber), (["nu", "numeric"], numeric),
   (["ex", "extendnumlet"], connector), (["wsegspace"], segmentSpace)]

/-- The code points of some scripts, which are given by their short names. -/
def written (codes : List String) : CodeSet :=
  CodeSet.unionAll
    ((scripts.filter fun s => codes.any s.names.contains).map fun s => CodeSet.ofText s.ranges)

/-- The code points that extend a word or the character before them. -/
def extending : CodeSet :=
  CodeSet.unionAll
    [Letter.graphemeExtend, Category.set .spacingMark, CodeSet.ofText "1F3FB-1F3FF"]

/-- The code points of Japanese words in katakana. -/
def katakanaLetters : CodeSet :=
  (written ["kana"]).union (CodeSet.ofText "3031-3035 309B-309C 30A0 30FC FF70")

def hebrewLetters : CodeSet :=
  (written ["hebr"]).inter (Category.set .otherLetter)

/-- The numbers that a text is not divided at: digits, the separator of decimals and the signs that
are written before Arabic numbers. -/
def numbers : CodeSet :=
  (Category.set .decimalNumber).union
    (CodeSet.ofText "600-605 66B 6DD 890-891 8E2 19DA 110BD 110CD")

/-- The letters that are no letters of words: ideographs, letters of other classes, and those of the
scripts that are written without spaces. -/
def otherLetters : CodeSet :=
  CodeSet.unionAll
    [CodeSet.unionAll ((Property.tables.filter fun t => t.names.contains "ideographic").map fun t =>
        CodeSet.ofText t.ranges),
      katakanaLetters, extending, hebrewLetters,
      written ["hira", "ahom", "khmr", "lana", "laoo", "mymr", "tale", "talu", "tavt", "thai"]]

/-- The letters of words that are found by their letters alone, with some signs that count as
letters. -/
def letters : CodeSet :=
  (Letter.alphabetic.diff otherLetters).union
    (CodeSet.ofText
      "B8 2C2-2C5 2D2-2D7 2DE-2DF 2E5-2EB 2ED 2EF-2FF 55A-55C 55E 58A 5F3 70F A708-A716
      A720-A721 A789-A78A AB5B")

/-- The code points of a class. -/
def set : WordBreak → CodeSet
  | carriageReturn => CodeSet.singleton '\r'
  | lineFeed => CodeSet.singleton '\n'
  | newline => CodeSet.ofText "B-C 85 2028-2029"
  | extend => extending
  | joiner => CodeSet.singleton '\u200d'
  | regionalIndicator => CodeSet.ofText "1F1E6-1F1FF"
  | format => CodeSet.ofText
    "AD 61C 180E 200E-200F 202A-202E 2060-2064 2066-206F FEFF FFF9-FFFB 13430-1343F 1BCA0-1BCA3
    1D173-1D17A E0001"
  | katakana => katakanaLetters
  | hebrewLetter => hebrewLetters
  | letter => letters
  | singleQuote => CodeSet.singleton '\''
  | doubleQuote => CodeSet.singleton '"'
  | middleOfNumberOrLetters => CodeSet.ofText "2E 2018-2019 2024 FE52 FF07 FF0E"
  | middleOfLetters => CodeSet.ofText "3A B7 387 55F 5F4 2027 FE13 FE55 FF1A"
  | middleOfNumber => CodeSet.ofText "2C 3B 37E 589 60C-60D 66C 7F8 2044 FE50 FE54 FF0C FF1B"
  | numeric => numbers
  | connector => (Category.set .connectorPunctuation).union (CodeSet.ofText "202F")
  | segmentSpace => CodeSet.ofText "20 1680 2000-2006 2008-200A 205F 3000"

/-- The code points of the class with a name. -/
def find? (name : String) : Option CodeSet :=
  (names.find? fun entry => entry.1.contains name).map (·.2.set)

end WordBreak

end BotScript
