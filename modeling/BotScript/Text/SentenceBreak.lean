import BotScript.Text.WordBreak

/-! The classes by which a text is divided into sentences.  Code points of no class say nothing
about where a sentence ends. -/

namespace BotScript

/-- A class of code points where a text is divided into sentences. -/
inductive SentenceBreak
  | carriageReturn
  | lineFeed
  | separator
  | extend
  | format
  | space
  | lower
  | upper
  | otherLetter
  | numeric
  | ambiguousTerminator
  | terminator
  | continuation
  | close
  deriving DecidableEq

namespace SentenceBreak

/-- The classes by name. -/
def names : List (List String × SentenceBreak) :=
  [(["cr"], carriageReturn), (["lf"], lineFeed), (["se", "sep"], separator),
   (["ex", "extend"], extend), (["fo", "format"], format), (["sp"], space),
   (["lo", "lower"], lower), (["up", "upper"], upper), (["le", "oletter"], otherLetter),
   (["nu", "numeric"], numeric), (["at", "aterm"], ambiguousTerminator),
   (["st", "sterm"], terminator), (["sc", "scontinue"], continuation), (["cl", "close"], close)]

/-- The capital letters that are used as the capitals of sentences, which those of Georgian are
not. -/
def capitals : CodeSet :=
  (Letter.uppercase.union (Category.set .titlecaseLetter)).diff
    (CodeSet.ofText "1C90-1CBA 1CBD-1CBF")

/-- The small letters of the scripts with capitals of sentences. -/
def smallLetters : CodeSet :=
  (Letter.lowercase.diff Letter.graphemeExtend).diff (CodeSet.ofText "10D0-10FA 10FD-10FF")

/-- The code points that extend what is before them. -/
def extending : CodeSet :=
  CodeSet.unionAll
    [Letter.graphemeExtend, Category.set .spacingMark, CodeSet.singleton '\u200d']

/-- The ends of sentences that are also used otherwise, as in abbreviations. -/
def points : CodeSet := CodeSet.ofText "2E 2024 FE52 FF0E"

/-- The code points of a class. -/
def set : SentenceBreak → CodeSet
  | carriageReturn => CodeSet.singleton '\r'
  | lineFeed => CodeSet.singleton '\n'
  | separator => CodeSet.ofText "85 2028-2029"
  | extend => extending
  | format => WordBreak.format.set.union (CodeSet.ofText "70F 200B")
  | space => CodeSet.ofText "9 B-C 20 A0 1680 2000-200A 202F 205F 3000"
  | lower => smallLetters
  | upper => capitals
  | otherLetter =>
    ((((Letter.alphabetic.diff smallLetters).diff capitals).diff extending)).union
      (CodeSet.ofText "5F3")
  | numeric => WordBreak.numbers.union (CodeSet.ofText "66C")
  | ambiguousTerminator => points
  | terminator => ((Property.find? "sentenceterminal").getD CodeSet.empty).diff points
  | continuation => CodeSet.ofText
    "2C-2D 3A-3B 37E 55D 60C-60D 7F8 1802 1808 2013-2014 3001 FE10-FE11 FE13-FE14 FE31-FE32
    FE50-FE51 FE54-FE55 FE58 FE63 FF0C-FF0D FF1A-FF1B FF64"
  | close =>
    (Category.setOf [.openPunctuation, .closePunctuation, .initialPunctuation,
      .finalPunctuation]).union
    (CodeSet.ofText "22 27 275B-2760 2E00-2E01 2E06-2E08 2E0B 1F676-1F678")

/-- The code points of the class with a name. -/
def find? (name : String) : Option CodeSet :=
  (names.find? fun entry => entry.1.contains name).map (·.2.set)

end SentenceBreak

end BotScript
