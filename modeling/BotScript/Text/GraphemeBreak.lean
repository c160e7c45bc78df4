import BotScript.Text.Property

/-! The classes by which a text is divided into the characters that a reader sees.  Code points of
no class stand alone. -/

namespace BotScript

/-- A class of code points where a text is divided into visible characters. -/
inductive GraphemeBreak
  | carriageReturn
  | lineFeed
  | control
  | extend
  | joiner
  | regionalIndicator
  | prepend
  | spacingMark
  | leadingConsonant
  | vowel
  | trailingConsonant
  | openSyllable
  | closedSyllable
  deriving DecidableEq

namespace GraphemeBreak

/-- The classes by name. -/
def names : List (List String × GraphemeBreak) :=
  [(["cr"], carriageReturn), (["lf"], lineFeed), (["cn", "control"], control),
   (["ex", "extend"], extend), (["zwj"], joiner), (["ri", "regionalindicator"], regionalIndicator),
   (["pp", "prepend"], prepend), (["sm", "spacingmark"], spacingMark), (["l"], leadingConsonant),
   (["v"], vowel), (["t"], trailingConsonant), (["lv"], openSyllable), (["lvt"], closedSyllable)]

/-- The code points before which no character ends: the marks for concatenation and the consonants
that are written above or before what follows. -/
def prepended : CodeSet := CodeSet.ofText
  "600-605 6DD 70F 890-891 8E2 D4E 110BD 110CD 111C2-111C3 113D1 1193F 11941 11A3A 11A84-11A89
  11D46 11F02"

/-- The marks with a place of their own that do not extend the character before them. -/
def detachedMarks : CodeSet := CodeSet.ofText
  "102B-102C 1038 1062-1064 1067-106D 1083 1087-108C 108F 109A-109C 1A61 1A63-1A64 AA7B AA7D
  11720-11721"

/-- The Korean syllables without a trailing consonant: one in 28. -/
def openSyllables : CodeSet :=
  CodeSet.ofRanges ((List.range 399).map fun i => (0xAC00 + 28 * i, 0xAC00 + 28 * i))

/-- The code points of a class. -/
def set : GraphemeBreak → CodeSet
  | carriageReturn => CodeSet.singleton '\r'
  | lineFeed => CodeSet.singleton '\n'
  | control => CodeSet.ofText
    "0-9 B-C E-1F 7F-9F AD 61C 180E 200B 200E-200F 2028-202E 2060-206F FEFF FFF0-FFFB 13430-1343F
    1BCA0-1BCA3 1D173-1D17A E0000-E001F E0080-E00FF E01F0-E0FFF"
  | extend => Letter.graphemeExtend.union (CodeSet.ofText "1F3FB-1F3FF")
  | joiner => CodeSet.singleton '\u200d'
  | regionalIndicator => CodeSet.ofText "1F1E6-1F1FF"
  | prepend => prepended
  | spacingMark =>
    (((Category.set .spacingMark).union (CodeSet.ofText "E33 EB3")).diff
      Letter.graphemeExtend).diff detachedMarks
  | leadingConsonant => CodeSet.ofText "1100-115F A960-A97C"
  | vowel => CodeSet.ofText "1160-11A7 D7B0-D7C6 16D63 16D67-16D6A"
  | trailingConsonant => CodeSet.ofText "11A8-11FF D7CB-D7FB"
  | openSyllable => openSyllables
  | closedSyllable => (CodeSet.ofRange 0xAC00 0xD7A3).diff openSyllables

/-- The code points of the class with a name. -/
def find? (name : String) : Option CodeSet :=
  (names.find? fun entry => entry.1.contains name).map (·.2.set)

end GraphemeBreak

end BotScript
