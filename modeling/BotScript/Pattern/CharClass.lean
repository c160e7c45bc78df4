import BotScript.Pattern.Expression
import BotScript.Text.Age
import BotScript.Text.GraphemeBreak
import BotScript.Text.ScriptExtension
import BotScript.Text.SentenceBreak

/-! Named classes of characters in patterns: the short classes such as `\d`, the ASCII classes in
brackets, and the categories, scripts, properties and boundary classes of `\p`. -/

namespace BotScript.Pattern

/-- The short classes. -/
inductive ShortClass
  | digit
  | space
  | word
  deriving DecidableEq

namespace ShortClass

/-- The class that a letter in lower case stands for. -/
def ofLetter? (c : Char) : Option ShortClass :=
  if c = 'd' then some digit else if c = 's' then some space else if c = 'w' then some word
  else none

def set (ascii : Bool) : ShortClass → CodeSet
  | digit => if ascii then CodeSet.ofText "30-39" else Category.set .decimalNumber
  | space =>
    if ascii then CodeSet.ofText "9-D 20"
    else CodeSet.ofText "9-D 20 85 A0 1680 2000-200A 2028-2029 202F 205F 3000"
  | word => if ascii then asciiWordChars else wordChars

end ShortClass

/-- The ASCII classes by name. -/
def asciiClasses : List (String × String) :=
  [("alnum", "30-39 41-5A 61-7A"), ("alpha", "41-5A 61-7A"), ("ascii", "0-7F"), ("blank", "9 20"),
   ("cntrl", "0-1F 7F"), ("digit", "30-39"), ("graph", "21-7E"), ("lower", "61-7A"),
   ("print", "20-7E"), ("punct", "21-2F 3A-40 5B-60 7B-7E"), ("space", "9-D 20"),
   ("upper", "41-5A"), ("word", "30-39 41-5A 5F 61-7A"), ("xdigit", "30-39 41-46 61-66")]

namespace UnicodeClass

/-- A name without case, blanks, underscores, hyphens and a leading `is`. -/
def plainName (name : String) : String :=
  let (isPrefixed, rest) := match name.toList with
    | a :: b :: rest => if (a = 'i' || a = 'I') && (b = 's' || b = 'S') then (true, rest)
      else (false, a :: b :: rest)
    | cs => (false, cs)
  let plain := (rest.filter fun c =>
    c != ' ' && c != '_' && c != '-' && decide (c.toNat < 128)).map Char.toLower
  String.ofList (if isPrefixed && plain == ['c'] then ['i', 's', 'c'] else plain)

/-- The categories and groups of categories by name. -/
def categories : List (List String × List Category) :=
  [(["lu", "uppercaseletter"], [.uppercaseLetter]), (["ll", "lowercaseletter"], [.lowercaseLetter]),
   (["lt", "titlecaseletter"], [.titlecaseLetter]), (["lm", "modifierletter"], [.modifierLetter]),
   (["lo", "otherletter"], [.otherLetter]), (["mn", "nonspacingmark"], [.nonspacingMark]),
   (["mc", "spacingmark"], [.spacingMark]), (["me", "enclosingmark"], [.enclosingMark]),
   (["nd", "decimalnumber", "digit"], [.decimalNumber]), (["nl", "letternumber"], [.letterNumber]),
   (["no", "othernumber"], [.otherNumber]),
   (["pc", "connectorpunctuation"], [.connectorPunctuation]),
   (["pd", "dashpunctuation"], [.dashPunctuation]),
   (["ps", "openpunctuation"], [.openPunctuation]),
   (["pe", "closepunctuation"], [.closePunctuation]),
   (["pi", "initialpunctuation"], [.initialPunctuation]),
   (["pf", "finalpunctuation"], [.finalPunctuation]),
   (["po", "otherpunctuation"], [.otherPunctuation]), (["sm", "mathsymbol"], [.mathSymbol]),
   (["sc", "currencysymbol"], [.currencySymbol]), (["sk", "modifiersymbol"], [.modifierSymbol]),
   (["so", "othersymbol"], [.otherSymbol]), (["zs", "spaceseparator"], [.spaceSeparator]),
   (["zl", "lineseparator"], [.lineSeparator]),
   (["zp", "paragraphseparator"], [.paragraphSeparator]), (["cc", "control", "cntrl"], [.control]),
   (["cf", "format"], [.format]), (["co", "privateuse"], [.privateUse]),
   (["cn", "unassigned"], [.unassigned]),
   (["lc", "casedletter"], [.uppercaseLetter, .lowercaseLetter, .titlecaseLetter]),
   (["l", "letter"], Category.letters), (["m", "mark", "combiningmark"], Category.marks),
   (["n", "number"], [.decimalNumber, .letterNumber, .otherNumber]),
   (["p", "punctuation", "punct"], [.connectorPunctuation, .dashPunctuation, .openPunctuation,
      .closePunctuation, .initialPunctuation, .finalPunctuation, .otherPunctuation]),
   (["s", "symbol"], [.mathSymbol, .currencySymbol, .modifierSymbol, .otherSymbol]),
   (["z", "separator"], [.spaceSeparator, .lineSeparator, .paragraphSeparator]),
   (["c", "other"], [.control, .format, .privateUse, .surrogate, .unassigned])]

/-- The set of a category, a group of categories, or all, assigned or ASCII code points. -/
def category? (name : String) : Option CodeSet :=
  if name = "any" then some (CodeSet.ofRange 0 CodeSet.top)
  else if name = "assigned" then some (Category.set .unassigned).complement
  else if name = "ascii" then some (CodeSet.ofRange 0 0x7F)
  else (categories.find? fun entry => entry.1.contains name).map fun entry =>
    Category.setOf entry.2

def script? (name : String) : Option CodeSet :=
  (scripts.find? fun s => s.names.contains name).map fun s => CodeSet.ofText s.ranges

/-- The set that a name on its own stands for.  A property goes before a category and a category
before a script, but three short names are those of categories. -/
def named? (name : String) : Option CodeSet :=
  let plain := plainName name
  let property := if plain = "cf" || plain = "sc" || plain = "lc" then none
    else Property.find? plain
  property.or ((category? plain).or (script? plain))

/-- The set that the value of a property stands for. -/
def valued? (property value : String) : Option CodeSet :=
  let property := plainName property
  let value := plainName value
  match property with
  | "gc" | "generalcategory" => category? value
  | "sc" | "script" => script? value
  | "scx" | "scriptextensions" => ScriptExtension.find? value
  | "age" => Age.assignedBy? value
  | "gcb" | "graphemeclusterbreak" => GraphemeBreak.find? value
  | "wb" | "wordbreak" => WordBreak.find? value
  | "sb" | "sentencebreak" => SentenceBreak.find? value
  | _ => none

end UnicodeClass

end BotScript.Pattern
