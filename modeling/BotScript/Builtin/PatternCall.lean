import BotScript.Builtin.Access
import BotScript.Pattern.Replacement

/-! Functions that apply patterns to texts.  The patterns come from those that the execution has
compiled. -/

namespace BotScript.Script

/-- Applies the pattern of the first argument to the text of the second. -/
def withPattern (function : String) (arguments : List Value) (f : Pattern → String → Value) :
    Script Value := do
  orMistake (requireArguments function arguments 2)
  let pattern ← compile (argument arguments 0).toText
  return f pattern (argument arguments 1).toText

/-- How many results a third argument asks for. -/
def countOf (arguments : List Value) : Option Int64 := (givenArgument? arguments 2).map (·.toInt)

def texts (ss : List String) : Value := .list (ss.map Value.text)

def findMatch (arguments : List Value) : Script Value :=
  withPattern "reFind" arguments fun pattern text => .text (pattern.find text)

def findMatches (arguments : List Value) : Script Value :=
  withPattern "reFindAll" arguments fun pattern text =>
    texts (pattern.findAll text (countOf arguments))

def findRows (arguments : List Value) : Script Value :=
  withPattern "reFindAllSubmatches" arguments fun pattern text =>
    .list ((pattern.findRows text (countOf arguments)).map texts)

def replaceMatches (arguments : List Value) : Script Value := do
  orMistake (requireArguments "reReplace" arguments 3)
  withPattern "reReplace" arguments fun pattern text =>
    .text (pattern.replace text (argument arguments 2).toText)

def splitAtMatches (arguments : List Value) : Script Value :=
  withPattern "reSplit" arguments fun pattern text =>
    texts (pattern.split text (countOf arguments))

end BotScript.Script
