import BotScript.Decimal.Style
import BotScript.Duration.Text
import BotScript.Value

/-! The text of a value, as it appears when a script prints it. -/

namespace BotScript

/-- Printed numbers are positional from `0.000001` up to below `1e21`, and an integer has no point.
Of two equally near decimals the one away from zero is printed. -/
def printedNumber : NumberStyle where
  tie := .awayFromZero
  leastPositional := -6
  mostPositional := 20
  pointZero := false
  plusSign := false
  nan := "NaN"
  infinity := "+Inf"
  negativeInfinity := "-Inf"

def boolText (b : Bool) : String := if b then "true" else "false"

namespace Value

/-- The text of a value that is no list, map or wrapper. -/
def scalarText : Value → String
  | bool b => boolText b
  | int n => toString n.toInt
  | float x => x.render printedNumber
  | text s => s
  | duration d => d.text
  | instant t => t.text
  | object o => o.text
  | _ => ""

end Value

namespace Key

/-- The text of a key is the text of the value. -/
def print (k : Key) : String := k.toValue.scalarText

end Key

namespace Value

mutual

/-- The text of a value.  Wrappers do not show, and nil is `<nil>`. -/
def print : Value → String
  | null => "<nil>"
  | ref none => "<nil>"
  | ref (some v) => v.print
  | list items => "[" ++ " ".intercalate (printAll items) ++ "]"
  | dict entries => "map[" ++ " ".intercalate (printEntries entries) ++ "]"
  | textDict entries => "map[" ++ " ".intercalate (printNamed entries) ++ "]"
  | bool b => scalarText (bool b)
  | int n => scalarText (int n)
  | float x => scalarText (float x)
  | text s => scalarText (text s)
  | duration d => scalarText (duration d)
  | instant t => scalarText (instant t)
  | object o => scalarText (object o)

def printAll : List Value → List String
  | [] => []
  | v :: vs => v.print :: printAll vs

def printEntries : List (Key × Value) → List String
  | [] => []
  | (k, v) :: entries => (k.print ++ ":" ++ v.print) :: printEntries entries

def printNamed : List (String × Value) → List String
  | [] => []
  | (k, v) :: entries => (k ++ ":" ++ v.print) :: printNamed entries

end

end Value

end BotScript
