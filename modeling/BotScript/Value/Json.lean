import BotScript.Json
import BotScript.Value.Text

/-! Values as JSON documents. -/

namespace BotScript

/-- Numbers in JSON are positional from `0.00001` up to below `1e16`, where integers end in `.0`; an
exponent carries its sign.  Numbers that are not finite are null. -/
def jsonNumber : NumberStyle where
  tie := .toEven
  leastPositional := -5
  mostPositional := 15
  pointZero := true
  plusSign := true
  nan := "null"
  infinity := "null"
  negativeInfinity := "null"

namespace Value

mutual

/-- A value as a JSON document.  Wrappers do not show.  Durations are numbers of nanoseconds within
64 bits, and keys of maps become the texts that they print as. -/
def toJson : Value → Json
  | null => .null
  | bool b => .bool b
  | int n => .number (toString n.toInt)
  | float x => .number (x.render jsonNumber)
  | text s => .text s
  | duration d => .number (toString d.clampedNanos)
  | instant t => .text t.dataText
  | list items => .array (itemsToJson items)
  | dict entries => .object (entriesToJson entries)
  | textDict entries => .object (namedToJson entries)
  | ref none => .null
  | ref (some v) => v.toJson
  | object o => .text o.text

def itemsToJson : List Value → List Json
  | [] => []
  | v :: vs => v.toJson :: itemsToJson vs

def entriesToJson : List (Key × Value) → List (String × Json)
  | [] => []
  | (k, v) :: entries => (k.print, v.toJson) :: entriesToJson entries

def namedToJson : List (String × Value) → List (String × Json)
  | [] => []
  | (k, v) :: entries => (k, v.toJson) :: namedToJson entries

end

end Value

end BotScript
