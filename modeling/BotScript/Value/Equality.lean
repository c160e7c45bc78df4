import BotScript.Value

/-! Deep equality of values: kinds must agree at every layer, numbers are compared as numbers, keys
by their bit patterns and objects by identity. -/

namespace BotScript.Value

mutual

/-- Whether two values are equal throughout. -/
def equals : Value → Value → Bool
  | null, null => true
  | bool a, bool b => a == b
  | int a, int b => a == b
  | float x, float y => x.equals y
  | text s, text t => s == t
  | duration a, duration b => decide (a = b)
  | instant a, instant b => decide (a = b)
  | list vs, list ws => equalItems vs ws
  | dict es, dict fs => equalEntries es fs
  | textDict es, textDict fs => equalNamed es fs
  | ref none, ref none => true
  | ref (some v), ref (some w) => v.equals w
  | object o, object p => o.identity == p.identity
  | _, _ => false

def equalItems : List Value → List Value → Bool
  | [], [] => true
  | v :: vs, w :: ws => v.equals w && equalItems vs ws
  | _, _ => false

def equalEntries : List (Key × Value) → List (Key × Value) → Bool
  | [], [] => true
  | (k, v) :: es, (l, w) :: fs => decide (k = l) && v.equals w && equalEntries es fs
  | _, _ => false

def equalNamed : List (String × Value) → List (String × Value) → Bool
  | [], [] => true
  | (k, v) :: es, (l, w) :: fs => k == l && v.equals w && equalNamed es fs
  | _, _ => false

end

instance : BEq Value := ⟨equals⟩

/-- Equality of values that may be missing. -/
def equalsOption : Option Value → Option Value → Bool
  | none, none => true
  | some v, some w => v.equals w
  | _, _ => false

end BotScript.Value
