import BotScript.Value.Equality

/-! Whether a map may be handed to a nested template: no map in it lies deeper than a bound, and
none of them is a copy of the caller's data bag. -/

namespace BotScript.Safety

/-- The depth of maps that is accepted unless settings say otherwise. -/
def defaultMaxDepth : Nat := 1000

mutual

/-- Whether a value that lies in a map at `depth - 1` is allowed there.  Values that are no maps
always are. -/
def memberIsSafe (bag : TextDict) (maxDepth depth : Nat) : Value → Bool
  | .ref (some v) => memberIsSafe bag maxDepth depth v
  | .dict entries => decide (depth ≤ maxDepth) && entriesAreSafe bag maxDepth (depth + 1) entries
  | .textDict entries =>
    decide (depth ≤ maxDepth) && !Value.equalNamed entries bag &&
      namedAreSafe bag maxDepth (depth + 1) entries
  | _ => true

def entriesAreSafe (bag : TextDict) (maxDepth depth : Nat) : List (Key × Value) → Bool
  | [] => true
  | (_, v) :: entries =>
    memberIsSafe bag maxDepth depth v && entriesAreSafe bag maxDepth depth entries

def namedAreSafe (bag : TextDict) (maxDepth depth : Nat) : List (String × Value) → Bool
  | [] => true
  | (_, v) :: entries =>
    memberIsSafe bag maxDepth depth v && namedAreSafe bag maxDepth depth entries

end

/-- Whether a value at `depth` and the maps in it are allowed.  The value itself may be the data
bag. -/
def isSafe (bag : TextDict) (maxDepth depth : Nat) (v : Value) : Bool :=
  decide (depth ≤ maxDepth) &&
    match v.dereference with
    | some (.dict entries) => entriesAreSafe bag maxDepth (depth + 1) entries
    | some (.textDict entries) => namedAreSafe bag maxDepth (depth + 1) entries
    | _ => true

end BotScript.Safety
