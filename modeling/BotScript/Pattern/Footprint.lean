import BotScript.Pattern.Expression
import BotScript.Pattern.Tally

/-! How much memory a pattern takes.  It becomes two automata on bytes, one that reads forward and
saves the places of groups, and one that reads backward; a pattern that makes one of them too large
is refused. -/

namespace BotScript.Pattern

namespace Expression

/-- The texts of a choice among nothing else. -/
def texts? : Expression → Option (List (List Char))
  | text chars => some [chars]
  | choice a b => do return (← a.texts?) ++ (← b.texts?)
  | _ => none

/-- Joins an alternative to those before it, of which there are `before`.  The second one brings the
states at which the alternatives part and meet. -/
def joinBranch (before : Nat) (t : Tally) : Option Tally :=
  if before = 0 then some t else if before = 1 then t.add 2 8 else t.add 0 4

/-- Adds the states of an expression that is an alternative after `before` others.  A repetition
has those of its expression as often as it is counted. -/
def grow (backward : Bool) : Expression → Nat → Tally → Option Tally
  | .empty, before, t => do joinBranch before (← t.add 1 0)
  | .text chars, before, t => do joinBranch before (← t.add (textBytes chars).length 0)
  | .one set, before, t => do joinBranch before (← t.addSet backward set)
  | .assertion _, before, t => do joinBranch before (← t.add 1 0)
  | .sequence a b, before, t => do
    let (first, second) := if backward then (b.grow backward 0, a.grow backward 0)
      else (a.grow backward 0, b.grow backward 0)
    joinBranch before (← second (← first t))
  | .choice a b, before, t =>
    match before, (choice a b).texts? with
    | 0, some texts => t.addTexts backward texts
    | _, _ => do b.grow backward (before + 1) (← joinBranch before (← a.grow backward 0 t))
  | .group _ e, before, t => do
    if backward then joinBranch before (← e.grow backward 0 t)
    else
      let t ← e.grow backward 0 (← t.add 1 0)
      joinBranch before (← t.add 1 0)
  | .repetition e least none _, before, t => do
    if least = 0 then
      if e.mayBeEmpty then
        let t ← e.grow backward 0 t
        joinBranch before (← t.add 3 16)
      else
        let t ← e.grow backward 0 (← t.add 1 0)
        joinBranch before (← t.add 0 8)
    else
      let t ← Tally.repeatedly (e.grow backward 0) least t
      joinBranch before (← t.add 1 8)
  | .repetition e least (some most) _, before, t => do
    if least = 0 ∧ most = 1 then
      let t ← e.grow backward 0 (← t.add 1 0)
      joinBranch before (← t.add 1 8)
    else
      let t ← if least = 0 then t.add 1 0 else Tally.repeatedly (e.grow backward 0) least t
      if least = most then joinBranch before t
      else
        let optional (t : Tally) : Option Tally := do
          let t ← e.grow backward 0 (← t.add 1 0)
          t.add 0 8
        joinBranch before (← Tally.repeatedly optional (most - least) (← t.add 1 0))

/-- Whether a condition has to hold where a match starts. -/
def startsWith (condition : Assertion) : Expression → Bool
  | .assertion a => a == condition
  | .sequence a b => a.startsWith condition || a.isOnlyEmpty && b.startsWith condition
  | .choice a b => a.startsWith condition && b.startsWith condition
  | .repetition e least _ _ => least != 0 && e.startsWith condition
  | .group _ e => e.startsWith condition
  | _ => false

/-- Whether a condition has to hold where a match stops. -/
def stopsWith (condition : Assertion) : Expression → Bool
  | .assertion a => a == condition
  | .sequence a b => b.stopsWith condition || b.isOnlyEmpty && a.stopsWith condition
  | .choice a b => a.stopsWith condition && b.stopsWith condition
  | .repetition e least _ _ => least != 0 && e.stopsWith condition
  | .group _ e => e.stopsWith condition
  | _ => false

/-- What stands in front of an expression: a loop over all bytes, or a single state if the
expression can match only where the automaton sets out. -/
def lead (anchored : Bool) : Option Tally :=
  if anchored then Tally.empty.add 1 0 else Tally.empty.add 3 16

/-- Whether both automata of an expression stay within their memory.  The whole match is a group
going forward, and an accepting state ends either automaton. -/
def fits (e : Expression) : Bool :=
  let forward : Option Tally := do
    let t ← e.grow false 0 (← (← lead (e.startsWith .textStart)).add 1 0)
    t.add 2 0
  let backward : Option Tally := do
    let t ← e.grow true 0 (← lead (e.stopsWith .textEnd))
    t.add 1 0
  forward.isSome && backward.isSome

end Expression

end BotScript.Pattern
