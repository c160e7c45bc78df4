import BotScript.Pattern.Expression

/-! Expressions compiled to programs.  A program is a list of numbered instructions; a split prefers
its first branch, which is how greed and the order of alternatives are expressed. -/

namespace BotScript.Pattern

/-- One instruction.  All but `accept` name the instruction that follows. -/
inductive Instruction
  | one (set : CodeSet) (next : Nat)
  | assertion (a : Assertion) (next : Nat)
  | split (preferred other : Nat)
  | save (slot next : Nat)
  | accept

/-- Code under construction. -/
abbrev Code := Array Instruction

namespace Code

/-- Adds an instruction and gives its number. -/
def emit (code : Code) (i : Instruction) : Nat × Code := (code.size, code.push i)

/-- A split that prefers the expression if it is greedy and what follows it if not. -/
def splitBy (greedy : Bool) (inside after : Nat) : Instruction :=
  if greedy then .split inside after else .split after inside

/-- Runs a code generator `n` times, each piece in front of the one before. -/
def iterate (compile : Nat → Code → Nat × Code) : Nat → Nat → Code → Nat × Code
  | 0, next, code => (next, code)
  | n + 1, next, code =>
    let (start, code) := compile next code
    iterate compile n start code

/-- One time or none. -/
def optional (compile : Nat → Code → Nat × Code) (greedy : Bool) (after next : Nat) (code : Code) :
    Nat × Code :=
  let (start, code) := compile next code
  code.emit (splitBy greedy start after)

/-- Code for any number of times from one on, that loops by the split at its end.  Gives the start
of the expression and the split. -/
def loop (compile : Nat → Code → Nat × Code) (greedy : Bool) (next : Nat) (code : Code) :
    (Nat × Nat) × Code :=
  let (again, code) := code.emit .accept
  let (start, code) := compile again code
  ((start, again), code.setIfInBounds again (splitBy greedy start next))

end Code

/-- Code for an expression in front of the instruction `next`, with the number of its first
instruction.  An expression that may match the empty text is repeated any number of times as one or
more times or none, which keeps the order of preference. -/
def Expression.compile : Expression → Nat → Code → Nat × Code
  | .empty, next, code => (next, code)
  | .text chars, next, code =>
    chars.foldr (fun c (next, code) => code.emit (.one (CodeSet.singleton c) next)) (next, code)
  | .one set, next, code => code.emit (.one set next)
  | .assertion a, next, code => code.emit (.assertion a next)
  | .sequence a b, next, code =>
    let (middle, code) := b.compile next code
    a.compile middle code
  | .choice a b, next, code =>
    let (second, code) := b.compile next code
    let (first, code) := a.compile next code
    code.emit (.split first second)
  | .group n e, next, code =>
    let (stop, code) := code.emit (.save (2 * n + 1) next)
    let (start, code) := e.compile stop code
    code.emit (.save (2 * n) start)
  | .repetition e least none greedy, next, code =>
    let ((start, again), code) := Code.loop e.compile greedy next code
    if least = 0 then
      if e.mayBeEmpty then code.emit (Code.splitBy greedy start next) else (again, code)
    else Code.iterate e.compile (least - 1) start code
  | .repetition e least (some most) greedy, next, code =>
    let (start, code) :=
      Code.iterate (Code.optional e.compile greedy next) (most - least) next code
    Code.iterate e.compile least start code

/-- A program with its first instruction and the number of its slots.  Slots `2 * n` and
`2 * n + 1` hold the start and the end of group `n`, and those of group 0 are not used. -/
structure Program where
  code : Code
  start : Nat
  slots : Nat

namespace Program

def ofExpression (e : Expression) : Program :=
  let (accept, code) := Code.emit #[] .accept
  let (start, code) := e.compile accept code
  ⟨code, start, 2 * (e.lastGroup + 1)⟩

end Program

end BotScript.Pattern
