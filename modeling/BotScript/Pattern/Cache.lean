import BotScript.Fault
import BotScript.Pattern

/-! The patterns that one execution has compiled.  Only so many different ones are allowed, and one
that has been compiled can be used again for nothing. -/

namespace BotScript

/-- Compiled patterns by their sources, the latest first, and how many there may be. -/
structure PatternCache where
  capacity : Nat
  patterns : List (String × Pattern)

namespace PatternCache

def defaultCapacity : Nat := 20

def empty (capacity : Nat) : PatternCache := ⟨capacity, []⟩

def size (c : PatternCache) : Nat := c.patterns.length

/-- The pattern of a source, with the cache after it, where `compile` gives the patterns of sources
that are well-formed.  A full cache refuses a new source before looking at it. -/
def requestWith (compile : String → Option Pattern) (c : PatternCache) (source : String) :
    Except Fault (Pattern × PatternCache) :=
  match c.patterns.lookup source with
  | some p => .ok (p, c)
  | none =>
    if c.capacity ≤ c.size then .error (.exhausted .patterns)
    else match compile source with
      | some p => .ok (p, { c with patterns := (source, p) :: c.patterns })
      | none => .error .pattern

/-- The pattern of a source, with the cache after it. -/
def request : PatternCache → String → Except Fault (Pattern × PatternCache) :=
  requestWith Pattern.compile?

end PatternCache

end BotScript
