import BotScript.Pattern.Program

/-! Searching a text for a match of a program.  All ways to match are followed side by side, one
character at a time, in the order of preference; a way that reaches an instruction which a preferred
one has reached at the same place is given up.  The match that starts first is found, and of those
that start there the preferred one. -/

namespace BotScript.Pattern

/-- A match: where it starts and stops, and the places that its groups saved. -/
structure Found where
  start : Nat
  stop : Nat
  slots : Array (Option Nat)

/-- A way to match on its way: the instruction it is at, where it started, and what it saved. -/
structure Thread where
  instruction : Nat
  start : Nat
  slots : Array (Option Nat)

/-- The threads at one place in the order of preference, backwards, and the instructions that have
been reached there. -/
structure Front where
  threads : List Thread
  reached : Array Bool

namespace Front

def empty (p : Program) : Front := ⟨[], Array.replicate p.code.size false⟩

end Front

/-- The text around a place. -/
structure Place where
  index : Nat
  before : Option Char
  after : Option Char

def Place.at (text : Array Char) (index : Nat) : Place :=
  ⟨index, if index = 0 then none else text[index - 1]?, text[index]?⟩

/-- Follows the threads of a stack through all instructions that take no character.  Each step takes
one thread off and puts at most two on, and it does the latter only at an instruction that had not
been reached, so `2 * size + 1` steps are enough for one thread. -/
def follow (p : Program) (place : Place) : Nat → List Thread → Front → Front
  | 0, _, front => front
  | _, [], front => front
  | fuel + 1, t :: stack, front =>
    if front.reached.getD t.instruction true then follow p place fuel stack front
    else
      let reached := front.reached.setIfInBounds t.instruction true
      match p.code[t.instruction]? with
      | none => follow p place fuel stack ⟨front.threads, reached⟩
      | some (.one _ _) => follow p place fuel stack ⟨t :: front.threads, reached⟩
      | some .accept => follow p place fuel stack ⟨t :: front.threads, reached⟩
      | some (.assertion a next) =>
        let stack := if a.holds place.before place.after then ⟨next, t.start, t.slots⟩ :: stack
          else stack
        follow p place fuel stack ⟨front.threads, reached⟩
      | some (.split preferred other) =>
        let stack := ⟨preferred, t.start, t.slots⟩ :: ⟨other, t.start, t.slots⟩ :: stack
        follow p place fuel stack ⟨front.threads, reached⟩
      | some (.save slot next) =>
        let stack := ⟨next, t.start, t.slots.setIfInBounds slot (some place.index)⟩ :: stack
        follow p place fuel stack ⟨front.threads, reached⟩

/-- Adds a thread and all that it leads to. -/
def enter (p : Program) (place : Place) (front : Front) (t : Thread) : Front :=
  follow p place (2 * p.code.size + 1) [t] front

/-- Takes the character `c` with each thread, up to the first that accepts, which ends those that
are less preferred.  Gives the threads at the next place and the match. -/
def advance (p : Program) (place next : Place) (c : Option Char) :
    List Thread → Front → Option Found × Front
  | [], front => (none, front)
  | t :: threads, front =>
    match p.code[t.instruction]?, c with
    | some .accept, _ => (some ⟨t.start, place.index, t.slots⟩, front)
    | some (.one set follower), some c =>
      if set.contains c then
        advance p place next (some c) threads (enter p next front ⟨follower, t.start, t.slots⟩)
      else advance p place next (some c) threads front
    | _, _ => advance p place next c threads front

/-- Goes on through the rest of the text from a place, with the threads at it and the match found
last.  As long as there is none, a thread that starts at the place is added, less preferred than
all others. -/
def searchFrom (p : Program) (text : Array Char) :
    Nat → Nat → Front → Option Found → Option Found
  | 0, _, _, found => found
  | fuel + 1, index, front, found =>
    let place := Place.at text index
    let front :=
      if found.isSome then front
      else enter p place front ⟨p.start, index, Array.replicate p.slots none⟩
    if front.threads.isEmpty then
      if found.isSome then found else searchFrom p text fuel (index + 1) (Front.empty p) none
    else
      let (better, nextFront) :=
        advance p place (Place.at text (index + 1)) text[index]? front.threads.reverse
          (Front.empty p)
      searchFrom p text fuel (index + 1) nextFront (better.or found)

/-- The first match that starts at `index` or later. -/
def Program.search (p : Program) (text : Array Char) (index : Nat) : Option Found :=
  searchFrom p text (text.size + 1 - index) index (Front.empty p) none

end BotScript.Pattern
