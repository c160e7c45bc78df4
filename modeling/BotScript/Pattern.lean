import BotScript.Pattern.Footprint
import BotScript.Pattern.Reader
import BotScript.Pattern.Search

/-! Compiled patterns and what is done with them: finding matches from left to right, splitting a
text at them and replacing them. -/

namespace BotScript

/-- A pattern ready for searching.  Rows of its groups have `rowLength` entries, the first for the
whole match. -/
structure Pattern where
  program : Pattern.Program
  rowLength : Nat
  names : List (String × Nat)

namespace Pattern

/-- Compiles a pattern, unless it is malformed or takes too much memory.  Groups that are repeated
no times do not count. -/
def compile? (source : String) : Option Pattern := do
  let r ← read? source
  if !r.expression.fits then none
  return ⟨.ofExpression r.expression, r.expression.lastGroup + 1,
    r.names.filter fun n => r.expression.hasGroup n.2⟩

/-- The matches from `index` on.  An empty match where the match before stopped is passed over, and
the search goes on one character further. -/
def matchesFrom (p : Pattern) (text : Array Char) : Nat → Nat → Option Nat → List Found
  | 0, _, _ => []
  | fuel + 1, index, lastStop =>
    let first := p.program.search text index
    let found := match first with
      | some m =>
        if m.start = m.stop ∧ lastStop = some m.stop then p.program.search text (index + 1)
        else first
      | none => none
    match found with
    | none => []
    | some m => m :: matchesFrom p text fuel m.stop (some m.stop)

/-- All matches from left to right, without overlaps.  They stop at different places, so there are
at most one more than characters. -/
def allMatches (p : Pattern) (text : Array Char) : List Found :=
  p.matchesFrom text (text.size + 1) 0 none

/-- The characters from one place to another. -/
def slice (text : Array Char) (start stop : Nat) : String :=
  String.ofList (text.extract start stop).toList

/-- The text of a match. -/
def Found.text (m : Found) (text : Array Char) : String := slice text m.start m.stop

/-- The text of a group of a match, which is empty if the group took no part in it. -/
def Found.group (m : Found) (text : Array Char) (n : Nat) : String :=
  if n = 0 then m.text text
  else match m.slots.getD (2 * n) none, m.slots.getD (2 * n + 1) none with
    | some start, some stop => slice text start stop
    | _, _ => ""

/-- How many results are wanted of at most `most`.  A negative number asks for all. -/
def clampCount (count : Option Int64) (most : Nat) : Nat :=
  match count with
  | some n => if 0 ≤ n.toInt then min n.toInt.toNat most else most
  | none => most

/-- The most matches that are listed. -/
def maxMatches : Nat := 1000

/-- The most matches whose groups are listed. -/
def maxRows : Nat := 100

/-- The most pieces that a text is split into. -/
def maxPieces : Nat := 500

/-- The text of the first match, or nothing. -/
def find (p : Pattern) (s : String) : String :=
  let text := s.toList.toArray
  ((p.program.search text 0).map (·.text text)).getD ""

/-- The texts of the matches. -/
def findAll (p : Pattern) (s : String) (count : Option Int64) : List String :=
  let text := s.toList.toArray
  ((p.allMatches text).take (clampCount count maxMatches)).map (·.text text)

/-- For each match its text and those of its groups. -/
def findRows (p : Pattern) (s : String) (count : Option Int64) : List (List String) :=
  let text := s.toList.toArray
  ((p.allMatches text).take (clampCount count maxRows)).map fun m =>
    (List.range p.rowLength).map (m.group text)

/-- The pieces of a text from `start` on between the given matches. -/
def piecesBetween (text : Array Char) : Nat → List Found → List String
  | start, [] => [slice text start text.size]
  | start, m :: rest => slice text start m.start :: piecesBetween text m.stop rest

/-- The pieces between matches.  The last of a limited number of pieces is the rest of the text. -/
def split (p : Pattern) (s : String) (count : Option Int64) : List String :=
  let text := s.toList.toArray
  match clampCount count maxPieces with
  | 0 => []
  | limit + 1 => piecesBetween text 0 ((p.allMatches text).take limit)

/-- A pattern that matches a text and nothing else. -/
def escape (s : String) : String :=
  String.ofList (s.toList.flatMap fun c => if Reader.metaChars.contains c then ['\\', c] else [c])

end Pattern

end BotScript
