import BotScript.Pattern.Expression

/-! Expressions in normal form.  Parts of a sequence are no sequences, alternatives of a choice are
no choices, and texts that follow one another are one text; a single character is a text and not a
set, and alternatives that are single characters, or are all sets, are one set.  What alternatives
have in common at the front stands in front of the choice.  It is then matched before an alternative
is chosen: where it can match in several ways, its preferred way goes before the preferred
alternative. -/

namespace BotScript

/-- The only code point of a set. -/
def CodeSet.single? (s : CodeSet) : Option Nat :=
  match s.ranges.toList with
  | [(first, last)] => if first = last then some first else none
  | _ => none

namespace Pattern.Expression

/-- One character of a set. -/
def ofSet (s : CodeSet) : Expression :=
  match s.single? with
  | some code => text [Char.ofNat code]
  | none => one s

/-- A repetition in its simplest form: once is enough for what matches only the empty text, no time
at all is the empty expression, and exactly once is the expression itself. -/
def times (e : Expression) (least : Nat) (most : Option Nat) (greedy : Bool) : Expression :=
  let least := if e.isOnlyEmpty then min least 1 else least
  let most := if e.isOnlyEmpty then some (min (most.getD 1) 1) else most
  if least = 0 ∧ most = some 0 then empty
  else if least = 1 ∧ most = some 1 then e
  else repetition e least most greedy

/-- The parts of a sequence. -/
def parts : Expression → List Expression
  | empty => []
  | sequence a b => a.parts ++ b.parts
  | e => [e]

/-- Puts an expression in front of others, as one text if it and the next one are texts. -/
def joinText : Expression → List Expression → List Expression
  | text cs, text ds :: rest => text (cs ++ ds) :: rest
  | e, rest => e :: rest

/-- A sequence of parts. -/
def ofParts : List Expression → Expression
  | [] => empty
  | [e] => e
  | e :: es => sequence e (ofParts es)

/-- The expressions one after another. -/
def inOrder (es : List Expression) : Expression := ofParts ((es.flatMap parts).foldr joinText [])

/-- The alternatives of a choice. -/
def branches : Expression → List Expression
  | choice a b => a.branches ++ b.branches
  | e => [e]

/-- A choice of alternatives, the first one preferred. -/
def ofBranches : List Expression → Expression
  | [] => empty
  | [e] => e
  | e :: es => choice e (ofBranches es)

/-- The set of an expression that is a single character. -/
def charSet? : Expression → Option CodeSet
  | text [c] => some (CodeSet.singleton c)
  | _ => none

/-- The set of an expression that is a character of a set. -/
def set? : Expression → Option CodeSet
  | one s => some s
  | _ => none

/-- Alternatives as one set, if they are all single characters or all sets. -/
def unite? (bs : List Expression) : Option Expression :=
  ((bs.mapM charSet?).or (bs.mapM set?)).map fun sets => ofSet (CodeSet.unionAll sets)

/-- The alternatives as one set, or a choice of them. -/
def chooseFrom (bs : List Expression) : Expression := (unite? bs).getD (ofBranches bs)

/-- The parts of a sequence of two parts at least. -/
def sequenceParts? : Expression → Option (List Expression)
  | sequence a b => some (sequence a b).parts
  | _ => none

/-- The longest list that two lists start with. -/
def commonFront : List Expression → List Expression → List Expression
  | a :: as, b :: bs => if a = b then a :: commonFront as bs else []
  | _, _ => []

/-- What sequences start with in common. -/
def sharedFront : List (List Expression) → List Expression
  | [] => []
  | first :: others => others.foldl commonFront first

/-- The expressions as alternatives, the first one preferred.  A common front is taken out if all of
them are sequences.  Those that remain behind it differ at their starts, so nothing is left to be
taken out of them. -/
def anyOf (es : List Expression) : Expression :=
  let bs := es.flatMap branches
  match bs.mapM sequenceParts? with
  | none => chooseFrom bs
  | some sequences =>
    match sharedFront sequences with
    | [] => chooseFrom bs
    | front =>
      let rests := sequences.map fun parts => inOrder (parts.drop front.length)
      inOrder (front ++ [chooseFrom (rests.flatMap branches)])

end Pattern.Expression

end BotScript
