import BotScript.Text.Letter

/-! Regular expressions: what they are made of, and when an expression matches nothing but the empty
text. -/

namespace BotScript.Pattern

/-- The code points that words are made of: letters, marks, digits, connecting punctuation and the
characters that join letters. -/
def wordChars : CodeSet :=
  CodeSet.unionAll
    [Letter.alphabetic, Category.setOf Category.marks,
      Category.setOf [.decimalNumber, .connectorPunctuation], CodeSet.ofText "200C-200D"]

/-- The ASCII characters that words are made of. -/
def asciiWordChars : CodeSet := CodeSet.ofText "30-39 41-5A 5F 61-7A"

/-- Places at the edges of words. -/
inductive WordEdge
  | boundary
  | notBoundary
  | start
  | stop
  | startHalf
  | stopHalf
  deriving DecidableEq

/-- Conditions on a place between two characters. -/
inductive Assertion
  | textStart
  | textEnd
  | lineStart
  | lineEnd
  | anyLineStart
  | anyLineEnd
  | word (edge : WordEdge) (ascii : Bool)
  deriving DecidableEq

namespace Assertion

/-- Whether there is a character and it belongs to words. -/
def isWordChar (ascii : Bool) : Option Char → Bool
  | none => false
  | some c =>
    if c.toNat < 128 then asciiWordChars.contains c else !ascii && wordChars.contains c

/-- Whether the condition holds between the characters `before` and `after`, of which there is none
at the ends of the text.  Any line break is a carriage return, a line feed or the two together,
which are not parted. -/
def holds (before after : Option Char) : Assertion → Bool
  | textStart => before.isNone
  | textEnd => after.isNone
  | lineStart => before.isNone || before == some '\n'
  | lineEnd => after.isNone || after == some '\n'
  | anyLineStart =>
    before.isNone || before == some '\n' || (before == some '\r' && after != some '\n')
  | anyLineEnd =>
    after.isNone || after == some '\r' || (after == some '\n' && before != some '\r')
  | word edge ascii =>
    let wordBefore := isWordChar ascii before
    let wordAfter := isWordChar ascii after
    match edge with
    | .boundary => wordBefore != wordAfter
    | .notBoundary => wordBefore == wordAfter
    | .start => !wordBefore && wordAfter
    | .stop => wordBefore && !wordAfter
    | .startHalf => !wordBefore
    | .stopHalf => !wordAfter

end Assertion

/-- A regular expression.  A text stands for itself, a repetition without a greatest count is
unbounded, and groups are numbered from 1. -/
inductive Expression
  | empty
  | text (chars : List Char)
  | one (set : CodeSet)
  | assertion (a : Assertion)
  | sequence (first second : Expression)
  | choice (first second : Expression)
  | repetition (e : Expression) (least : Nat) (most : Option Nat) (greedy : Bool)
  | group (number : Nat) (e : Expression)
  deriving DecidableEq

namespace Expression

/-- The expression matches no text with a character in it. -/
def isOnlyEmpty : Expression → Bool
  | empty => true
  | text chars => chars.isEmpty
  | one _ => false
  | assertion _ => true
  | sequence a b => a.isOnlyEmpty && b.isOnlyEmpty
  | choice a b => a.isOnlyEmpty && b.isOnlyEmpty
  | repetition e _ most _ => e.isOnlyEmpty || most == some 0
  | group _ e => e.isOnlyEmpty

/-- The expression may match the empty text. -/
def mayBeEmpty : Expression → Bool
  | empty => true
  | text chars => chars.isEmpty
  | one _ => false
  | assertion _ => true
  | sequence a b => a.mayBeEmpty && b.mayBeEmpty
  | choice a b => a.mayBeEmpty || b.mayBeEmpty
  | repetition e least _ _ => least == 0 || e.mayBeEmpty
  | group _ e => e.mayBeEmpty

/-- The number of the last group. -/
def lastGroup : Expression → Nat
  | empty => 0
  | text _ => 0
  | one _ => 0
  | assertion _ => 0
  | sequence a b => max a.lastGroup b.lastGroup
  | choice a b => max a.lastGroup b.lastGroup
  | repetition e _ _ _ => e.lastGroup
  | group n e => max n e.lastGroup

/-- Whether there is a group of a number. -/
def hasGroup (number : Nat) : Expression → Bool
  | empty => false
  | text _ => false
  | one _ => false
  | assertion _ => false
  | sequence a b => a.hasGroup number || b.hasGroup number
  | choice a b => a.hasGroup number || b.hasGroup number
  | repetition e _ _ _ => e.hasGroup number
  | group n e => n == number || e.hasGroup number

end Expression

end BotScript.Pattern
