import BotScript.Pattern

/-! Replacement of matches.  A dollar sign in a replacement names a group, by number or by name,
with braces or without; two of them stand for one. -/

namespace BotScript.Pattern

/-- A piece of a replacement: a character, or the text of a group. -/
inductive Part
  | char (c : Char)
  | group (name : String)

namespace Replacement

/-- Whether a character may stand in the name of a group without braces. -/
def isNameChar (c : Char) : Bool := c.isAlphanum || c == '_'

/-- Reads the name of a group after a dollar sign. -/
def readName (cs : List Char) : Option (String × List Char) :=
  match cs with
  | '\x7b' :: rest =>
    match rest.dropWhile (· != '\x7d') with
    | _ :: after => some (String.ofList (rest.takeWhile (· != '\x7d')), after)
    | [] => none
  | cs =>
    if (cs.takeWhile isNameChar).isEmpty then none
    else some (String.ofList (cs.takeWhile isNameChar), cs.dropWhile isNameChar)

/-- Reads a replacement.  A dollar sign that names nothing stands for itself.  Each piece takes a
character at least. -/
def readParts : Nat → List Char → List Part
  | 0, _ => []
  | _, [] => []
  | fuel + 1, '$' :: rest =>
    match rest with
    | '$' :: rest => .char '$' :: readParts fuel rest
    | rest =>
      match readName rest with
      | some (name, rest) => .group name :: readParts fuel rest
      | none => .char '$' :: readParts fuel rest
  | fuel + 1, c :: rest => .char c :: readParts fuel rest

/-- A number below `2 ^ 64`, with or without a plus sign. -/
def groupNumber? (name : String) : Option Nat :=
  let digits := match name.toList with
    | '+' :: ds => ds
    | ds => ds
  let n := digits.foldl (fun n d => 10 * n + (d.toNat - '0'.toNat)) 0
  if digits.isEmpty || !digits.all Char.isDigit || 0x10000000000000000 ≤ n then none else some n

/-- The group that a name stands for: a number is the number of a group. -/
def groupOf? (p : Pattern) (name : String) : Option Nat :=
  (groupNumber? name).or (p.names.lookup name)

/-- What a replacement becomes for a match.  A group that there is not becomes nothing. -/
def expand (p : Pattern) (text : Array Char) (m : Found) (parts : List Part) : List Char :=
  parts.flatMap fun part =>
    match part with
    | .char c => [c]
    | .group name =>
      match groupOf? p name with
      | some n => (m.group text n).toList
      | none => []

/-- The text from `start` on with the given matches replaced. -/
def replaceFrom (p : Pattern) (text : Array Char) (parts : List Part) :
    Nat → List Found → List Char
  | start, [] => (text.extract start text.size).toList
  | start, m :: rest =>
    (text.extract start m.start).toList ++ expand p text m parts ++
      replaceFrom p text parts m.stop rest

end Replacement

/-- The text with every match replaced. -/
def replace (p : Pattern) (s replacement : String) : String :=
  let text := s.toList.toArray
  let cs := replacement.toList
  let parts := Replacement.readParts cs.length cs
  String.ofList (Replacement.replaceFrom p text parts 0 (p.allMatches text))

end BotScript.Pattern
