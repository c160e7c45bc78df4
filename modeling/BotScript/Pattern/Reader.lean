import BotScript.Pattern.CharClass
import BotScript.Pattern.NormalForm
import BotScript.Text.Blank
import BotScript.Text.Integer

/-! Reading patterns.  What is read at a place is given back with the characters that follow it, and
a pattern that is not well formed gives nothing. -/

namespace BotScript.Pattern

/-- The flags that hold at a place of a pattern. -/
structure Flags where
  ignoreCase : Bool
  multiLine : Bool
  dotMatchesNewline : Bool
  swapGreed : Bool
  unicode : Bool
  anyLineBreak : Bool
  verbose : Bool

namespace Flags

def initial : Flags := ⟨false, false, false, false, true, false, false⟩

/-- Sets the flag that a letter names. -/
def set? (f : Flags) (letter : Char) (value : Bool) : Option Flags :=
  if letter = 'i' then some { f with ignoreCase := value }
  else if letter = 'm' then some { f with multiLine := value }
  else if letter = 's' then some { f with dotMatchesNewline := value }
  else if letter = 'U' then some { f with swapGreed := value }
  else if letter = 'u' then some { f with unicode := value }
  else if letter = 'R' then some { f with anyLineBreak := value }
  else if letter = 'x' then some { f with verbose := value }
  else none

end Flags

namespace Reader

/-- Skips white space and comments, which go from `#` to the end of the line. -/
def skipComments : Bool → List Char → List Char
  | _, [] => []
  | true, c :: cs => skipComments (c != '\n') cs
  | false, c :: cs =>
    if isBlank c then skipComments false cs
    else if c = '#' then skipComments true cs
    else c :: cs

/-- Skips what does not count: nothing, or in a verbose pattern white space and comments. -/
def skip (f : Flags) (cs : List Char) : List Char := if f.verbose then skipComments false cs else cs

/-- The character after the one at the front, past white space in a verbose pattern. -/
def peek (f : Flags) (cs : List Char) : Option Char :=
  let next := cs.drop 1
  if f.verbose then
    let next := next.dropWhile isBlank
    match next with
    | '#' :: rest => (rest.dropWhile isBlank).head?
    | _ => next.head?
  else next.head?

/-- What is read for one place: a character, which may be written as a byte, a set of characters,
or a condition on the place. -/
inductive Atom
  | char (c : Char) (isByte : Bool)
  | set (s : CodeSet)
  | assertion (a : Assertion)

/-- The characters with a meaning in patterns, all of which a backslash takes away. -/
def metaChars : List Char := "\\.+*?()|[]\x7b\x7d^$#&-~".toList

/-- Whether a backslash in front of a character gives the character itself. -/
def isEscapable (c : Char) : Bool :=
  metaChars.contains c ||
    (decide (c.toNat < 128) && !c.isAlphanum && c != '<' && c != '>')

/-- A set with its other cases if case is ignored, complemented if negated.  Without Unicode a set
of bytes is meant, which must be ASCII. -/
def finishSet (f : Flags) (negated : Bool) (s : CodeSet) : Option CodeSet :=
  if f.unicode then
    let s := if f.ignoreCase then Folding.close s else s
    some (if negated then s.complement else s)
  else
    let s := if f.ignoreCase then Folding.closeAscii s else s
    let s := if negated then s.complementBelow 0xFF else s
    if s.isAscii then some s else none

/-- The short class that a letter stands for, in upper case its complement. -/
def shortSet (f : Flags) (c : Char) : Option CodeSet := do
  let cls ← ShortClass.ofLetter? c.toLower
  let s := cls.set (!f.unicode)
  if c.isUpper then if f.unicode then some s.complement else none else some s

/-- Reads as many hexadecimal digits as wanted. -/
def readHexDigits (f : Flags) : Nat → Nat → List Char → Option (Nat × List Char)
  | 0, n, cs => some (n, cs)
  | _ + 1, _, [] => none
  | count + 1, n, c :: cs =>
    (digitOf? 16 c).bind fun d => readHexDigits f count (16 * n + d) (skip f cs)

/-- The characters up to a closing brace, without what does not count. -/
def readBraced (f : Flags) : Nat → List Char → Option (List Char × List Char)
  | 0, _ => none
  | fuel + 1, cs =>
    match skip f cs with
    | [] => none
    | '\x7d' :: rest => some ([], rest)
    | c :: rest => (readBraced f fuel rest).map fun r => (c :: r.1, r.2)

def charOfCode? (n : Nat) : Option Char := if n.isValidChar then some (Char.ofNat n) else none

/-- Reads a character given by its code point, with `width` digits or between braces. -/
def readCodePoint (f : Flags) (width : Nat) (cs : List Char) : Option (Atom × List Char) :=
  match skip f cs with
  | '\x7b' :: rest => do
    let (digits, rest) ← readBraced f (rest.length + 1) rest
    if digits.isEmpty then none
    let values ← digits.mapM (digitOf? 16)
    let c ← charOfCode? (values.foldl (fun n d => 16 * n + d) 0)
    return (.char c false, skip f rest)
  | cs => do
    let (n, rest) ← readHexDigits f width 0 cs
    return (.char (← charOfCode? n) (width == 2), rest)

/-- The text before and after the first place of a separator. -/
def splitAround (separator : List Char) : List Char → Option (List Char × List Char)
  | [] => none
  | c :: cs =>
    if separator.isPrefixOf (c :: cs) then some ([], (c :: cs).drop separator.length)
    else (splitAround separator cs).map fun r => (c :: r.1, r.2)

/-- The set that the name in a Unicode class stands for, and whether it is negated. -/
def unicodeSet (name : List Char) : Option (CodeSet × Bool) :=
  let valued (negated : Bool) (parts : List Char × List Char) :=
    (UnicodeClass.valued? (String.ofList parts.1) (String.ofList parts.2)).map (·, negated)
  match splitAround ['!', '='] name with
  | some parts => valued true parts
  | none =>
    match (splitAround [':'] name).or (splitAround ['='] name) with
    | some parts => valued false parts
    | none => (UnicodeClass.named? (String.ofList name)).map (·, false)

/-- Reads a Unicode class after its letter, which is `P` if the class is negated. -/
def readUnicodeClass (f : Flags) (negated : Bool) (cs : List Char) : Option (Atom × List Char) := do
  let (name, rest) ← match skip f cs with
    | [] => none
    | '\x7b' :: rest => readBraced f (rest.length + 1) rest
    | c :: rest => if c = '\\' then none else some ([c], skip f rest)
  if !f.unicode then none
  let (s, negatedInside) ← unicodeSet name
  return (.set (← finishSet f (negated != negatedInside) s), rest)

/-- The kinds of word edges by name. -/
def edgeNamed? (name : String) : Option WordEdge :=
  if name = "start" then some .start
  else if name = "end" then some .stop
  else if name = "start-half" then some .startHalf
  else if name = "end-half" then some .stopHalf
  else none

def isEdgeChar (c : Char) : Bool := c.isAlpha || c == '-'

/-- The letters and hyphens at the front, without what does not count between them. -/
def readEdgeName (f : Flags) : Nat → List Char → List Char × List Char
  | 0, cs => ([], cs)
  | _, [] => ([], [])
  | fuel + 1, c :: cs =>
    if isEdgeChar c then
      let (name, rest) := readEdgeName f fuel (skip f cs)
      (c :: name, rest)
    else ([], c :: cs)

/-- Reads what may follow a word boundary: the name of its kind in braces.  A brace that starts
something else is left to be read as a repetition. -/
def readEdge (f : Flags) (cs : List Char) : Option (WordEdge × List Char) :=
  match cs with
  | '\x7b' :: rest =>
    match skip f rest with
    | [] => none
    | c :: tail =>
      if !isEdgeChar c then some (.boundary, cs)
      else
        let (name, after) := readEdgeName f (tail.length + 1) (c :: tail)
        match after with
        | '\x7d' :: after => (edgeNamed? (String.ofList name)).map (·, after)
        | _ => none
  | cs => some (.boundary, cs)

/-- The character that a letter after a backslash stands for. -/
def controlOf? (c : Char) : Option Char :=
  if c = 'a' then some '\x07' else if c = 'f' then some '\x0c' else if c = 't' then some '\t'
  else if c = 'n' then some '\n' else if c = 'r' then some '\r' else if c = 'v' then some '\x0b'
  else none

/-- Reads what follows a backslash. -/
def readEscape (f : Flags) : List Char → Option (Atom × List Char)
  | [] => none
  | c :: rest =>
    if c = 'x' then readCodePoint f 2 rest
    else if c = 'u' then readCodePoint f 4 rest
    else if c = 'U' then readCodePoint f 8 rest
    else if c = 'p' || c = 'P' then readUnicodeClass f (c == 'P') rest
    else if (ShortClass.ofLetter? c.toLower).isSome && c.isAlpha then
      (shortSet f c).map fun s => (.set s, rest)
    else if isEscapable c then some (.char c false, rest)
    else if c = 'A' then some (.assertion .textStart, rest)
    else if c = 'z' then some (.assertion .textEnd, rest)
    else if c = 'b' then
      (readEdge f rest).map fun r => (.assertion (.word r.1 (!f.unicode)), r.2)
    else if c = 'B' then some (.assertion (.word .notBoundary (!f.unicode)), rest)
    else if c = '<' then some (.assertion (.word .start (!f.unicode)), rest)
    else if c = '>' then some (.assertion (.word .stop (!f.unicode)), rest)
    else (controlOf? c).map fun control => (.char control false, rest)

/-! ### Classes in brackets -/

/-- A part of a pattern with the depth to which its parts are nested. -/
structure Nested (α : Type) where
  it : α
  depth : Nat

/-- The union of the items of a class that have been read. -/
structure Union where
  set : CodeSet
  count : Nat
  depth : Nat

namespace Union

def none : Union := ⟨CodeSet.empty, 0, 0⟩

def add (u : Union) (s : CodeSet) (depth : Nat) : Union :=
  ⟨u.set.union s, u.count + 1, max u.depth depth⟩

/-- A union of several items is one level deeper than its items. -/
def close (u : Union) : Nested CodeSet := ⟨u.set, if 1 < u.count then u.depth + 1 else u.depth⟩

end Union

/-- An operation on two sets. -/
inductive SetOperation
  | inter
  | diff
  | symmDiff

namespace SetOperation

def apply (f : Flags) (op : SetOperation) (s t : CodeSet) : CodeSet :=
  let other (s : CodeSet) :=
    if f.ignoreCase then if f.unicode then Folding.close s else Folding.closeAscii s else s
  match op with
  | inter => (other s).inter (other t)
  | diff => (other s).diff (other t)
  | symmDiff => (other s).symmDiff (other t)

end SetOperation

/-- Applies the operation that waits for its second operand. -/
def applyPending (f : Flags) (pending : Option (Nested CodeSet × SetOperation)) (u : Union) :
    Nested CodeSet :=
  match pending with
  | none => u.close
  | some (first, op) => ⟨op.apply f first.it u.close.it, max first.depth u.close.depth + 1⟩

/-- The character that an atom is as an end of a range. -/
def Atom.classChar? (f : Flags) : Atom → Option Char
  | .char c _ => if f.unicode || c.toNat < 128 then some c else none
  | _ => none

/-- The set that an atom is in a class. -/
def Atom.classSet? (f : Flags) : Atom → Option CodeSet
  | .set s => some s
  | a => (a.classChar? f).map CodeSet.singleton

def readClassAtom (f : Flags) : List Char → Option (Atom × List Char)
  | [] => none
  | '\\' :: rest => readEscape f rest
  | c :: rest => some (.char c false, rest)

/-- Reads an item of a class: a character, a range or a class by name.  A hyphen before the closing
bracket or another hyphen does not make a range. -/
def readClassItem (f : Flags) (cs : List Char) : Option (CodeSet × List Char) := do
  let (first, rest) ← readClassAtom f cs
  match skip f rest with
  | [] => none
  | c :: rest =>
    if c != '-' || peek f (c :: rest) == some ']' || peek f (c :: rest) == some '-' then
      return (← first.classSet? f, c :: rest)
    else
      let (last, rest) ← readClassAtom f (skip f rest)
      let first ← first.classChar? f
      let last ← last.classChar? f
      if last < first then none
      return (CodeSet.ofRange first.toNat last.toNat, rest)

/-- Reads an ASCII class such as `:alpha:]` after its opening bracket. -/
def readAsciiClass (cs : List Char) : Option (CodeSet × Bool × List Char) := do
  let cs ← match cs with
    | ':' :: cs => some cs
    | _ => none
  let (negated, cs) := match cs with
    | '^' :: cs => (true, cs)
    | cs => (false, cs)
  let name := String.ofList (cs.takeWhile (· != ':'))
  match cs.dropWhile (· != ':') with
  | ':' :: ']' :: rest => (asciiClasses.lookup name).map fun t => (CodeSet.ofText t, negated, rest)
  | _ => none

/-- The hyphens that start a class, which stand for themselves. -/
def readHyphens (f : Flags) : Nat → Union → List Char → Union × List Char
  | fuel + 1, u, '-' :: rest =>
    readHyphens f fuel (u.add (CodeSet.singleton '-') 0) (skip f rest)
  | _, u, cs => (u, cs)

mutual

/-- Reads a class after its opening bracket.  A closing bracket that comes first stands for
itself. -/
def readClass (f : Flags) : Nat → List Char → Option (Nested CodeSet × List Char)
  | 0, _ => none
  | fuel + 1, cs =>
    let (negated, cs) := match skip f cs with
      | '^' :: rest => (true, skip f rest)
      | cs => (false, cs)
    let (u, cs) := readHyphens f cs.length Union.none cs
    let (u, cs) := match u.count, cs with
      | 0, ']' :: rest => (u.add (CodeSet.singleton ']') 0, skip f rest)
      | _, _ => (u, cs)
    readClassItems f fuel negated none u cs

/-- Reads the rest of a class, with the operation that waits for its second operand and the items
read since. -/
def readClassItems (f : Flags) :
    Nat → Bool → Option (Nested CodeSet × SetOperation) → Union → List Char →
      Option (Nested CodeSet × List Char)
  | 0, _, _, _, _ => none
  | fuel + 1, negated, pending, u, cs =>
    let operator (op : SetOperation) (rest : List Char) :=
      readClassItems f fuel negated (some (applyPending f pending u, op)) Union.none rest
    match skip f cs with
    | [] => none
    | '[' :: rest =>
      match readAsciiClass rest with
      | some (s, negatedName, rest) => do
        readClassItems f fuel negated pending (u.add (← finishSet f negatedName s) 0) rest
      | none => do
        let (inner, rest) ← readClass f fuel rest
        readClassItems f fuel negated pending (u.add inner.it inner.depth) rest
    | ']' :: rest => do
      let whole := applyPending f pending u
      return (⟨← finishSet f negated whole.it, whole.depth + 1⟩, rest)
    | '&' :: '&' :: rest => operator .inter rest
    | '-' :: '-' :: rest => operator .diff rest
    | '~' :: '~' :: rest => operator .symmDiff rest
    | cs => do
      let (s, rest) ← readClassItem f cs
      readClassItems f fuel negated pending (u.add s 0) rest

end

/-! ### Groups and repetitions -/

/-- Part of a sequence: an expression, or a change of flags, which matches nothing and cannot be
repeated. -/
inductive Piece
  | expression (e : Nested Expression)
  | flags

namespace Piece

def depth : Piece → Nat
  | expression e => e.depth
  | flags => 0

def expression? : Piece → Option Expression
  | expression e => some e.it
  | flags => none

end Piece

/-- A group whose end has not been read: its number if it is counted, the flags that hold again
after it, its finished alternatives and the pieces of the last one, both backwards. -/
structure Level where
  number : Option Nat
  flagsAfter : Flags
  branches : List (Nested Expression)
  pieces : List Piece

namespace Level

/-- The depth of several parts together, which is one more than that of a single one. -/
def joinDepths (depths : List Nat) : Nat :=
  let deepest := depths.foldl max 0
  if 1 < depths.length then deepest + 1 else deepest

/-- The sequence of the pieces. -/
def sequence (l : Level) : Nested Expression :=
  ⟨Expression.inOrder (l.pieces.reverse.filterMap Piece.expression?),
    joinDepths (l.pieces.map Piece.depth)⟩

/-- All alternatives. -/
def close (l : Level) : Nested Expression :=
  let all := (l.sequence :: l.branches).reverse
  ⟨Expression.anyOf (all.map (·.it)), joinDepths (all.map (·.depth))⟩

end Level

/-- A pattern while it is read. -/
structure State where
  flags : Flags
  level : Level
  outer : List Level
  groups : Nat
  names : List (String × Nat)

namespace State

def initial : State := ⟨.initial, ⟨none, .initial, [], []⟩, [], 0, []⟩

def addPiece (st : State) (p : Piece) : State :=
  { st with level := { st.level with pieces := p :: st.level.pieces } }

def add (st : State) (e : Expression) (depth : Nat) : State := st.addPiece (.expression ⟨e, depth⟩)

/-- Opens a group in which `flags` hold. -/
def openGroup (st : State) (number : Option Nat) (flags : Flags) : State :=
  { st with
    flags := flags
    level := ⟨number, st.flags, [], []⟩
    outer := st.level :: st.outer }

/-- Opens a group with the next number. -/
def openCounted (st : State) : State :=
  { st.openGroup (some (st.groups + 1)) st.flags with groups := st.groups + 1 }

/-- Starts the next alternative. -/
def nextBranch (st : State) : State :=
  { st with level :=
      { st.level with branches := st.level.sequence :: st.level.branches, pieces := [] } }

/-- Closes a group. -/
def closeGroup (st : State) : Option State :=
  match st.outer with
  | [] => none
  | level :: outer =>
    let inner := st.level.close
    let e := match st.level.number with
      | some n => Expression.group n inner.it
      | none => inner.it
    some ({ st with flags := st.level.flagsAfter, level := level, outer := outer }.add e
      (inner.depth + 1))

/-- Repeats the last piece. -/
def repeatLast (st : State) (least : Nat) (most : Option Nat) (greedy : Bool) : Option State :=
  match st.level.pieces with
  | .expression e :: pieces =>
    let greedy := greedy != st.flags.swapGreed
    some ({ st with level := { st.level with pieces := pieces } }.add
      (e.it.times least most greedy) (e.depth + 1))
  | _ => none

end State

/-- The expression of an atom.  A byte that is not ASCII would match half a character. -/
def Atom.expression? (f : Flags) : Atom → Option Expression
  | .set s => some (Expression.ofSet s)
  | .assertion a => some (.assertion a)
  | .char c isByte =>
    let s := CodeSet.singleton c
    if f.unicode then some (Expression.ofSet (if f.ignoreCase then Folding.close s else s))
    else if isByte && 128 ≤ c.toNat then none
    else some (Expression.ofSet (if f.ignoreCase then Folding.closeAscii s else s))

/-- The characters that the dot stands for. -/
def dotSet (f : Flags) : Option CodeSet :=
  if !f.unicode then none
  else if f.dotMatchesNewline then some (CodeSet.ofRange 0 CodeSet.top)
  else if f.anyLineBreak then some (CodeSet.ofText "A D").complement
  else some (CodeSet.ofText "A").complement

def startAssertion (f : Flags) : Assertion :=
  if !f.multiLine then .textStart else if f.anyLineBreak then .anyLineStart else .lineStart

def endAssertion (f : Flags) : Assertion :=
  if !f.multiLine then .textEnd else if f.anyLineBreak then .anyLineEnd else .lineEnd

/-- Reads the flags of a group up to a colon or a closing parenthesis, which is given with them.  No
flag may come twice, and a hyphen, after which flags are taken away, needs one after it. -/
def readFlags (seen : List Char) (value : Bool) (f : Flags) :
    List Char → Option (Flags × Char × Bool × List Char)
  | [] => none
  | c :: rest =>
    if c = ':' || c = ')' then
      if seen.head? = some '-' then none else some (f, c, seen.isEmpty, rest)
    else if seen.contains c then none
    else if c = '-' then readFlags (c :: seen) false f rest
    else (f.set? c value).bind fun f => readFlags (c :: seen) value f rest

/-- Whether a character may stand in the name of a group. -/
def isNameChar (first : Bool) (c : Char) : Bool :=
  c == '_' ||
    (if first then isAlphabetic c
      else isAlphanumeric c || c == '.' || c == '[' || c == ']')

/-- Reads the name of a group up to the closing angle. -/
def readName (cs : List Char) : Option (String × List Char) :=
  let name := cs.takeWhile (· != '>')
  match name, cs.dropWhile (· != '>') with
  | first :: others, '>' :: rest =>
    if isNameChar true first && others.all (isNameChar false) then
      some (String.ofList name, rest)
    else none
  | _, _ => none

/-- Reads the start of a group after its parenthesis.  Conditions on what stands around a place are
not supported. -/
def readGroup (st : State) (cs : List Char) : Option (State × List Char) :=
  let named (rest : List Char) : Option (State × List Char) := do
    let (name, rest) ← readName rest
    if (st.names.lookup name).isSome then none
    let st := st.openCounted
    return ({ st with names := (name, st.groups) :: st.names }, rest)
  match skip st.flags cs with
  | '?' :: '=' :: _ => none
  | '?' :: '!' :: _ => none
  | '?' :: '<' :: '=' :: _ => none
  | '?' :: '<' :: '!' :: _ => none
  | '?' :: 'P' :: '<' :: rest => named rest
  | '?' :: '<' :: rest => named rest
  | '?' :: rest => do
    let (flags, stop, isEmpty, rest) ← readFlags [] true st.flags rest
    if stop = ':' then return (st.openGroup none flags, rest)
    else if isEmpty then none
    else return ({ st with flags := flags }.addPiece .flags, rest)
  | rest => some (st.openCounted, rest)

/-- Reads a number among white space. -/
def readCount (f : Flags) (cs : List Char) : Option (Nat × List Char) :=
  let rec digits : Nat → List Char → List Char × List Char
    | fuel + 1, c :: rest =>
      if '0' ≤ c ∧ c ≤ '9' then
        let (ds, rest) := digits fuel (skip f rest)
        (c :: ds, rest)
      else ([], c :: rest)
    | _, cs => ([], cs)
  let (ds, rest) := digits cs.length (cs.dropWhile isBlank)
  let n := ds.foldl (fun n d => 10 * n + (d.toNat - '0'.toNat)) 0
  if ds.isEmpty || 0x100000000 ≤ n then none else some (n, skip f (rest.dropWhile isBlank))

/-- Reads the bounds of a counted repetition after its opening brace, up to and with the closing
one. -/
def readBounds (f : Flags) (cs : List Char) : Option ((Nat × Option Nat) × List Char) := do
  let (least, rest) ← readCount f (skip f cs)
  match rest with
  | '\x7d' :: rest => return ((least, some least), rest)
  | ',' :: rest =>
    match skip f rest with
    | '\x7d' :: rest => return ((least, none), rest)
    | rest =>
      let (most, rest) ← readCount f rest
      match rest with
      | '\x7d' :: rest => if most < least then none else return ((least, some most), rest)
      | _ => none
  | _ => none

/-- A question mark after a repetition makes it lazy. -/
def readLazy (cs : List Char) : Bool × List Char :=
  match cs with
  | '?' :: rest => (false, rest)
  | rest => (true, rest)

/-- Reads one construct. -/
def step (st : State) : List Char → Option (State × List Char)
  | [] => none
  | c :: rest =>
    let f := st.flags
    let repetition (least : Nat) (most : Option Nat) : Option (State × List Char) := do
      let (greedy, rest) := readLazy rest
      return (← st.repeatLast least most greedy, rest)
    if c = '(' then readGroup st rest
    else if c = ')' then st.closeGroup.map (·, rest)
    else if c = '|' then some (st.nextBranch, rest)
    else if c = '[' then do
      let (s, rest) ← readClass f (2 * rest.length + 2) rest
      return (st.add (Expression.ofSet s.it) s.depth, rest)
    else if c = '?' then repetition 0 (some 1)
    else if c = '*' then repetition 0 none
    else if c = '+' then repetition 1 none
    else if c = '\x7b' then do
      let ((least, most), rest) ← readBounds f rest
      let (greedy, rest) := readLazy (skip f rest)
      return (← st.repeatLast least most greedy, rest)
    else if c = '\\' then do
      let (a, rest) ← readEscape f rest
      return (st.add (← a.expression? f) 0, rest)
    else if c = '.' then (dotSet f).map fun s => (st.add (Expression.ofSet s) 0, rest)
    else if c = '^' then some (st.add (.assertion (startAssertion f)) 0, rest)
    else if c = '$' then some (st.add (.assertion (endAssertion f)) 0, rest)
    else ((Atom.char c false).expression? f).map fun e => (st.add e 0, rest)

/-- Reads constructs to the end.  Each takes a character at least, so the length of the pattern
bounds their number. -/
def readAll : Nat → State → List Char → Option State
  | 0, _, _ => none
  | fuel + 1, st, cs =>
    match skip st.flags cs with
    | [] => some st
    | cs => (step st cs).bind fun (st, rest) => readAll fuel st rest

/-- How deep the parts of a pattern may be nested. -/
def maxDepth : Nat := 250

end Reader

/-- What a pattern says: its expression and the numbers of its named groups. -/
structure Reading where
  expression : Expression
  names : List (String × Nat)

/-- Reads a pattern. -/
def read? (pattern : String) : Option Reading := do
  let cs := pattern.toList
  let st ← Reader.readAll (cs.length + 1) .initial cs
  let whole := st.level.close
  if !st.outer.isEmpty || Reader.maxDepth < whole.depth then none
  return ⟨whole.it, st.names⟩

end BotScript.Pattern
