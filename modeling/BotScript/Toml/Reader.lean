import BotScript.Toml.Document
import BotScript.Toml.Scalar

/-! Reading TOML documents. -/

namespace BotScript.Toml

/-- Values and keys may not be nested as deep as this. -/
def maxDepth : Nat := 80

/-! ### Keys -/

def isBareKeyChar (c : Char) : Bool := c.isAlphanum || c == '_' || c == '-'

/-- Reads a key without dots, bare or quoted. -/
def readSimpleKey (cs : List Char) : Option (String × List Char) :=
  match cs with
  | '"' :: rest => (readBasic (rest.length + 1) rest).map fun r => (String.ofList r.1, r.2)
  | '\'' :: rest => (readLiteral rest).map fun r => (String.ofList r.1, r.2)
  | cs =>
    if (cs.takeWhile isBareKeyChar).isEmpty then none
    else some (String.ofList (cs.takeWhile isBareKeyChar), cs.dropWhile isBareKeyChar)

/-- Reads keys with dots between them, and the white space around them. -/
def readKey : Nat → List Char → Option (List String × List Char)
  | 0, _ => none
  | fuel + 1, cs => do
    let (key, rest) ← readSimpleKey (skipSpace cs)
    match skipSpace rest with
    | '.' :: rest =>
      let (keys, rest) ← readKey fuel rest
      return (key :: keys, rest)
    | rest => return ([key], rest)

/-- Reads a key that is not too long. -/
def readPath (cs : List Char) : Option (List String × List Char) := readKey maxDepth cs |>.filter
  fun r => decide (r.1.length < maxDepth)

/-! ### Values -/

/-- The rest after a comment, which must be plain, at its line break. -/
def skipComment (cs : List Char) : Option (List Char) :=
  match cs with
  | '#' :: rest =>
    let inside (c : Char) : Bool := c != '\n' && c != '\r'
    if (rest.takeWhile inside).all isPlain then some (rest.dropWhile inside) else none
  | cs => some cs

/-- The rest after white space, comments and line breaks. -/
def skipLines : Nat → List Char → Option (List Char)
  | 0, cs => some cs
  | fuel + 1, cs => do
    let rest ← skipComment (skipSpace cs)
    match newline? rest with
    | some rest => skipLines fuel rest
    | none => return rest

/-- Reads a number, a date or a time. -/
def readNumberOrTime (cs : List Char) : Option (Toml × List Char) :=
  (readTime cs).or (readNumber cs)

mutual

/-- Reads a value.  What is nested in it is read with less fuel, as is what follows in it. -/
def readValue : Nat → Nat → List Char → Option (Toml × List Char)
  | 0, _, _ => none
  | fuel + 1, depth, cs =>
    match cs with
    | '"' :: _ => (readText cs).map fun r => (.text r.1, r.2)
    | '\'' :: _ => (readText cs).map fun r => (.text r.1, r.2)
    | '[' :: rest =>
      if maxDepth ≤ depth + 1 then none
      else (readItems fuel (depth + 1) rest).map fun r => (.array r.1, r.2)
    | '\x7b' :: rest =>
      if maxDepth ≤ depth + 1 then none
      else match skipSpace rest with
        | '\x7d' :: rest => some (.table [], rest)
        | rest => (readMembers fuel (depth + 1) [] rest).map fun r =>
          (.table (Node.finishEntries r.1), r.2)
    | 't' :: 'r' :: 'u' :: 'e' :: rest => some (.bool true, rest)
    | 'f' :: 'a' :: 'l' :: 's' :: 'e' :: rest => some (.bool false, rest)
    | 'i' :: 'n' :: 'f' :: rest => some (.float, rest)
    | 'n' :: 'a' :: 'n' :: rest => some (.float, rest)
    | cs => readNumberOrTime cs

/-- Reads the rest of an array, in which lines may be broken and a comma may come last. -/
def readItems : Nat → Nat → List Char → Option (List Toml × List Char)
  | 0, _, _ => none
  | fuel + 1, depth, cs => do
    let cs ← skipLines cs.length cs
    match cs with
    | ']' :: rest => return ([], rest)
    | cs =>
      let (item, rest) ← readValue fuel depth cs
      let rest ← skipLines rest.length rest
      match rest with
      | ',' :: rest =>
        let (items, rest) ← readItems fuel depth rest
        return (item :: items, rest)
      | ']' :: rest => return ([item], rest)
      | _ => none

/-- Reads the rest of a table on one line, to which its entries so far belong. -/
def readMembers : Nat → Nat → List (String × Node) → List Char →
    Option (List (String × Node) × List Char)
  | 0, _, _, _ => none
  | fuel + 1, depth, entries, cs => do
    let (path, rest) ← readPath cs
    let rest ← expect '=' rest
    let (value, rest) ← readValue fuel depth (skipSpace rest)
    let entries ← Node.addValue value path entries
    match skipSpace rest with
    | ',' :: rest => readMembers fuel depth entries rest
    | '\x7d' :: rest => return (entries, rest)
    | _ => none

end

/-! ### Documents -/

/-- A document while it is read: its entries and the path of the table that is open. -/
structure State where
  root : List (String × Node)
  path : List String

/-- The rest after the end of a line, which may hold a comment. -/
def endLine (cs : List Char) : Option (List Char) := do
  let rest ← skipComment (skipSpace cs)
  match rest with
  | [] => return []
  | rest => newline? rest

/-- Reads the path in a header up to its closing bracket. -/
def readHeader (cs : List Char) : Option (List String × List Char) := do
  let (path, rest) ← readPath cs
  return (path, ← expect ']' rest)

/-- Opens the table of a header by `opens`, which says what becomes of its last key. -/
def openAt (opens : String → List (String × Node) → Option (List (String × Node)))
    (st : State) (path : List String) : Option State := do
  let key ← path.getLast?
  return ⟨← Node.atPath (opens key) path.dropLast st.root, path⟩

/-- Reads one line. -/
def readLine (st : State) (cs : List Char) : Option (State × List Char) :=
  match skipSpace cs with
  | [] => some (st, [])
  | '[' :: '[' :: rest => do
    let (path, rest) ← readHeader rest
    let rest ← expect ']' rest
    return (← openAt Node.openElement st path, ← endLine rest)
  | '[' :: rest => do
    let (path, rest) ← readHeader rest
    return (← openAt Node.openTable st path, ← endLine rest)
  | c :: rest =>
    if c = '#' || c = '\n' || c = '\r' then (endLine (c :: rest)).map (st, ·)
    else do
      let (path, rest) ← readPath (c :: rest)
      let rest ← expect '=' rest
      let rest := skipSpace rest
      let (value, rest) ← readValue (2 * rest.length + 2) 0 rest
      let root ← Node.atPath (Node.addValue value path) st.path st.root
      return (⟨root, st.path⟩, ← endLine rest)

/-- Reads lines to the end.  Each takes a character at least. -/
def readLines : Nat → State → List Char → Option State
  | _, st, [] => some st
  | 0, _, _ => none
  | fuel + 1, st, cs => (readLine st cs).bind fun (st, rest) => readLines fuel st rest

/-- Reads a document as the entries of its top table.  A byte order mark may come first. -/
def read? (s : String) : Option (List (String × Toml)) :=
  let cs := match s.toList with
    | '\ufeff' :: cs => cs
    | cs => cs
  (readLines cs.length ⟨[], []⟩ cs).map fun st => Node.finishEntries st.root

end BotScript.Toml
