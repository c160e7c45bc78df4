import BotScript.Toml

/-! TOML tables under construction.  A table may be written in several places, and which of them may
add to it depends on how it came to be: by a header, on the way to one, or by a dotted key. -/

namespace BotScript.Toml

/-- An entry of a table under construction.  A table is `implicit` if no header has opened it and
`dotted` if a dotted key has made it.  Tables of an array are kept with the last one in front. -/
inductive Node
  | closed (v : Toml)
  | table (implicit dotted : Bool) (entries : List (String × Node))
  | tables (last : List (String × Node)) (others : List (List (String × Node)))

namespace Node

/-- Replaces an entry, or adds it at the end. -/
def put (key : String) (n : Node) : List (String × Node) → List (String × Node)
  | [] => [(key, n)]
  | (k, m) :: rest => if k = key then (key, n) :: rest else (k, m) :: put key n rest

/-- Adds the value of a dotted key.  All tables on the way must be without header, and the last one
must have been made by dotted keys. -/
def addValue (value : Toml) : List String → List (String × Node) → Option (List (String × Node))
  | [], _ => none
  | [key], entries =>
    if (entries.lookup key).isSome then none else some (put key (.closed value) entries)
  | key :: rest, entries =>
    match entries.lookup key with
    | none => (addValue value rest []).map fun inner => put key (.table true true inner) entries
    | some (.table implicit dotted inner) =>
      if !implicit || (rest.length = 1 && !dotted) then none
      else (addValue value rest inner).map fun inner => put key (.table true dotted inner) entries
    | some (.tables last others) =>
      if rest.length = 1 then none
      else (addValue value rest last).map fun last => put key (.tables last others) entries
    | some (.closed _) => none

/-- Changes the table at a path of headers by `change`, making tables on the way. -/
def atPath (change : List (String × Node) → Option (List (String × Node))) :
    List String → List (String × Node) → Option (List (String × Node))
  | [], entries => change entries
  | key :: rest, entries =>
    match entries.lookup key with
    | none => (atPath change rest []).map fun inner => put key (.table true false inner) entries
    | some (.table implicit dotted inner) =>
      (atPath change rest inner).map fun inner => put key (.table implicit dotted inner) entries
    | some (.tables last others) =>
      (atPath change rest last).map fun last => put key (.tables last others) entries
    | some (.closed _) => none

/-- Opens a table by its header.  Only a table that other headers have made may be there. -/
def openTable (key : String) (entries : List (String × Node)) : Option (List (String × Node)) :=
  match entries.lookup key with
  | none => some (put key (.table false false []) entries)
  | some (.table true false inner) => some (put key (.table false false inner) entries)
  | some _ => none

/-- Opens the next table of an array by its header. -/
def openElement (key : String) (entries : List (String × Node)) : Option (List (String × Node)) :=
  match entries.lookup key with
  | none => some (put key (.tables [] []) entries)
  | some (.tables last others) => some (put key (.tables [] (last :: others)) entries)
  | some _ => none

mutual

/-- The value of a finished entry. -/
def finish : Node → Toml
  | closed v => v
  | table _ _ entries => .table (finishEntries entries)
  | tables last others => .array ((.table (finishEntries last) :: finishTables others).reverse)

def finishEntries : List (String × Node) → List (String × Toml)
  | [] => []
  | (key, n) :: rest => (key, n.finish) :: finishEntries rest

def finishTables : List (List (String × Node)) → List Toml
  | [] => []
  | entries :: rest => .table (finishEntries entries) :: finishTables rest

end

end Node

end BotScript.Toml
