/-! Sets of code points as sorted, disjoint ranges, with the operations of sets and a notation for
tables: `41-5A` for a range, `AA` for one code point, `100-12E/2` for every second one, all in upper
case hexadecimal with white space between entries. -/

namespace BotScript

/-- A set of code points: the closed ranges in ascending order. -/
structure CodeSet where
  ranges : Array (Nat × Nat)
  deriving DecidableEq

namespace CodeSet

/-- The greatest code point. -/
def top : Nat := 0x10FFFF

def empty : CodeSet := ⟨#[]⟩

/-- Joins ranges in ascending order of their starts, from `current` on, wherever they touch. -/
def mergeFrom (current : Nat × Nat) : List (Nat × Nat) → List (Nat × Nat)
  | [] => [current]
  | r :: rest =>
    if r.1 ≤ current.2 + 1 then mergeFrom (current.1, max current.2 r.2) rest
    else current :: mergeFrom r rest

/-- Joins ranges in ascending order of their starts wherever they touch. -/
def merge : List (Nat × Nat) → List (Nat × Nat)
  | [] => []
  | r :: rest => mergeFrom r rest

/-- The union of arbitrary ranges. -/
def ofRanges (ranges : List (Nat × Nat)) : CodeSet :=
  let sorted := (ranges.filter fun r => decide (r.1 ≤ r.2)).mergeSort fun a b => decide (a.1 ≤ b.1)
  ⟨(merge sorted).toArray⟩

def ofRange (first last : Nat) : CodeSet := ofRanges [(first, last)]

def singleton (c : Char) : CodeSet := ⟨#[(c.toNat, c.toNat)]⟩

/-- Whether `n` lies in one of the ranges from index `lo` to below `hi`, by halving. -/
def containsBetween (ranges : Array (Nat × Nat)) (n : Nat) : Nat → Nat → Nat → Bool
  | 0, _, _ => false
  | fuel + 1, lo, hi =>
    if lo < hi then
      let mid := (lo + hi) / 2
      match ranges[mid]? with
      | none => false
      | some (first, last) =>
        if n < first then containsBetween ranges n fuel lo mid
        else if last < n then containsBetween ranges n fuel (mid + 1) hi
        else true
    else false

def containsCode (s : CodeSet) (n : Nat) : Bool :=
  containsBetween s.ranges n (s.ranges.size + 1) 0 s.ranges.size

def contains (s : CodeSet) (c : Char) : Bool := s.containsCode c.toNat

def isEmpty (s : CodeSet) : Bool := s.ranges.isEmpty

def union (s t : CodeSet) : CodeSet := ofRanges (s.ranges.toList ++ t.ranges.toList)

def unionAll (sets : List CodeSet) : CodeSet := ofRanges (sets.flatMap (·.ranges.toList))

/-- The gaps between ranges from `next` up to `limit`. -/
def gaps (limit : Nat) : Nat → List (Nat × Nat) → List (Nat × Nat)
  | next, [] => if next ≤ limit then [(next, limit)] else []
  | next, (first, last) :: rest =>
    if next < first then (next, first - 1) :: gaps limit (last + 1) rest
    else gaps limit (max next (last + 1)) rest

/-- The code points up to `limit` that are not in the set. -/
def complementBelow (limit : Nat) (s : CodeSet) : CodeSet :=
  ofRanges (gaps limit 0 s.ranges.toList)

def complement (s : CodeSet) : CodeSet := s.complementBelow top

def inter (s t : CodeSet) : CodeSet := (s.complement.union t.complement).complement

def diff (s t : CodeSet) : CodeSet := (s.complement.union t).complement

def symmDiff (s t : CodeSet) : CodeSet := (s.union t).diff (s.inter t)

/-- All code points in the set are ASCII. -/
def isAscii (s : CodeSet) : Bool := s.ranges.all fun r => decide (r.2 < 128)

/-- The number that upper case hexadecimal digits denote. -/
def hexNumber (digits : String) : Nat :=
  digits.foldl (fun n c =>
    16 * n + if 'A' ≤ c then c.toNat - 'A'.toNat + 10 else c.toNat - '0'.toNat) 0

/-- The range that `41-5A` or `AA` denotes. -/
def readRange (text : String) : Nat × Nat :=
  match text.splitOn "-" with
  | [first, last] => (hexNumber first, hexNumber last)
  | _ => (hexNumber text, hexNumber text)

/-- The ranges that an entry of a table denotes. -/
def readEntry (entry : String) : List (Nat × Nat) :=
  match entry.splitOn "/" with
  | [every, _] =>
    let (first, last) := readRange every
    (List.range ((last - first) / 2 + 1)).map fun i => (first + 2 * i, first + 2 * i)
  | _ => [readRange entry]

/-- The entries of a table. -/
def tableEntries (table : String) : List String :=
  (table.splitToList Char.isWhitespace).filter fun entry => !entry.isEmpty

/-- The set that a table denotes. -/
def ofText (table : String) : CodeSet := ofRanges ((tableEntries table).flatMap readEntry)

end CodeSet

end BotScript
