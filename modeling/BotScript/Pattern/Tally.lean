import BotScript.Text.Encoding
import Std.Data.HashMap

/-! The sizes of automata on bytes.  The states of an automaton are counted in the order in which
they are added; each takes 32 bytes, a branch on a byte range 8 more and a branch on nothing 4 more.
An automaton may not take more than `maxFootprint` bytes.  It reads forward or backward, on which
the states for a set of characters depend. -/

namespace BotScript.Pattern

/-- The memory that an automaton may take, in bytes. -/
def maxFootprint : Nat := 10485760

/-- An automaton under construction: how many states it has, and the memory of their branches. -/
structure Tally where
  states : Nat
  branches : Nat

namespace Tally

def empty : Tally := ⟨0, 0⟩

def plus (t u : Tally) : Tally := ⟨t.states + u.states, t.branches + u.branches⟩

def total (ts : List Tally) : Tally := ts.foldl plus empty

/-- The memory of an automaton, in bytes. -/
def footprint (t : Tally) : Nat := 32 * t.states + t.branches

/-- Adds states and the memory of branches, unless the automaton becomes too large. -/
def add (t : Tally) (states branches : Nat) : Option Tally :=
  let larger := t.plus ⟨states, branches⟩
  if larger.footprint ≤ maxFootprint then some larger else none

/-- Adds something `n` times. -/
def repeatedly (grow : Tally → Option Tally) : Nat → Tally → Option Tally
  | 0, t => some t
  | n + 1, t =>
    match grow t with
    | none => none
    | some t => repeatedly grow n t

end Tally

/-! ### Sets of characters

A set that is not ASCII becomes states for the bytes of its characters, which share what they have
in common: going forward the states with the same branches, going backward those reached by the same
leading bytes. -/

/-- States that may be used again, by what they consist of.  They are kept in a number of places,
each state in one that depends on what it consists of, until another takes its place. -/
structure Shelf where
  places : Nat
  kept : Std.HashMap Nat (List Nat × Nat)

namespace Shelf

/-- A shelf with nothing on it. -/
def ofPlaces (places : Nat) : Shelf := ⟨places, ∅⟩

/-- The FNV-1a hash of a list of words. -/
def hash (words : List Nat) : UInt64 :=
  words.foldl (fun h word => (h ^^^ word.toUInt64) * 1099511628211) 14695981039346656037

/-- The place of a state. -/
def place (s : Shelf) (contents : List Nat) : Nat := (hash contents).toNat % s.places

/-- The number of the state that consists of `contents`, if it is kept. -/
def find? (s : Shelf) (contents : List Nat) : Option Nat :=
  match s.kept[s.place contents]? with
  | some (kept, state) => if kept = contents then some state else none
  | none => none

/-- Keeps the state that consists of `contents` under its number. -/
def keep (s : Shelf) (contents : List Nat) (state : Nat) : Shelf :=
  { s with kept := s.kept.insert (s.place contents) (contents, state) }

end Shelf

/-- The construction of states that are shared. -/
abbrev Sharing := StateT (Tally × Shelf) Option

namespace Sharing

/-- The number of a state that consists of `contents`: one that is kept, or a new one with the given
memory of branches. -/
def state (contents : List Nat) (branches : Nat) : Sharing Nat := fun (t, shelf) =>
  match shelf.find? contents with
  | some n => some (n, t, shelf)
  | none => (t.add 1 branches).map fun larger => (t.states, larger, shelf.keep contents t.states)

/-- The state at which sequences of byte ranges start that all lead to `target`.  `fuel` is greater
than their length. -/
def forward (target : Nat) : Nat → List (List ByteRange) → Sharing Nat
  | 0, _ => pure target
  | fuel + 1, sequences => do
    let groups := sequences.splitBy fun s t => s.head? == t.head?
    let branches ← groups.mapM fun group =>
      match group with
      | [range] :: _ => pure [range.1, range.2, target]
      | (range :: _) :: _ => do
        let next ← forward target fuel (group.map List.tail)
        return [range.1, range.2, next]
      | _ => pure []
    state branches.flatten (8 * branches.length)

/-- The states that lead back from the last byte of sequences to `target`, and a branch to each. -/
def backward (target : Nat) (sequences : List (List ByteRange)) : Sharing Unit :=
  sequences.forM fun sequence => do
    let _ ← sequence.foldlM (fun next range => state [next, range.1, range.2] 0) target
    let (t, shelf) ← get
    set (← t.add 0 4, shelf)

end Sharing

/-- Adds the states of a set. -/
def Tally.addSet (backward : Bool) (s : CodeSet) (t : Tally) : Option Tally :=
  if s.isAscii then t.add 2 (8 * s.ranges.size)
  else if backward then do
    let larger ← t.add 2 0
    let (_, larger, _) ← (Sharing.backward (t.states + 1) s.byteSequences).run
      (larger, Shelf.ofPlaces 1000)
    return larger
  else do
    let larger ← t.add 1 0
    let (_, larger, _) ← (Sharing.forward t.states 5 s.byteSequences).run
      (larger, Shelf.ofPlaces 10000)
    return larger

/-! ### Alternative texts

Alternatives that are all texts become a tree, in which texts that start alike share their states.
A text that ends where others go on parts the branches of those before it from the branches of those
after it. -/

/-- The size of the tree of texts, given by their bytes, one of which has a byte at least: a state
for each run of branches that no end parts, and one that leads to the runs and ends.  `fuel` is
greater than the length of the texts. -/
def treeSize : Nat → List (List Nat) → Tally
  | 0, _ => Tally.empty
  | fuel + 1, texts =>
    let runs := (texts.splitBy fun a b => !a.isEmpty && !b.isEmpty).filter
      fun run => run.any (!·.isEmpty)
    let ends := (if texts.head? = some [] then 1 else 0)
      + (texts.dropWhile List.isEmpty).count []
    let ofRun (run : List (List Nat)) : Tally :=
      let bytes := (run.filterMap List.head?).eraseDups
      let below (byte : Nat) : Tally :=
        let rests := (run.filter (·.head? == some byte)).map List.tail
        if rests.all List.isEmpty then Tally.empty else treeSize fuel rests
      (Tally.total (bytes.map below)).plus
        ⟨1, if bytes.length = 1 then 0 else 8 * bytes.length⟩
    (Tally.total (runs.map ofRun)).plus ⟨1, 4 * (runs.length + ends)⟩

/-- Adds the tree of texts and the state at which they all end. -/
def Tally.addTexts (backward : Bool) (texts : List (List Char)) (t : Tally) : Option Tally :=
  let encoded := texts.map fun chars =>
    if backward then (textBytes chars).reverse else textBytes chars
  let tree := treeSize ((encoded.map List.length).foldl max 0 + 1) encoded
  t.add (tree.states + 1) tree.branches

end BotScript.Pattern
