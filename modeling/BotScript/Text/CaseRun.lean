import BotScript.Text.CodeSet

/-! Maps between code points that are given by runs: the code points of a run all move by the same
distance. -/

namespace BotScript

/-- A run of code points from `first` to `last`, `stride` apart, that move by `shift`. -/
structure CaseRun where
  first : Nat
  last : Nat
  stride : Nat
  shift : Int

namespace CaseRun

def contains (r : CaseRun) (n : Nat) : Bool :=
  decide (r.first ≤ n) && decide (n ≤ r.last) && decide ((n - r.first) % r.stride = 0)

def apply (r : CaseRun) (n : Nat) : Nat := (n + r.shift).toNat

/-- The run that an entry such as `41-5A+20`, `100-12E/2+1` or `178~79` denotes: the code points in
the notation of `CodeSet.ofText`, then the distance upwards or downwards. -/
def ofEntry (entry : String) : CaseRun :=
  let (codes, shift) : String × Int := match entry.splitOn "+", entry.splitOn "~" with
    | [codes, up], _ => (codes, CodeSet.hexNumber up)
    | _, [codes, down] => (codes, -(CodeSet.hexNumber down : Int))
    | _, _ => (entry, 0)
  match codes.splitOn "/" with
  | [every, _] => let r := CodeSet.readRange every; ⟨r.1, r.2, 2, shift⟩
  | _ => let r := CodeSet.readRange codes; ⟨r.1, r.2, 1, shift⟩

def ofText (table : String) : List CaseRun := (CodeSet.tableEntries table).map ofEntry

/-- The code points of a run, each with its image. -/
def pairs (r : CaseRun) : List (Nat × Nat) :=
  (List.range ((r.last - r.first) / r.stride + 1)).map fun i =>
    (r.first + r.stride * i, r.apply (r.first + r.stride * i))

/-- The code points that runs move. -/
def moved (runs : List CaseRun) : CodeSet :=
  CodeSet.ofRanges ((runs.flatMap pairs).map fun p => (p.1, p.1))

/-- The code point that the runs send `n` to, if one of them contains it. -/
def map? (runs : List CaseRun) (n : Nat) : Option Nat := (runs.find? (·.contains n)).map (·.apply n)

end CaseRun

end BotScript
