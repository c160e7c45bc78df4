import BotScript.Binary64
import BotScript.Duration
import BotScript.Instant

/-! Script values.  Scripts are untyped, so all that they compute with is a `Value`: scalars, lists,
two kinds of maps, optional wrappers, and objects of the host.  Maps are lists of entries in the
order of their keys; `Value.WellFormed` says so at every depth.  Functions that look at a value
look through its wrappers first, by `dereference`. -/

namespace BotScript

/-- An object of the host.  Scripts see its type and its text, and tell objects apart by
identity. -/
structure HostObject where
  identity : String
  typeName : String
  text : String
  deriving DecidableEq

/-- What a map is looked up by. -/
inductive Key
  | bool (b : Bool)
  | int (n : Int64)
  | float (x : Binary64)
  | text (s : String)
  | duration (d : Duration)
  | instant (t : Instant)
  deriving DecidableEq

/-- A script value.  `dict` and `textDict` hold their entries in ascending order of keys, and `ref`
is an optional wrapper. -/
inductive Value
  | null
  | bool (b : Bool)
  | int (n : Int64)
  | float (x : Binary64)
  | text (s : String)
  | duration (d : Duration)
  | instant (t : Instant)
  | list (items : List Value)
  | dict (entries : List (Key × Value))
  | textDict (entries : List (String × Value))
  | ref (inner : Option Value)
  | object (o : HostObject)

instance : Inhabited Value := ⟨.null⟩

/-- The entries of a map, in ascending order of keys. -/
abbrev Dict := List (Key × Value)

/-- The entries of a map from texts, in ascending order of keys. -/
abbrev TextDict := List (String × Value)

/-- The kinds of values. -/
inductive Kind
  | invalid
  | bool
  | int
  | float
  | text
  | duration
  | instant
  | list
  | map
  | ref
  | object
  deriving DecidableEq

namespace Kind

/-- The name by which scripts know a kind. -/
def name : Kind → String
  | invalid => "invalid"
  | bool => "bool"
  | int => "int"
  | float => "float64"
  | text => "string"
  | duration => "duration"
  | instant => "time"
  | list => "slice"
  | map => "map"
  | ref => "ptr"
  | object => "struct"

end Kind

namespace Key

def toValue : Key → Value
  | bool b => .bool b
  | int n => .int n
  | float x => .float x
  | text s => .text s
  | duration d => .duration d
  | instant t => .instant t

/-- The place of a key's kind among the kinds of keys. -/
def rank : Key → Nat
  | bool _ => 0
  | int _ => 1
  | float _ => 2
  | text _ => 3
  | duration _ => 4
  | instant _ => 5

/-- The order of keys: by kind, and within a kind by value, floats by their bit patterns. -/
def compare : Key → Key → Ordering
  | bool a, bool b => Ord.compare a b
  | int a, int b => Ord.compare a.toInt b.toInt
  | float x, float y => Ord.compare x.totalPlace y.totalPlace
  | text s, text t => Ord.compare s t
  | duration a, duration b => Ord.compare a.nanos b.nanos
  | instant a, instant b => a.compare b
  | a, b => Ord.compare a.rank b.rank

instance : Ord Key := ⟨Key.compare⟩

end Key

namespace Value

/-- The kind of a value itself, wrappers included. -/
def kind : Value → Kind
  | null => .invalid
  | bool _ => .bool
  | int _ => .int
  | float _ => .float
  | text _ => .text
  | duration _ => .duration
  | instant _ => .instant
  | list _ => .list
  | dict _ => .map
  | textDict _ => .map
  | ref _ => .ref
  | object _ => .object

/-- The value inside all wrappers, if there is one. -/
def dereference : Value → Option Value
  | null => none
  | ref none => none
  | ref (some v) => v.dereference
  | v => some v

def isNil (v : Value) : Bool := v.dereference.isNone

/-- The kind of what is inside all wrappers. -/
def kindInside (v : Value) : Kind :=
  match v.dereference with
  | none => .invalid
  | some inner => inner.kind

/-- Whether a condition holds of this value: it is not nil, false, zero or empty. -/
def isTruthy (v : Value) : Bool :=
  match v.dereference with
  | none => false
  | some (bool b) => b
  | some (int n) => n != 0
  | some (float x) => !x.equals .zero
  | some (text s) => !s.isEmpty
  | some (duration d) => !d.isZero
  | some (list items) => !items.isEmpty
  | some (dict entries) => !entries.isEmpty
  | some (textDict entries) => !entries.isEmpty
  | some _ => true

/-- The text inside all wrappers. -/
def asText? (v : Value) : Option String :=
  match v.dereference with
  | some (text s) => some s
  | _ => none

/-- The truth value inside all wrappers. -/
def asBool? (v : Value) : Option Bool :=
  match v.dereference with
  | some (bool b) => some b
  | _ => none

/-- A value in one wrapper. -/
def boxed (v : Value) : Value := ref (some v)

/-- An empty wrapper or a full one. -/
def ofOption (v : Option Value) : Value := ref v

/-- A value in `n` wrappers. -/
def wrapped : Nat → Value → Value
  | 0, v => v
  | n + 1, v => ref (some (wrapped n v))

@[simp] theorem dereference_wrapped (n : Nat) (v : Value) :
    (wrapped n v).dereference = v.dereference := by
  induction n with
  | zero => rfl
  | succ n ih => simpa [wrapped, dereference] using ih

/-- What is inside all wrappers is not a wrapper and not null. -/
theorem dereference_idem {v w : Value} (h : v.dereference = some w) :
    w.dereference = some w := by
  fun_induction dereference v with
  | case1 => simp at h
  | case2 => simp at h
  | case3 v ih => exact ih h
  | case4 v h1 h2 h3 =>
    obtain rfl : v = w := by simpa using h
    cases v <;> simp_all [dereference]

theorem dereference_ne_ref (v : Value) (inner : Option Value) :
    v.dereference ≠ some (.ref inner) := by
  fun_induction dereference v with
  | case1 =>
    intro h
    cases h
  | case2 =>
    intro h
    cases h
  | case3 v ih => exact ih
  | case4 v _ hEmpty hFull =>
    intro h
    cases h
    cases inner with
    | none => exact hEmpty rfl
    | some v => exact hFull v rfl

section Parts

variable {P : Value → Prop}

/-- Values are made of simple ones by lists, maps and wrappers: what passes from the parts of a
value to the value holds of every value. -/
@[elab_as_elim]
theorem byParts (simple : ∀ v : Value, v.kind ∉ [Kind.list, .map, .ref] → P v)
    (list : ∀ items, (∀ v ∈ items, P v) → P (.list items))
    (dict : ∀ entries : Dict, (∀ e ∈ entries, P e.2) → P (.dict entries))
    (textDict : ∀ entries : TextDict, (∀ e ∈ entries, P e.2) → P (.textDict entries))
    (empty : P (.ref none)) (wrapper : ∀ v, P v → P (.ref (some v))) : (v : Value) → P v
  | .list items => list items fun v _ => byParts simple list dict textDict empty wrapper v
  | .dict entries => dict entries fun e _ => byParts simple list dict textDict empty wrapper e.2
  | .textDict entries =>
    textDict entries fun e _ => byParts simple list dict textDict empty wrapper e.2
  | .ref none => empty
  | .ref (some v) => wrapper v (byParts simple list dict textDict empty wrapper v)
  | .null | .bool _ | .int _ | .float _ | .text _ | .duration _ | .instant _ | .object _ =>
    simple _ (by simp [kind])
termination_by v => sizeOf v
decreasing_by
  · decreasing_tactic
  · have hEntry := List.sizeOf_lt_of_mem ‹e ∈ entries›
    cases e
    simp only [Prod.mk.sizeOf_spec, Value.dict.sizeOf_spec] at hEntry ⊢
    omega
  · have hEntry := List.sizeOf_lt_of_mem ‹e ∈ entries›
    cases e
    simp only [Prod.mk.sizeOf_spec, Value.textDict.sizeOf_spec] at hEntry ⊢
    omega
  · decreasing_tactic

end Parts

end Value

end BotScript
