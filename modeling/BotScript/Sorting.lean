import BotScript.Containers
import BotScript.Text.LowerCase
import BotScript.Value.Text

/-! Sorting lists of mixed kinds.  Values are put into seven buckets by kind, each bucket is sorted
on its own, and the buckets follow one another in a fixed order.  With a key, records are sorted by
the value that they hold under it. -/

namespace BotScript

/-- The kinds of values that are sorted among themselves. -/
inductive Bucket
  | ints
  | floats
  | texts
  | instants
  | lists
  | maps
  | others
  deriving DecidableEq

namespace Bucket

/-- The buckets in their order. -/
def all : List Bucket := [ints, floats, texts, instants, lists, maps, others]

def ofValue : Value → Bucket
  | .int _ => ints
  | .float _ => floats
  | .text _ => texts
  | .instant _ => instants
  | .list _ => lists
  | .dict _ => maps
  | .textDict _ => maps
  | _ => others

end Bucket

/-- How to sort. -/
structure SortOptions where
  reverse : Bool
  subslices : Bool
  emptyslices : Bool
  key : Option Value

namespace SortOptions

def default : SortOptions := ⟨false, false, false, none⟩

/-- One option.  The name is in lower case. -/
def set (o : SortOptions) (name : String) (value : Value) : Except Mistake SortOptions :=
  if name = "key" then .ok { o with key := value.dereference }
  else match value.asBool? with
    | none => .error (.optionNotBool name value.kind)
    | some flag =>
      if name = "reverse" then .ok { o with reverse := flag }
      else if name = "subslices" then .ok { o with subslices := flag }
      else if name = "emptyslices" then .ok { o with emptyslices := flag }
      else .error (.unknownOption name)

/-- The options in the order of their names as given, whatever the case of the letters. -/
def ofArguments (arguments : List Value) : Except Mistake SortOptions := do
  (← TextDict.ofArguments arguments).foldlM (fun o e => o.set (lowerCase e.1) e.2) default

end SortOptions

namespace Sorting

/-- The value that a list or a map holds under a key. -/
def index (container key : Value) : Except Mistake Value :=
  match container.dereference, key.dereference with
  | some (.list items), some (.int i) =>
    match if 0 ≤ i.toInt then items[i.toInt.toNat]? else none with
    | some v => .ok v
    | none => .error (.indexOutOfRange i)
  | some (.list _), some other => .error (.listKey other.kind)
  | some (.textDict d), some (.text k) =>
    match Entries.get? k d with
    | some v => .ok v
    | none => .error (.keyNotFound k)
  | some (.dict d), some k =>
    match Dict.get? d k with
    | some v => .ok v
    | none => .error (.keyNotFound k.print)
  | some other, _ => .error (.notIndexable other.kind)
  | none, _ => .error .nilNotIndexable

/-- The number of elements of a list or entries of a map. -/
def size : Value → Nat
  | .list items => items.length
  | .dict d => d.length
  | .textDict d => d.length
  | _ => 0

/-- The order within a bucket. -/
def compare : Value → Value → Ordering
  | .int a, .int b => Ord.compare a.toInt b.toInt
  | .float x, .float y => x.compareNaNFirst y
  | .text s, .text t => Ord.compare s t
  | .instant a, .instant b => a.compare b
  | v, w => Ord.compare (size v) (size w)

/-- An item of the list with the value that it is sorted by. -/
structure Keyed where
  key : Value
  item : Value

/-- The item without its wrappers.  Empty wrappers are left out, but a bare null is kept. -/
def keep? (v : Value) : Option Value :=
  match v.dereference with
  | some inner => some inner
  | none => match v with
    | .ref _ => none
    | _ => some .null

/-- The item with what it is sorted by: itself, or what it holds under the key. -/
def keyed (key : Option Value) (item : Value) : Except Mistake Keyed :=
  match key with
  | none => .ok ⟨item, item⟩
  | some key => (index item key).map fun found => ⟨found.dereference.getD .null, item⟩

/-- The items of one bucket in order.  Equal items keep their order, also in reverse, but the bucket
of other items is turned around. -/
def sortBucket (reverse : Bool) (bucket : Bucket) (items : List Keyed) : List Value :=
  let members := items.filter fun k => decide (Bucket.ofValue k.key = bucket)
  let sorted :=
    if bucket = .others then if reverse then members.reverse else members
    else if reverse then members.mergeSort fun a b => compare b.key a.key != .gt
    else members.mergeSort fun a b => compare a.key b.key != .gt
  sorted.map (·.item)

/-- The seven sorted buckets. -/
def buckets (o : SortOptions) (items : List Value) : Except Mistake (List (List Value)) := do
  let keyedItems ← (items.filterMap keep?).mapM (keyed o.key)
  return Bucket.all.map fun b => sortBucket o.reverse b keyedItems

/-- The sorted list, or with `subslices` the list of its buckets. -/
def sort (o : SortOptions) (items : List Value) : Except Mistake (List Value) := do
  let sorted ← buckets o items
  if o.subslices then
    return (sorted.filter fun b => o.emptyslices || !b.isEmpty).map Value.list
  else return sorted.flatten

end Sorting

end BotScript
