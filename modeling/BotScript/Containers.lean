import BotScript.Entries
import BotScript.Fault

/-! Maps and lists that scripts build: from keys and values in turn, or from one collection. -/

namespace BotScript

namespace Key

/-- The key that a value gives.  Nil, lists, maps and objects give none. -/
def ofValue (v : Value) : Except Mistake Key :=
  match v.dereference with
  | some (.bool b) => .ok (.bool b)
  | some (.int n) => .ok (.int n)
  | some (.float x) => .ok (.float x)
  | some (.text s) => .ok (.text s)
  | some (.duration d) => .ok (.duration d)
  | some (.instant t) => .ok (.instant t)
  | some other => .error (.keyKind other.kind)
  | none => .error .nilKey

end Key

/-- The kind of mistake that a single argument is when no map is inside it. -/
def notACollection : Option Value → Mistake
  | none => .nilCollection
  | some v => .notCollection v.kind

namespace Dict

/-- The value of a key.  What cannot be a key has no value. -/
def get? (d : Dict) (key : Value) : Option Value :=
  match Key.ofValue key with
  | .ok k => Entries.get? k d
  | .error _ => none

/-- Adds or replaces an entry. -/
def set (d : Dict) (key value : Value) : Except Mistake Dict :=
  (Key.ofValue key).map fun k => Entries.insert k value d

/-- Removes an entry. -/
def erase (d : Dict) (key : Value) : Dict :=
  match Key.ofValue key with
  | .ok k => Entries.erase k d
  | .error _ => d

/-- Takes out an entry, and gives its value if there was one. -/
def remove (d : Dict) (key : Value) : Option Value × Dict :=
  match Key.ofValue key with
  | .ok k => Entries.remove k d
  | .error _ => (none, d)

def has (d : Dict) (key : Value) : Bool := (d.get? key).isSome

/-- The entries of a map from texts, with texts as keys. -/
def ofTextDict (d : TextDict) : Dict := d.map fun e => (.text e.1, e.2)

/-- Sets keys and values in turn.  The second argument list is odd if a key has no value. -/
def setPairs : Dict → List Value → Except Mistake Dict
  | d, key :: value :: rest => do setPairs (← d.set key value) rest
  | d, [] => .ok d
  | _, [_] => .error .oddEntries

/-- The map of keys and values in turn, or a copy of the map inside a single argument. -/
def ofArguments (arguments : List Value) : Except Mistake Dict :=
  match arguments with
  | [single] =>
    match single.dereference with
    | some (.dict d) => .ok d
    | some (.textDict d) => .ok (ofTextDict d)
    | other => .error (notACollection other)
  | _ =>
    if arguments.length % 2 = 0 then setPairs [] arguments else .error .oddEntries

end Dict

namespace TextDict

/-- The entries of a map whose keys are all texts. -/
def ofDict : Dict → Except Mistake TextDict
  | [] => .ok []
  | (.text s, v) :: rest => (ofDict rest).map ((s, v) :: ·)
  | (k, _) :: _ => .error (.keyNotText k.toValue.kind)

/-- Sets texts and values in turn. -/
def setPairs : TextDict → List Value → Except Mistake TextDict
  | d, key :: value :: rest =>
    match key.dereference with
    | some (.text s) => setPairs (Entries.insert s value d) rest
    | _ => .error (.argumentNotText key.kindInside)
  | d, [] => .ok d
  | _, [_] => .error .oddEntries

/-- The map of texts and values in turn, or a copy of the map inside a single argument. -/
def ofArguments (arguments : List Value) : Except Mistake TextDict :=
  match arguments with
  | [single] =>
    match single.dereference with
    | some (.textDict d) => .ok d
    | some (.dict d) => ofDict d
    | other => .error (notACollection other)
  | _ =>
    if arguments.length % 2 = 0 then setPairs [] arguments else .error .oddEntries

end TextDict

namespace Items

/-- The longest list that appending may make. -/
def maxLength : Nat := 10000

/-- The elements inside a single list argument, or else the arguments. -/
def ofArguments (arguments : List Value) : List Value :=
  match arguments with
  | [single] =>
    match single.dereference with
    | some (.list items) => items
    | _ => arguments
  | _ => arguments

/-- Replaces the element at an index. -/
def set (items : List Value) (index : Nat) (value : Value) : Except Mistake (List Value) :=
  if index < items.length then .ok (items.set index value)
  else .error (.setOutOfRange index items.length)

/-- Appends elements if the list does not become too long. -/
def append (items more : List Value) : Except Mistake (List Value) :=
  if maxLength < items.length + more.length then .error .listTooLong else .ok (items ++ more)

end Items

end BotScript
