/-! JSON documents and their two texts: on one line without spaces, and with each element on a line
of its own. -/

namespace BotScript

/-- A JSON document.  Numbers are given by their text, and objects keep the order of their
members. -/
inductive Json
  | null
  | bool (b : Bool)
  | number (text : String)
  | text (s : String)
  | array (items : List Json)
  | object (members : List (String × Json))

namespace Json

/-- A character inside a quoted text.  Quotes, backslashes and control characters are escaped. -/
def escapeChar (c : Char) : List Char :=
  if c = '"' || c = '\\' then ['\\', c]
  else if c = '\x08' then ['\\', 'b']
  else if c = '\x0c' then ['\\', 'f']
  else if c = '\n' then ['\\', 'n']
  else if c = '\r' then ['\\', 'r']
  else if c = '\t' then ['\\', 't']
  else if c.toNat < 0x20 then
    ['\\', 'u', '0', '0', Nat.digitChar (c.toNat / 16), Nat.digitChar (c.toNat % 16)]
  else [c]

def quote (s : String) : String := String.ofList ('"' :: s.toList.flatMap escapeChar ++ ['"'])

/-- The texts of elements between brackets; with an indent, each on a line of its own that starts
with the indent, and the closing bracket on a line with `outer`. -/
def enclose (opening closing : String) (outer indent : Option String) (elements : List String) :
    String :=
  match elements, outer, indent with
  | [], _, _ => opening ++ closing
  | _, some outer, some indent =>
    opening ++ "\n" ++ indent ++ (",\n" ++ indent).intercalate elements ++ "\n" ++ outer ++ closing
  | _, _, _ => opening ++ ",".intercalate elements ++ closing

/-- What stands between the name and the value of a member. -/
def separator (indent : Option String) : String := if indent.isSome then ": " else ":"

mutual

/-- The text of a document.  With an indent, elements are put on lines of their own, two spaces
further in than what encloses them. -/
def render (indent : Option String) : Json → String
  | null => "null"
  | bool b => if b then "true" else "false"
  | number s => s
  | text s => quote s
  | array items =>
    let inner := indent.map (· ++ "  ")
    enclose "[" "]" indent inner (renderItems inner items)
  | object members =>
    let inner := indent.map (· ++ "  ")
    enclose "\x7b" "\x7d" indent inner (renderMembers inner members)

def renderItems (indent : Option String) : List Json → List String
  | [] => []
  | j :: js => j.render indent :: renderItems indent js

def renderMembers (indent : Option String) : List (String × Json) → List String
  | [] => []
  | (name, j) :: members =>
    (quote name ++ separator indent ++ j.render indent) :: renderMembers indent members

end

/-- The text on one line. -/
def compact (j : Json) : String := j.render none

/-- The text with each element on a line of its own. -/
def pretty (j : Json) : String := j.render (some "")

end Json

end BotScript
