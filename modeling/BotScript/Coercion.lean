import BotScript.Containers
import BotScript.Digest.Sha256
import BotScript.Duration.Read
import BotScript.Value.Equality
import BotScript.Value.Text

/-! Conversions of values.  All look through wrappers, and all but `hexToDecimal` give the zero of
the target for values that have no conversion. -/

namespace BotScript.Value

/-- The integer part of a number, those beyond 64 bits cut off at the ends of the range. -/
def intOfFloat (x : Binary64) : Int64 :=
  Int64.ofInt (x.truncateClamped Int64.minValue.toInt Int64.maxValue.toInt)

def toInt (v : Value) : Int64 :=
  match v.dereference with
  | some (int n) => n
  | some (float x) => intOfFloat x
  | some (text s) => (readInt64? 10 s).getD 0
  | some (duration d) => Int64.ofInt d.clampedNanos
  | _ => 0

def toFloat (v : Value) : Binary64 :=
  match v.dereference with
  | some (int n) => .ofInt n.toInt
  | some (float x) => x
  | some (text s) => (Binary64.read? s).getD .zero
  | some (duration d) => .ofInt d.clampedNanos
  | _ => .zero

/-- The text of a scalar or an object.  Lists and maps have none. -/
def toText (v : Value) : String :=
  match v.dereference with
  | some inner => inner.scalarText
  | none => ""

/-- Numbers count nanoseconds.  A text that denotes less than one second counts as zero. -/
def toDuration (v : Value) : Duration :=
  match v.dereference with
  | some (int n) => .ofInt64 n
  | some (float x) => .ofInt64 (intOfFloat x)
  | some (text s) =>
    match Duration.read? s with
    | some d => if Duration.nanosPerSecond ≤ d.nanos then d else .zero
    | none => .zero
  | some (duration d) => d
  | _ => .zero

/-- The text of a value that is a number or a text. -/
def numberOrText (v : Value) : String :=
  match v.dereference with
  | some (int n) => (int n).scalarText
  | some (float x) => (float x).scalarText
  | some (text s) => s
  | _ => ""

def toChars (v : Value) : List Char := v.numberOrText.toList

def toBytes (v : Value) : List UInt8 := v.numberOrText.toUTF8.toList

/-- The SHA-256 digest of the bytes of a value, in hexadecimal. -/
def toSha256 (v : Value) : String := Sha256.hexDigest v.toBytes

/-- An integer, texts being read in base 16. -/
def toHexInt (v : Value) : Int64 :=
  match v.dereference with
  | some (text s) => (readInt64? 16 s).getD 0
  | some inner => inner.toInt
  | none => 0

/-- The number of a colour: hexadecimal digits, after any number of `#`, for a signed 32-bit
integer.  Numbers stay as they are. -/
def hexToDecimal (v : Value) : Except Mistake Int64 :=
  match v.dereference with
  | some (int n) => .ok n
  | some (float x) => .ok (intOfFloat x)
  | _ =>
    let raw := v.toText
    match readInteger 16 0x7FFFFFFF (String.ofList (raw.toList.dropWhile (· == '#'))) with
    | .ok n => .ok (Int64.ofInt n)
    | .error cause => .error (.hexNumber raw cause)

/-- Reads a text as a duration. -/
def readDuration (s : String) : Except Mistake Duration :=
  match Duration.read? s with
  | some d => .ok d
  | none => .error (.duration s)

end Value

/-- Whether the characters `part` stand next to each other somewhere in a text. -/
def occursIn (part : List Char) : List Char → Bool
  | [] => part.isEmpty
  | c :: cs => part.isPrefixOf (c :: cs) || occursIn part cs

namespace Value

/-- Whether a value is an element of a list, or a text is part of a text. -/
def isIn (haystack needle : Value) : Bool :=
  match haystack.dereference, needle.dereference with
  | some (text h), some (text n) => occursIn n.toList h.toList
  | some (list items), needle => items.any fun item => equalsOption item.dereference needle
  | _, _ => false

/-- Whether a text is an element of a list or part of a text, whatever the case of the letters. -/
def isInFolded (haystack needle : Value) : Bool :=
  match needle.asText? with
  | none => false
  | some n =>
    match haystack.dereference with
    | some (text h) => occursIn (lowerCase n).toList (lowerCase h).toList
    | some (list items) =>
      let wanted := lowerCase n
      items.any fun item => item.asText?.any fun s => lowerCase s == wanted
    | _ => false

end BotScript.Value
