/-! Integers read strictly from text: an optional sign, then one or more digits of the radix, with
a value in a given range.  Of several faults the first one from the left is reported. -/

namespace BotScript

/-- Why a text is not an integer of the wanted range. -/
inductive IntegerFault
  | empty
  | invalidDigit
  | tooLarge
  | tooSmall
  deriving DecidableEq

namespace IntegerFault

def message : IntegerFault → String
  | empty => "cannot parse integer from empty string"
  | invalidDigit => "invalid digit found in string"
  | tooLarge => "number too large to fit in target type"
  | tooSmall => "number too small to fit in target type"

end IntegerFault

/-- The value of a character as a digit of a radix up to 36, with letters of either case from ten
on. -/
def digitOf? (radix : Nat) (c : Char) : Option Nat :=
  let value :=
    if '0' ≤ c ∧ c ≤ '9' then some (c.toNat - '0'.toNat)
    else if 'a' ≤ c ∧ c ≤ 'z' then some (c.toNat - 'a'.toNat + 10)
    else if 'A' ≤ c ∧ c ≤ 'Z' then some (c.toNat - 'A'.toNat + 10)
    else none
  value.filter (· < radix)

/-- Reads digits to the end, each appended to the size read so far, which may not pass `limit`. -/
def readDigits (radix limit : Nat) (overflow : IntegerFault) :
    Nat → List Char → Except IntegerFault Nat
  | n, [] => .ok n
  | n, c :: cs =>
    match digitOf? radix c with
    | none => .error .invalidDigit
    | some d =>
      if limit < radix * n + d then .error overflow
      else readDigits radix limit overflow (radix * n + d) cs

/-- Reads a whole text as an integer of `radix` between `-(limit + 1)` and `limit`. -/
def readInteger (radix limit : Nat) (s : String) : Except IntegerFault Int :=
  match s.toList with
  | [] => .error .empty
  | ['+'] | ['-'] => .error .invalidDigit
  | '-' :: cs => (readDigits radix (limit + 1) .tooSmall 0 cs).map fun (n : Nat) => -(n : Int)
  | '+' :: cs => (readDigits radix limit .tooLarge 0 cs).map Int.ofNat
  | cs => (readDigits radix limit .tooLarge 0 cs).map Int.ofNat

/-- Reads a whole text as a signed 64-bit integer. -/
def readInt64? (radix : Nat) (s : String) : Option Int64 :=
  match readInteger radix 0x7FFFFFFFFFFFFFFF s with
  | .ok n => some (Int64.ofInt n)
  | .error _ => none

end BotScript
