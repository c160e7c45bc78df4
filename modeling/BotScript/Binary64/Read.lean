import BotScript.Binary64.Rounding

/-! Reading decimal text as a binary64 number: an optional sign, then digits with at most one point
and an optional exponent, or one of the names `inf`, `infinity` and `nan` in either case. -/

namespace BotScript

/-- Whether a character is an ASCII decimal digit. -/
def isDigit (c : Char) : Bool := decide ('0' ≤ c) && decide (c ≤ '9')

def digitValue (c : Char) : Nat := c.toNat - '0'.toNat

/-- The number that decimal digits denote. -/
def natOfDigits (ds : List Char) : Nat := ds.foldl (fun n d => 10 * n + digitValue d) 0

/-- A decimal numeral: digits before and after the point and a power of ten. -/
structure Numeral where
  whole : List Char
  fraction : List Char
  exponent : Int

namespace Numeral

/-- Reads an exponent: the letter `e` in either case, an optional sign and digits to the end. -/
def readExponent : List Char → Option Int
  | [] => some 0
  | e :: rest =>
    if e = 'e' || e = 'E' then
      let (negative, digits) := match rest with
        | '-' :: ds => (true, ds)
        | '+' :: ds => (false, ds)
        | ds => (false, ds)
      if digits.isEmpty || !digits.all isDigit then none
      else some (if negative then -(natOfDigits digits : Int) else natOfDigits digits)
    else none

/-- Reads an unsigned numeral.  There must be a digit before or after the point. -/
def read (cs : List Char) : Option Numeral :=
  let whole := cs.takeWhile isDigit
  let afterWhole := cs.dropWhile isDigit
  let (fraction, tail) := match afterWhole with
    | '.' :: rest => (rest.takeWhile isDigit, rest.dropWhile isDigit)
    | rest => ([], rest)
  if whole.isEmpty && fraction.isEmpty then none
  else (readExponent tail).map fun e => ⟨whole, fraction, e⟩

/-- The digits of the numeral as one integer, to be scaled by `scale`. -/
def significand (n : Numeral) : Nat := natOfDigits (n.whole ++ n.fraction)

/-- The power of ten that scales the significand. -/
def scale (n : Numeral) : Int := n.exponent - n.fraction.length

/-- The binary64 number nearest to the numeral.  Numerals above `10 ^ 310` are infinite and those
below `10 ^ -330` are zero whatever their digits are. -/
def toBinary64 (negative : Bool) (n : Numeral) : Binary64 :=
  let significand := n.significand
  let digits : Int := (Nat.toDigits 10 significand).length
  if significand = 0 then .ofMagnitude negative 0
  else if 310 < digits + n.scale then .infinity negative
  else if digits + n.scale < -330 then .ofMagnitude negative 0
  else if 0 ≤ n.scale then .ofRatio negative (significand * Nat.pow 10 n.scale.toNat) 1
  else .ofRatio negative significand (Nat.pow 10 (-n.scale).toNat)

end Numeral

namespace Binary64

/-- The number with the given sign among those that have names. -/
def named (negative : Bool) (cs : List Char) : Option Binary64 :=
  let name := cs.map Char.toLower
  if name = "inf".toList || name = "infinity".toList then some (infinity negative)
  else if name = "nan".toList then some (ofMagnitude negative nan.magnitude)
  else none

/-- Reads a whole text as a number. -/
def read? (s : String) : Option Binary64 :=
  let (negative, cs) := match s.toList with
    | '-' :: cs => (true, cs)
    | '+' :: cs => (false, cs)
    | cs => (false, cs)
  (named negative cs).or ((Numeral.read cs).map (Numeral.toBinary64 negative))

end Binary64

end BotScript
