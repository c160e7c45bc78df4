import BotScript.Binary64

/-! Rounding to binary64: exact results are computed on integers and rounded once, to the nearest
number with ties to the even magnitude. -/

namespace BotScript

/-- `num / den` rounded to the nearest integer, a half going to the even neighbour. -/
def roundHalfEven (num den : Nat) : Nat :=
  let q := num / den
  let r := num % den
  if 2 * r < den then q
  else if den < 2 * r then q + 1
  else if q % 2 = 0 then q else q + 1

namespace Binary64

/-- The number nearest to `num / den` units.  A number with 53 significant bits whose last bit
weighs `2 ^ s` units has magnitude `s * 2 ^ 52` plus its significant bits, also where the rounding
carries into the next power of two. -/
def ofUnitRatio (negative : Bool) (num den : Nat) : Binary64 :=
  let whole := num / den
  let s := if whole < 2 * exponentWeight then 0 else whole.log2 - 52
  ofMagnitude negative (min (s * exponentWeight + roundHalfEven num (den <<< s)) infiniteMagnitude)

/-- The number nearest to `num / den`. -/
def ofRatio (negative : Bool) (num den : Nat) : Binary64 :=
  ofUnitRatio negative (num * unitsPerOne) den

def ofNat (n : Nat) : Binary64 := ofRatio false n 1

def ofInt (n : Int) : Binary64 := ofRatio (decide (n < 0)) n.natAbs 1

/-- A finite number in units of `2 ^ -1074`, with its sign. -/
def signedUnits (x : Binary64) : Int := if x.isNegative then -(x.units : Int) else x.units

/-- The sum of two numbers.  An exact sum of zero is `-0.0` only if both terms are negative. -/
def add (x y : Binary64) : Binary64 :=
  if x.isNaN || y.isNaN then nan
  else if x.isInfinite && y.isInfinite then
    if x.isNegative == y.isNegative then x else nan
  else if x.isInfinite then x
  else if y.isInfinite then y
  else
    let total := x.signedUnits + y.signedUnits
    if total = 0 then ofMagnitude (x.isNegative && y.isNegative) 0
    else ofUnitRatio (decide (total < 0)) total.natAbs 1

/-- The product of two numbers. -/
def mul (x y : Binary64) : Binary64 :=
  let negative := x.isNegative != y.isNegative
  if x.isNaN || y.isNaN then nan
  else if x.isInfinite || y.isInfinite then
    if x.magnitude = 0 || y.magnitude = 0 then nan else infinity negative
  else ofUnitRatio negative (x.units * y.units) unitsPerOne

/-- The integer part of a number, clamped to `lo` and `hi`; a NaN gives 0. -/
def truncateClamped (x : Binary64) (lo hi : Int) : Int :=
  if x.isNaN then 0
  else if x.isInfinite then if x.isNegative then lo else hi
  else
    let whole : Int := x.units / unitsPerOne
    max lo (min hi (if x.isNegative then -whole else whole))

/-- The integer nearest to a finite number, a half going away from zero. -/
def roundHalfAway (x : Binary64) : Int :=
  let whole : Int := (2 * x.units + unitsPerOne) / (2 * unitsPerOne)
  if x.isNegative then -whole else whole

end Binary64

end BotScript
