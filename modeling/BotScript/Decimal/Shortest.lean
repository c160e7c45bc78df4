import BotScript.Binary64

/-! The shortest decimal of a binary64 number: the fewest digits that read back as the number, and
among decimals with that many digits the one nearest to it. -/

namespace BotScript

/-- A positive decimal: `digits * 10 ^ exponent`. -/
structure Decimal where
  digits : Nat
  exponent : Int
  deriving DecidableEq

/-- Which decimal to take when two are equally near. -/
inductive Tie
  | toEven
  | awayFromZero
  deriving DecidableEq

namespace Decimal

/-- The number of decimal digits of a natural number; zero has one. -/
def lengthOf (n : Nat) : Nat := (Nat.toDigits 10 n).length

/-- The decimals that read back as a number: all between `low` and `high` in units of `2 ^ -1075`,
with the ends if `closed`. -/
structure Interval where
  low : Nat
  high : Nat
  closed : Bool

/-- The decimals that round to the finite number of magnitude `m`: those between the midpoints to
its two neighbours, with the midpoints if `m` is even. -/
def Interval.ofMagnitude (m : Nat) : Interval where
  low := Binary64.unitsOfMagnitude m + Binary64.unitsOfMagnitude (m - 1)
  high := Binary64.unitsOfMagnitude m + Binary64.unitsOfMagnitude (m + 1)
  closed := m % 2 = 0

/-- Whether `num / den` units of `2 ^ -1075` lie in the interval. -/
def Interval.contains (i : Interval) (num den : Nat) : Bool :=
  if i.closed then decide (i.low * den ≤ num) && decide (num ≤ i.high * den)
  else decide (i.low * den < num) && decide (num < i.high * den)

/-- `10 ^ k` as a ratio of natural numbers. -/
def powerOfTen (k : Int) : Nat × Nat :=
  if 0 ≤ k then (Nat.pow 10 k.toNat, 1) else (1, Nat.pow 10 (-k).toNat)

/-- The power of ten above a number of `units`: the least `p` with the number below `10 ^ p`. -/
def orderOf (units : Nat) : Int :=
  if Binary64.unitsPerOne ≤ units then lengthOf (units / Binary64.unitsPerOne)
  else 1 - (lengthOf (Binary64.unitsPerOne / units) : Int)

/-- The decimal nearest to `units` among those of `interval` on the grid of multiples of `10 ^ k`.
Only the two neighbours of the number on the grid come into question. -/
def onGrid (tie : Tie) (interval : Interval) (units : Nat) (k : Int) : Option Decimal :=
  let (num, den) := powerOfTen k
  let step := 2 * Binary64.unitsPerOne * num
  let target := 2 * units * den
  let below := target / step
  let fits (c : Nat) : Bool := interval.contains (c * step) den
  let lower : Decimal := ⟨below, k⟩
  let upper : Decimal := ⟨below + 1, k⟩
  match fits below, fits (below + 1) with
  | false, false => none
  | true, false => some lower
  | false, true => some upper
  | true, true =>
    let rest := target % step
    if 2 * rest < step then some lower
    else if step < 2 * rest then some upper
    else match tie with
      | .awayFromZero => some upper
      | .toEven => some (if below % 2 = 0 then lower else upper)

/-- Removes the zeros that end the digits. -/
def trim : Nat → Decimal → Decimal
  | 0, d => d
  | fuel + 1, d =>
    if d.digits ≠ 0 ∧ d.digits % 10 = 0 then trim fuel ⟨d.digits / 10, d.exponent + 1⟩ else d

/-- The shortest decimal of the positive finite number of magnitude `m`.  Seventeen digits are
always enough. -/
def shortest (tie : Tie) (m : Nat) : Decimal :=
  let units := Binary64.unitsOfMagnitude m
  let interval := Interval.ofMagnitude m
  let order := orderOf units
  let found := (List.range 17).findSome? fun n => onGrid tie interval units (order - (n + 1 : Nat))
  let d := found.getD ⟨units, -1074⟩
  trim (lengthOf d.digits) d

/-- The exponent of the leading digit. -/
def leadingExponent (d : Decimal) : Int := d.exponent + lengthOf d.digits - 1

end Decimal

end BotScript
