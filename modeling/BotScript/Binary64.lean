/-! Binary64 numbers as their 64 bits.  Comparisons are comparisons of integers: `place` puts the
numbers on a line on which neighbours are one apart and the two zeros coincide, and `totalPlace`
tells all bit patterns apart. -/

namespace BotScript

/-- An IEEE 754 binary64 number, given by its bits. -/
structure Binary64 where
  bits : UInt64
  deriving DecidableEq

namespace Binary64

/-- The weight of the sign, the highest of the 64 bits. -/
def signWeight : Nat := 0x8000000000000000

/-- The weight of the lowest bit of the exponent, which lies above the 52 bits of the fraction. -/
def exponentWeight : Nat := 0x10000000000000

/-- The bits below the sign, as a number. -/
def magnitude (x : Binary64) : Nat := x.bits.toNat % signWeight

def isNegative (x : Binary64) : Bool := decide (signWeight ≤ x.bits.toNat)

/-- The magnitude of the infinities: all finite numbers lie below it and all NaNs above. -/
def infiniteMagnitude : Nat := 2047 * exponentWeight

def isNaN (x : Binary64) : Bool := decide (infiniteMagnitude < x.magnitude)

def isInfinite (x : Binary64) : Bool := decide (x.magnitude = infiniteMagnitude)

def isFinite (x : Binary64) : Bool := decide (x.magnitude < infiniteMagnitude)

/-- The number with the given sign and magnitude. -/
def ofMagnitude (negative : Bool) (magnitude : Nat) : Binary64 :=
  ⟨UInt64.ofNat (if negative then signWeight + magnitude else magnitude)⟩

def zero : Binary64 := ofMagnitude false 0

def negativeZero : Binary64 := ofMagnitude true 0

def one : Binary64 := ofMagnitude false (1023 * exponentWeight)

def infinity (negative : Bool) : Binary64 := ofMagnitude negative infiniteMagnitude

def nan : Binary64 := ofMagnitude false (infiniteMagnitude + exponentWeight / 2)

/-- The place of a number on the line of numbers.  NaNs have no place that means anything. -/
def place (x : Binary64) : Int := if x.isNegative then -(x.magnitude : Int) else x.magnitude

/-- Equality of numbers: a NaN equals nothing and the two zeros are equal. -/
def equals (x y : Binary64) : Bool := !x.isNaN && !y.isNaN && decide (x.place = y.place)

/-- The place of a bit pattern among all bit patterns: negative NaNs first, then the negative
numbers, `-0.0`, `0.0`, the positive numbers and the positive NaNs. -/
def totalPlace (x : Binary64) : Int :=
  if x.isNegative then -(x.magnitude : Int) - 1 else x.magnitude

/-- The order of numbers with every NaN below every number and all NaNs alike. -/
def compareNaNFirst (x y : Binary64) : Ordering :=
  match x.isNaN, y.isNaN with
  | true, true => .eq
  | true, false => .lt
  | false, true => .gt
  | false, false => compare x.place y.place

/-- A finite number of magnitude `m` counted in units of `2 ^ -1074`, the least positive number. -/
def unitsOfMagnitude (m : Nat) : Nat :=
  let exponent := m / exponentWeight
  let fraction := m % exponentWeight
  if exponent = 0 then fraction else (exponentWeight + fraction) <<< (exponent - 1)

/-- The size of a finite number in units of `2 ^ -1074`. -/
def units (x : Binary64) : Nat := unitsOfMagnitude x.magnitude

/-- The number of units in 1. -/
def unitsPerOne : Nat := 1 <<< 1074

theorem equals_comm (x y : Binary64) : x.equals y = y.equals x := by
  simp only [equals, eq_comm (a := x.place)]
  cases x.isNaN <;> cases y.isNaN <;> rfl

theorem equals_self (x : Binary64) : x.equals x = !x.isNaN := by
  simp [equals]

theorem equals_trans {x y z : Binary64} (hxy : x.equals y = true) (hyz : y.equals z = true) :
    x.equals z = true := by
  simp_all [equals]

/-- Bit patterns at the same total place are the same. -/
theorem totalPlace_injective {x y : Binary64} (h : x.totalPlace = y.totalPlace) : x = y := by
  have hx := x.bits.toNat_lt
  have hy := y.bits.toNat_lt
  have hBits : x.bits.toNat = y.bits.toNat := by
    simp only [totalPlace, isNegative, magnitude, decide_eq_true_eq] at h
    split at h <;> split at h <;> (simp only [signWeight] at *; omega)
  cases x
  cases y
  simpa [Binary64.mk.injEq] using UInt64.toNat_inj.mp hBits

end Binary64

end BotScript
