/-! Durations: signed lengths of time in nanoseconds, up to `2 ^ 63 - 1` milliseconds either way. -/

namespace BotScript

/-- The nanoseconds of the longest duration. -/
def Duration.maxNanos : Nat := 9223372036854775807000000

/-- A signed length of time. -/
structure Duration where
  nanos : Int
  inRange : nanos.natAbs ≤ Duration.maxNanos
  deriving DecidableEq

namespace Duration

def zero : Duration := ⟨0, by decide⟩

def ofNanos? (n : Int) : Option Duration :=
  if h : n.natAbs ≤ maxNanos then some ⟨n, h⟩ else none

/-- A number of nanoseconds as a duration. -/
def ofInt64 (n : Int64) : Duration :=
  ⟨n.toInt, by
    have hLow := n.le_toInt
    have hHigh := n.toInt_lt
    simp only [maxNanos]
    omega⟩

def nanosPerSecond : Int := 1000000000

/-- A number of seconds as a duration, if it is not too long. -/
def ofSeconds? (n : Int) : Option Duration := ofNanos? (n * nanosPerSecond)

/-- The nanoseconds of a duration, those beyond 64 bits cut off at the ends of the range. -/
def clampedNanos (d : Duration) : Int := max Int64.minValue.toInt (min Int64.maxValue.toInt d.nanos)

def isZero (d : Duration) : Bool := decide (d.nanos = 0)

end Duration

end BotScript
