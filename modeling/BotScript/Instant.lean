import BotScript.Duration

/-! Instants: points in time as seconds since the start of 1970 and nanoseconds, with their calendar
dates and their two texts. -/

namespace BotScript

/-- A point in time.  Nanoseconds from a thousand million on belong to a leap second, which is the
continuation of the second named by `seconds`. -/
structure Instant where
  seconds : Int
  nanos : Nat
  deriving DecidableEq

/-- A day of the calendar. -/
structure Date where
  year : Int
  month : Nat
  day : Nat
  deriving DecidableEq

/-- The date of a day counted from the first of January 1970.  Years are counted from March within
eras of 400 years, so that a leap day ends its year. -/
def Date.ofDays (days : Int) : Date :=
  let shifted := days + 719468
  let era := shifted / 146097
  let dayOfEra := (shifted % 146097).toNat
  let yearOfEra := (dayOfEra - dayOfEra / 1460 + dayOfEra / 36524 - dayOfEra / 146096) / 365
  let dayOfYear := dayOfEra - (365 * yearOfEra + yearOfEra / 4 - yearOfEra / 100)
  let fromMarch := (5 * dayOfYear + 2) / 153
  let month := if fromMarch < 10 then fromMarch + 3 else fromMarch - 9
  let year := (yearOfEra : Int) + 400 * era
  ⟨if month ≤ 2 then year + 1 else year, month, dayOfYear - (153 * fromMarch + 2) / 5 + 1⟩

/-- A number in decimal, with zeros in front up to `width` digits. -/
def padded (width n : Nat) : String :=
  let digits := Nat.toDigits 10 n
  String.ofList (List.replicate (width - digits.length) '0' ++ digits)

/-- Decimal places without the zeros that end them. -/
def trimZeros (places : String) : String :=
  String.ofList (places.toList.reverse.dropWhile (· == '0')).reverse

namespace Date

/-- A year has four digits at least; outside 0 to 9999 it also has a sign. -/
def yearText (year : Int) : String :=
  (if year < 0 then "-" else if 9999 < year then "+" else "") ++ padded 4 year.natAbs

def text (d : Date) : String :=
  yearText d.year ++ "-" ++ padded 2 d.month ++ "-" ++ padded 2 d.day

end Date

namespace Instant

def nanosPerSecond : Nat := 1000000000

/-- The last second for which there is a date. -/
def lastSecond : Int := 8210266876799

/-- The first second for which there is a date. -/
def firstSecond : Int := -8334601228800

/-- The instant that is a duration later, if there is a date for it. -/
def after? (t : Instant) (d : Duration) : Option Instant :=
  let nanos := t.seconds * nanosPerSecond + t.nanos + d.nanos
  let seconds := nanos / nanosPerSecond
  if firstSecond ≤ seconds ∧ seconds ≤ lastSecond then
    some ⟨seconds, (nanos % nanosPerSecond).toNat⟩
  else none

def compare (s t : Instant) : Ordering :=
  (Ord.compare s.seconds t.seconds).then (Ord.compare s.nanos t.nanos)

def date (t : Instant) : Date := Date.ofDays (t.seconds / 86400)

/-- Hours, minutes and seconds.  A leap second has the number after its second's. -/
def clockText (t : Instant) : String :=
  let s := (t.seconds % 86400).toNat
  padded 2 (s / 3600) ++ ":" ++ padded 2 (s / 60 % 60) ++ ":" ++
    padded 2 (s % 60 + t.nanos / nanosPerSecond)

/-- The nanoseconds that follow the second shown by the clock. -/
def fraction (t : Instant) : Nat := t.nanos % nanosPerSecond

/-- The text for people, such as `2024-01-15 10:30:00.5 +0000 UTC`. -/
def text (t : Instant) : String :=
  let places := trimZeros (padded 9 t.fraction)
  t.date.text ++ " " ++ t.clockText ++ (if places.isEmpty then "" else "." ++ places) ++
    " +0000 UTC"

/-- The text for data, such as `2024-01-15T10:30:00.500+00:00`, with no places or three, six or
nine. -/
def dataText (t : Instant) : String :=
  let f := t.fraction
  let places :=
    if f = 0 then ""
    else if f % 1000000 = 0 then "." ++ padded 3 (f / 1000000)
    else if f % 1000 = 0 then "." ++ padded 6 (f / 1000)
    else "." ++ padded 9 f
  t.date.text ++ "T" ++ t.clockText ++ places ++ "+00:00"

end Instant

end BotScript
