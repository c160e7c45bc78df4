import BotScript.Binary64.Read
import BotScript.Duration
import BotScript.Text.Blank
import BotScript.Text.LowerCase

/-! Reading durations as people write them: a bare number of seconds, or groups of a number and a
unit such as `1h30m` and `2.5 days`.  Case and surrounding white space do not matter. -/

namespace BotScript

namespace Duration

/-- The names of the units, each list with its length in nanoseconds. -/
def unitNames : List (List String × Nat) :=
  [(["ns", "nanosecond", "nanoseconds"], 1),
   (["us", "µs", "microsecond", "microseconds"], 1000),
   (["ms", "millisecond", "milliseconds"], 1000000),
   (["s", "sec", "secs", "second", "seconds"], 1000000000),
   (["m", "min", "mins", "minute", "minutes"], 60000000000),
   (["h", "hr", "hrs", "hour", "hours"], 3600000000000),
   (["d", "day", "days"], 86400000000000),
   (["w", "wk", "week", "weeks"], 604800000000000),
   (["mo", "month", "months"], 2592000000000000),
   (["y", "yr", "year", "years"], 31536000000000000)]

/-- The length of the unit with a name. -/
def unitNanos? (name : String) : Option Nat :=
  (unitNames.find? fun unit => unit.1.contains name).map (·.2)

/-- An amount of a unit, which is `unitNanos` long. -/
structure Group where
  amount : Binary64
  unitNanos : Nat

/-- Whether a character belongs to the number of a group. -/
def isNumberChar (c : Char) : Bool := isDigit c || c == '.'

theorem length_dropWhile_le {α : Type} (p : α → Bool) (l : List α) :
    (l.dropWhile p).length ≤ l.length :=
  (List.dropWhile_sublist p).length_le

theorem length_trimLeft_le (cs : List Char) : (trimLeft cs).length ≤ cs.length :=
  length_dropWhile_le isBlank cs

/-- What follows a number that is not empty is shorter. -/
theorem length_dropWhile_lt {α : Type} {p : α → Bool} {l : List α}
    (h : (l.takeWhile p).isEmpty = false) : (l.dropWhile p).length < l.length := by
  cases l with
  | nil => simp at h
  | cons a l =>
    by_cases ha : p a = true
    · have := length_dropWhile_le p l
      simp [List.dropWhile, ha]
      omega
    · simp [List.takeWhile, ha] at h

/-- Reads groups to the end.  A unit is the longest run of letters at its place, and white space may
stand around it. -/
def readGroups (cs : List Char) : Option (List Group) :=
  if cs.isEmpty then some []
  else if _hNumber : (cs.takeWhile isNumberChar).isEmpty then none
  else
    let afterNumber := trimLeft (cs.dropWhile isNumberChar)
    match Binary64.read? (String.ofList (cs.takeWhile isNumberChar)),
        unitNanos? (String.ofList (afterNumber.takeWhile isAlphabetic)) with
    | some amount, some unitNanos =>
      (readGroups (trimLeft (afterNumber.dropWhile isAlphabetic))).map (⟨amount, unitNanos⟩ :: ·)
    | _, _ => none
termination_by cs.length
decreasing_by
  have h1 := length_trimLeft_le ((trimLeft (cs.dropWhile isNumberChar)).dropWhile isAlphabetic)
  have h2 := length_dropWhile_le isAlphabetic (trimLeft (cs.dropWhile isNumberChar))
  have h3 := length_trimLeft_le (cs.dropWhile isNumberChar)
  have h4 := length_dropWhile_lt (Bool.not_eq_true _ ▸ _hNumber)
  omega

/-- The sum of the groups in nanoseconds, added from the left. -/
def total (groups : List Group) : Binary64 :=
  groups.foldl (fun sum g => sum.add (g.amount.mul (.ofNat g.unitNanos))) .zero

/-- A number of nanoseconds as a duration, if it is less than `2 ^ 63` either way. -/
def ofBinary64? (nanos : Binary64) : Option Duration :=
  if nanos.isFinite && decide (nanos.units < 0x8000000000000000 * Binary64.unitsPerOne) then
    ofNanos? nanos.roundHalfAway
  else none

/-- The number of nanoseconds that a text denotes. -/
def readNanos? (s : String) : Option Binary64 :=
  let cs := (lowerCase (String.ofList (trimBlank s.toList))).toList
  if cs.isEmpty then none
  else match Binary64.read? (String.ofList cs) with
    | some seconds => some (seconds.mul (.ofNat 1000000000))
    | none => (readGroups cs).map total

/-- Reads a text as a duration. -/
def read? (s : String) : Option Duration := (readNanos? s).bind ofBinary64?

end Duration

end BotScript
