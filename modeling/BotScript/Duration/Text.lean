import BotScript.Duration
import BotScript.Instant

/-! The text of a duration: `1h30m0s`, `2m5s`, `1.5s` from one second on and one group of
milliseconds, microseconds or nanoseconds below. -/

namespace BotScript

namespace Duration

/-- `value / 10 ^ places` in decimal, without zeros after the last place that counts. -/
def decimalText (value places : Nat) : String :=
  let one := Nat.pow 10 places
  let whole := toString (value / one)
  let rest := value % one
  if rest = 0 then whole else whole ++ "." ++ trimZeros (padded places rest)

/-- The text of a positive number of nanoseconds. -/
def magnitudeText (n : Nat) : String :=
  if n < 1000 then toString n ++ "ns"
  else if n < 1000000 then decimalText n 3 ++ "µs"
  else if n < 1000000000 then decimalText n 6 ++ "ms"
  else
    let hours := n / 3600000000000
    let minutes := n % 3600000000000 / 60000000000
    let seconds := decimalText (n % 60000000000) 9 ++ "s"
    if 0 < hours then toString hours ++ "h" ++ toString minutes ++ "m" ++ seconds
    else if 0 < minutes then toString minutes ++ "m" ++ seconds
    else seconds

/-- The text of a duration. -/
def text (d : Duration) : String :=
  let n := d.clampedNanos
  if n = 0 then "0s"
  else if n < 0 then "-" ++ magnitudeText n.natAbs
  else magnitudeText n.natAbs

end Duration

end BotScript
