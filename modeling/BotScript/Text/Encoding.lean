import BotScript.Text.CodeSet

/-! Characters as they are encoded, in one to four bytes: the sequences of byte ranges that a set of
code points comes to.  A sequence stands for all characters whose bytes lie, each in its place, in
its ranges. -/

namespace BotScript

/-- The bytes from one to another. -/
abbrev ByteRange := Nat × Nat

namespace ByteRange

/-- All bytes that continue a character. -/
def continuation : ByteRange := (0x80, 0xBF)

/-- The sequences for the numbers from `first` to `last`, in ascending order.  A number is written
in base 64 as a leading digit, to which `marker` is added, and `count` others, to which that of
continuing bytes is added. -/
def sequences (marker : Nat) : Nat → Nat → Nat → List (List ByteRange)
  | 0, first, last => [[(marker + first, marker + last)]]
  | count + 1, first, last =>
    let unit := 1 <<< (6 * (count + 1))
    let lead := first / unit
    let lastLead := last / unit
    let under (digit first last : Nat) : List (List ByteRange) :=
      (sequences 0x80 count first last).map ((marker + digit, marker + digit) :: ·)
    if lead = lastLead then under lead (first % unit) (last % unit)
    else
      let startsWhole := first % unit == 0
      let stopsWhole := last % unit == unit - 1
      let start := if startsWhole then lead else lead + 1
      let stop := if stopsWhole then lastLead + 1 else lastLead
      (if startsWhole then [] else under lead (first % unit) (unit - 1)) ++
        (if start < stop then
          [(marker + start, marker + (stop - 1)) :: List.replicate (count + 1) continuation]
        else []) ++
        (if stopsWhole then [] else under lastLead 0 (last % unit))

/-- The spans of code points that are encoded alike, with the marker of the leading byte and the
number of bytes that continue it.  Code points in the gap are no characters. -/
def spans : List ((Nat × Nat) × Nat × Nat) :=
  [((0, 0x7F), 0, 0), ((0x80, 0x7FF), 0xC0, 1), ((0x800, 0xD7FF), 0xE0, 2),
   ((0xE000, 0xFFFF), 0xE0, 2), ((0x10000, 0x10FFFF), 0xF0, 3)]

/-- The sequences for the code points of a range. -/
def ofCodes (range : Nat × Nat) : List (List ByteRange) :=
  spans.flatMap fun ((low, high), marker, count) =>
    let first := max low range.1
    let last := min high range.2
    if first ≤ last then sequences marker count first last else []

end ByteRange

/-- The sequences of byte ranges for a set, in ascending order. -/
def CodeSet.byteSequences (s : CodeSet) : List (List ByteRange) :=
  s.ranges.toList.flatMap ByteRange.ofCodes

/-- The bytes of a text. -/
def textBytes (chars : List Char) : List Nat :=
  chars.flatMap fun c => (String.utf8EncodeChar c).map UInt8.toNat

end BotScript
