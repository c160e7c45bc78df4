import BotScript.Decimal.Shortest

/-! Text of binary64 numbers.  The digits are those of the shortest decimal; a style fixes the rest
of the spelling. -/

namespace BotScript

/-- A spelling of numbers: which of two equally near decimals is taken, the exponents of the leading
digit that are written positionally, whether an integer ends in `.0`, whether an exponent that is
not negative carries a plus sign, and the names of the numbers that are not finite. -/
structure NumberStyle where
  tie : Tie
  leastPositional : Int
  mostPositional : Int
  pointZero : Bool
  plusSign : Bool
  nan : String
  infinity : String
  negativeInfinity : String

namespace Decimal

def digitText (n : Nat) : String := String.ofList (Nat.toDigits 10 n)

def zeros (n : Nat) : String := String.ofList (List.replicate n '0')

/-- The positional text of a decimal: `1200`, `12.5`, `0.00125`. -/
def positional (pointZero : Bool) (d : Decimal) : String :=
  let text := digitText d.digits
  if 0 ≤ d.exponent then
    text ++ zeros d.exponent.toNat ++ (if pointZero then ".0" else "")
  else
    let places := (-d.exponent).toNat
    if places < text.length then
      let cut := text.length - places
      String.ofList (text.toList.take cut) ++ "." ++ String.ofList (text.toList.drop cut)
    else "0." ++ zeros (places - text.length) ++ text

/-- The scientific text of a decimal: `1e21`, `1.25e-7`. -/
def scientific (plusSign : Bool) (d : Decimal) : String :=
  let mantissa := match (digitText d.digits).toList with
    | [] => ""
    | [c] => String.singleton c
    | c :: rest => String.singleton c ++ "." ++ String.ofList rest
  let e := d.leadingExponent
  mantissa ++ "e" ++ (if e < 0 then "-" else if plusSign then "+" else "") ++ digitText e.natAbs

end Decimal

/-- The text of a number in a style. -/
def Binary64.render (style : NumberStyle) (x : Binary64) : String :=
  if x.isNaN then style.nan
  else if x.isInfinite then if x.isNegative then style.negativeInfinity else style.infinity
  else
    let sign := if x.isNegative then "-" else ""
    if x.magnitude = 0 then sign ++ Decimal.positional style.pointZero ⟨0, 0⟩
    else
      let d := Decimal.shortest style.tie x.magnitude
      let e := d.leadingExponent
      sign ++
        if style.leastPositional ≤ e ∧ e ≤ style.mostPositional then d.positional style.pointZero
        else d.scientific style.plusSign

end BotScript
