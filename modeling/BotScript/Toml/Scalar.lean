import BotScript.Text.Integer
import BotScript.Binary64.Read
import BotScript.Toml

/-! Reading TOML texts, numbers, dates and times.  What is read is given back with the characters
that follow it, and what is malformed gives nothing. -/

namespace BotScript.Toml

/-- Whether a character may stand in a text or a comment as it is: no control character but the
tab. -/
def isPlain (c : Char) : Bool := c == '\t' || (decide (0x20 ≤ c.toNat) && c.toNat != 0x7F)

def skipSpace (cs : List Char) : List Char := cs.dropWhile fun c => c == ' ' || c == '\t'

/-- The rest after a line break at the front. -/
def newline? : List Char → Option (List Char)
  | '\n' :: rest => some rest
  | '\r' :: '\n' :: rest => some rest
  | _ => none

/-! ### Texts -/

/-- Reads as many hexadecimal digits as wanted. -/
def readHex : Nat → Nat → List Char → Option (Nat × List Char)
  | 0, n, cs => some (n, cs)
  | _ + 1, _, [] => none
  | count + 1, n, c :: cs => (digitOf? 16 c).bind fun d => readHex count (16 * n + d) cs

def readCodePoint (width : Nat) (cs : List Char) : Option (Char × List Char) := do
  let (n, rest) ← readHex width 0 cs
  if n.isValidChar then return (Char.ofNat n, rest) else none

/-- Reads what follows a backslash in a basic text. -/
def readEscape : List Char → Option (Char × List Char)
  | 'b' :: rest => some ('\x08', rest)
  | 't' :: rest => some ('\t', rest)
  | 'n' :: rest => some ('\n', rest)
  | 'f' :: rest => some ('\x0c', rest)
  | 'r' :: rest => some ('\r', rest)
  | '"' :: rest => some ('"', rest)
  | '\\' :: rest => some ('\\', rest)
  | 'u' :: rest => readCodePoint 4 rest
  | 'U' :: rest => readCodePoint 8 rest
  | _ => none

/-- Reads a basic text after its quote.  Each character of the text takes one of the input at
least, which bounds their number. -/
def readBasic : Nat → List Char → Option (List Char × List Char)
  | 0, _ => none
  | _, [] => none
  | fuel + 1, c :: rest =>
    if c = '"' then some ([], rest)
    else if c = '\\' then do
      let (e, rest) ← readEscape rest
      let (cs, rest) ← readBasic fuel rest
      return (e :: cs, rest)
    else if isPlain c then (readBasic fuel rest).map fun r => (c :: r.1, r.2)
    else none

/-- Reads a literal text after its quote. -/
def readLiteral : List Char → Option (List Char × List Char)
  | [] => none
  | c :: rest =>
    if c = '\'' then some ([], rest)
    else if isPlain c then (readLiteral rest).map fun r => (c :: r.1, r.2)
    else none

/-- White space and line breaks after a backslash that ends a line. -/
def skipBlankLines : Nat → List Char → List Char
  | 0, cs => cs
  | fuel + 1, cs =>
    let cs := skipSpace cs
    match newline? cs with
    | some rest => skipBlankLines fuel rest
    | none => cs

/-- The end of a text of several lines: three quotes, up to two more before them being part of the
text. -/
def closeLong (quote : Char) (cs : List Char) : Option (List Char × List Char) :=
  let quotes := (cs.takeWhile (· == quote)).length
  if quotes < 3 then none
  else
    let extra := min (quotes - 3) 2
    some (List.replicate extra quote, cs.drop (extra + 3))

/-- Reads a text of several lines after its opening quotes.  A basic one has escapes, and a
backslash at the end of a line takes away the break and the white space after it. -/
def readLong (quote : Char) : Nat → List Char → Option (List Char × List Char)
  | 0, _ => none
  | _, [] => none
  | fuel + 1, c :: rest =>
    let next (e : Char) (rest : List Char) : Option (List Char × List Char) :=
      (readLong quote fuel rest).map fun r => (e :: r.1, r.2)
    if c = quote then
      match closeLong quote (c :: rest) with
      | some closed => some closed
      | none => next c rest
    else if c = '\\' && quote == '"' then
      match newline? (skipSpace rest) with
      | some after => readLong quote fuel (skipBlankLines after.length after)
      | none => (readEscape rest).bind fun (e, rest) => next e rest
    else match newline? (c :: rest) with
      | some rest => next '\n' rest
      | none => if isPlain c then next c rest else none

/-- A line break right after the opening quotes does not count. -/
def openLong (quote : Char) (cs : List Char) : Option (List Char × List Char) :=
  let cs := (newline? cs).getD cs
  readLong quote (cs.length + 1) cs

/-- Reads a text of any kind. -/
def readText : List Char → Option (String × List Char)
  | '"' :: '"' :: '"' :: rest => (openLong '"' rest).map fun r => (String.ofList r.1, r.2)
  | '\'' :: '\'' :: '\'' :: rest => (openLong '\'' rest).map fun r => (String.ofList r.1, r.2)
  | '"' :: rest => (readBasic (rest.length + 1) rest).map fun r => (String.ofList r.1, r.2)
  | '\'' :: rest => (readLiteral rest).map fun r => (String.ofList r.1, r.2)
  | _ => none

/-! ### Numbers -/

/-- Digits of a radix with single underscores between them, without the underscores. -/
def readDigits (radix : Nat) : List Char → Option (List Char × List Char)
  | [] => none
  | c :: rest =>
    if (digitOf? radix c).isNone then none
    else match rest with
      | '_' :: d :: tail =>
        if (digitOf? radix d).isNone then none
        else (readDigits radix (d :: tail)).map fun r => (c :: r.1, r.2)
      | ['_'] => none
      | d :: tail =>
        if (digitOf? radix d).isNone then some ([c], d :: tail)
        else (readDigits radix (d :: tail)).map fun r => (c :: r.1, r.2)
      | [] => some ([c], [])

def natOf (radix : Nat) (ds : List Char) : Nat :=
  ds.foldl (fun n d => radix * n + (digitOf? radix d).getD 0) 0

/-- An integer of 64 bits. -/
def integer? (n : Int) : Option Toml :=
  if Int64.minValue.toInt ≤ n ∧ n ≤ Int64.maxValue.toInt then some (.integer n) else none

/-- Reads the digits of an integer after the letter of its radix. -/
def readRadix (radix : Nat) (cs : List Char) : Option (Toml × List Char) := do
  let (ds, rest) ← readDigits radix cs
  return (← integer? (natOf radix ds), rest)

/-- Reads a decimal integer without zeros in front. -/
def readDecimal (cs : List Char) : Option (List Char × List Char) := do
  let (ds, rest) ← readDigits 10 cs
  if ds.head? = some '0' && 1 < ds.length then none
  -- an underscore after a single zero would have to be followed by more digits
  return (ds, rest)

/-- Reads the exponent of a number. -/
def readExponent (cs : List Char) : Option (Int × List Char) := do
  let (negative, cs) := match cs with
    | '-' :: cs => (true, cs)
    | '+' :: cs => (false, cs)
    | cs => (false, cs)
  let (ds, rest) ← readDigits 10 cs
  return (if negative then -(natOf 10 ds : Int) else natOf 10 ds, rest)

/-- A number with a fraction or an exponent, which must not be too large. -/
def float? (negative : Bool) (n : Numeral) : Option Toml :=
  let x := n.toBinary64 negative
  if x.isInfinite && !negative then none else some .float

/-- Reads an unsigned decimal number. -/
def readUnsigned (negative : Bool) (cs : List Char) : Option (Toml × List Char) := do
  let (whole, rest) ← readDecimal cs
  let exponent (fraction : List Char) (rest : List Char) : Option (Toml × List Char) := do
    let (e, rest) ← readExponent rest
    return (← float? negative ⟨whole, fraction, e⟩, rest)
  match rest with
  | '.' :: rest =>
    let (fraction, rest) ← readDigits 10 rest
    match rest with
    | 'e' :: rest => exponent fraction rest
    | 'E' :: rest => exponent fraction rest
    | rest => return (← float? negative ⟨whole, fraction, 0⟩, rest)
  | 'e' :: rest => exponent [] rest
  | 'E' :: rest => exponent [] rest
  | rest =>
    let n : Int := natOf 10 whole
    return (← integer? (if negative then -n else n), rest)

/-- Reads a number with its sign. -/
def readNumber (cs : List Char) : Option (Toml × List Char) :=
  let unsigned (negative : Bool) (cs : List Char) :=
    match cs with
    | 'i' :: 'n' :: 'f' :: rest => some (.float, rest)
    | 'n' :: 'a' :: 'n' :: rest => some (.float, rest)
    | cs => readUnsigned negative cs
  match cs with
  | '-' :: cs => unsigned true cs
  | '+' :: cs => unsigned false cs
  | '0' :: 'x' :: rest => readRadix 16 rest
  | '0' :: 'o' :: rest => readRadix 8 rest
  | '0' :: 'b' :: rest => readRadix 2 rest
  | cs => unsigned false cs

/-! ### Dates and times -/

/-- Reads exactly `count` digits. -/
def readPlaces (count : Nat) (cs : List Char) : Option (Nat × List Char) :=
  let ds := cs.take count
  if ds.length = count && ds.all isDigit then some (natOfDigits ds, cs.drop count) else none

def expect (c : Char) : List Char → Option (List Char)
  | d :: rest => if d = c then some rest else none
  | [] => none

/-- The number of days in a month. -/
def daysIn (year month : Nat) : Nat :=
  if month = 2 then
    if year % 4 = 0 && (year % 100 != 0 || year % 400 == 0) then 29 else 28
  else if month = 4 || month = 6 || month = 9 || month = 11 then 30
  else 31

def readDate (cs : List Char) : Option (List Char) := do
  let (year, cs) ← readPlaces 4 cs
  let (month, cs) ← readPlaces 2 (← expect '-' cs)
  let (day, cs) ← readPlaces 2 (← expect '-' cs)
  if 1 ≤ month && month ≤ 12 && 1 ≤ day && day ≤ daysIn year month then some cs else none

def readClock (cs : List Char) : Option (List Char) := do
  let (hour, cs) ← readPlaces 2 cs
  let (minute, cs) ← readPlaces 2 (← expect ':' cs)
  let (second, cs) ← readPlaces 2 (← expect ':' cs)
  if 24 ≤ hour || 60 ≤ minute || 60 < second then none
  match cs with
  | '.' :: rest => if (rest.takeWhile isDigit).isEmpty then none else some (rest.dropWhile isDigit)
  | cs => some cs

/-- Reads the offset of a time from universal time. -/
def readOffset (cs : List Char) : Option (List Char) :=
  let numeric (cs : List Char) : Option (List Char) := do
    let (hour, cs) ← readPlaces 2 cs
    let (minute, cs) ← readPlaces 2 (← expect ':' cs)
    if 24 ≤ hour || 60 ≤ minute then none
    return cs
  match cs with
  | 'Z' :: rest => some rest
  | 'z' :: rest => some rest
  | '+' :: rest => numeric rest
  | '-' :: rest => numeric rest
  | cs => some cs

/-- Reads a date, a time or both. -/
def readTime (cs : List Char) : Option (Toml × List Char) :=
  match readDate cs with
  | none => (readClock cs).map (.time, ·)
  | some rest =>
    let both (rest : List Char) :=
      ((readClock rest).bind readOffset).map fun rest => (Toml.time, rest)
    match rest with
    | 'T' :: after => both after
    | 't' :: after => both after
    | ' ' :: after => (both after).or (some (.time, rest))
    | rest => some (.time, rest)

end BotScript.Toml
