/-! White space, and the removal of white space around a text. -/

namespace BotScript

/-- Whether a character has the White_Space property. -/
def isBlank (c : Char) : Bool :=
  let n := c.toNat
  (0x09 ≤ n && n ≤ 0x0D) || n == 0x20 || n == 0x85 || n == 0xA0 || n == 0x1680 ||
    (0x2000 ≤ n && n ≤ 0x200A) || n == 0x2028 || n == 0x2029 || n == 0x202F || n == 0x205F ||
    n == 0x3000

/-- The characters after the white space that starts a text. -/
def trimLeft (cs : List Char) : List Char := cs.dropWhile isBlank

/-- The characters without the white space at either end. -/
def trimBlank (cs : List Char) : List Char := (trimLeft (trimLeft cs).reverse).reverse

/-- Whether a text has no character that shows. -/
def isAllBlank (s : String) : Bool := s.toList.all isBlank

end BotScript
