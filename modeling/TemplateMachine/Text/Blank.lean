/-!
# Blank characters

The characters with the Unicode property White_Space, and what a text keeps when they are removed
from its ends.
-/

namespace TemplateMachine

/-- Whether a character has the property White_Space. -/
def isBlank (c : Char) : Bool :=
  let code := c.toNat
  (9 ≤ code && code ≤ 13) || code == 0x20 || code == 0x85 || code == 0xa0 || code == 0x1680 ||
    (0x2000 ≤ code && code ≤ 0x200a) || code == 0x2028 || code == 0x2029 || code == 0x202f ||
    code == 0x205f || code == 0x3000

/-- A sequence of characters without the blanks at its end. -/
def trimEndChars (chars : List Char) : List Char :=
  (chars.reverse.dropWhile isBlank).reverse

/-- A text without the blanks at its two ends. -/
def trimBlanks (text : String) : String :=
  String.ofList (trimEndChars (text.toList.dropWhile isBlank))

end TemplateMachine
