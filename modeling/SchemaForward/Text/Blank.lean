/-!
# Blank characters

The characters with the White_Space property, and the removal of blanks from the ends of a text.
The table is data of the character standard: twenty-five characters, one of them in ASCII besides
the five control characters from tab to carriage return.
-/

namespace SchemaForward.Text

/-- The character has the White_Space property. -/
def isBlank (character : Char) : Bool :=
  let code := character.toNat
  (9 ≤ code && code ≤ 13) || code == 0x20 || code == 0x85 || code == 0xA0 || code == 0x1680 ||
    (0x2000 ≤ code && code ≤ 0x200A) || code == 0x2028 || code == 0x2029 || code == 0x202F ||
    code == 0x205F || code == 0x3000

/-- The text without its leading blanks. -/
def withoutLeadingBlanks (text : List Char) : List Char :=
  text.dropWhile isBlank

/-- The text without blanks at either end. -/
def trimmed (text : List Char) : List Char :=
  (withoutLeadingBlanks (withoutLeadingBlanks text).reverse).reverse

end SchemaForward.Text
