import ChipEight.Text.CodePoint

namespace ChipEight.Text

/-!
# Blank characters

The characters with the Unicode property White_Space, which may surround a
written number. The separators U+001C to U+001F do not have the property.
-/

/-- The code points that are white space. -/
def blankRanges : List CodePointRange :=
  [(0x09, 0x0D), (0x20, 0x20), (0x85, 0x85), (0xA0, 0xA0), (0x1680, 0x1680),
    (0x2000, 0x200A), (0x2028, 0x2029), (0x202F, 0x202F), (0x205F, 0x205F),
    (0x3000, 0x3000)]

/-- Whether a character is white space. -/
def isBlank
    (character : Char) :
    Bool :=
  inRanges blankRanges character.toNat

/-- The characters without the blank ones at either end. -/
def trimBlanks
    (characters : List Char) :
    List Char :=
  ((characters.dropWhile isBlank).reverse.dropWhile isBlank).reverse

/-- The table of blanks is in ascending order without overlaps. -/
theorem blankRanges_ascending :
    ascending blankRanges = true := by
  decide

end ChipEight.Text
