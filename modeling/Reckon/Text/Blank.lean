import Reckon.Text.Ranges

/-!
# Blanks

The characters with the Unicode property `White_Space`, and the removal of them from both ends of
a text. This is the notion of blank for *showing* a line. What separates tokens in a source is a
smaller set.
-/

namespace Reckon.Text

/-- The code points with the property `White_Space`, as ascending ranges. -/
def blankRanges : Ranges := [
  (0x0009, 0x000D), (0x0020, 0x0020), (0x0085, 0x0085), (0x00A0, 0x00A0), (0x1680, 0x1680),
  (0x2000, 0x200A), (0x2028, 0x2029), (0x202F, 0x202F), (0x205F, 0x205F), (0x3000, 0x3000)]

/-- Whether a character is blank. -/
def isBlank (c : Char) : Bool :=
  blankRanges.holds c.toNat

/-- A text without the blanks at its start. -/
def trimStart (text : List Char) : List Char :=
  text.dropWhile isBlank

/-- A text without the blanks at its end. -/
def trimEnd (text : List Char) : List Char :=
  (trimStart text.reverse).reverse

/-- A text without the blanks at either end. -/
def trim (text : List Char) : List Char :=
  trimEnd (trimStart text)

end Reckon.Text
