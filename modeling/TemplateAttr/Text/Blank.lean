import TemplateAttr.Text.CodeRange

/-!
# Text/Blank — white space

The characters with the property `White_Space`: the ASCII blanks and controls, the next-line
control, and the spaces and separators beyond ASCII.  A zero-width space or a byte-order mark is
*not* among them.
-/

namespace TemplateAttr

/-- The code points with the property `White_Space`. -/
def blankRanges : List (Nat × Nat) := [
  (0x9, 0xD), (0x20, 0x20), (0x85, 0x85), (0xA0, 0xA0), (0x1680, 0x1680), (0x2000, 0x200A),
  (0x2028, 0x2029), (0x202F, 0x202F), (0x205F, 0x205F), (0x3000, 0x3000)]

/-- Whether a character is white space. -/
def isBlank (c : Char) : Bool := inCodeRanges blankRanges c

/-- The text without the white space at its two ends. -/
def trimBlanks (text : List Char) : List Char :=
  ((text.dropWhile isBlank).reverse.dropWhile isBlank).reverse

@[simp] theorem trimBlanks_nil : trimBlanks [] = [] := rfl

end TemplateAttr
