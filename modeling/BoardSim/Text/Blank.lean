import BoardSim.Text.CharTable

/-!
# BoardSim.Text.Blank

White space in the sense of Unicode's `White_Space` property, and texts without
the white space at their ends.
-/

namespace BoardSim.Text

/-- The characters with the property `White_Space`. -/
def blankTable : CharTable :=
  [(0x09, 0x0D), (0x20, 0x20), (0x85, 0x85), (0xA0, 0xA0), (0x1680, 0x1680), (0x2000, 0x200A),
   (0x2028, 0x2029), (0x202F, 0x202F), (0x205F, 0x205F), (0x3000, 0x3000)]

/-- Is the character white space? -/
def isBlank (c : Char) : Bool := blankTable.contains c

/-- The text without the white space at its two ends. -/
def trim (text : List Char) : List Char :=
  ((text.dropWhile isBlank).reverse.dropWhile isBlank).reverse

end BoardSim.Text
