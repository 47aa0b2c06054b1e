import Highlighter.Unicode.Range

/-!
# White space

The characters with the property White_Space of Unicode 17.0.

* `isWhiteSpace`: the property, as a test on characters.
* `trim`: a text without the white space at its two ends.
-/

namespace Highlighter.Unicode

/-- The code points with the property White_Space. -/
def whiteSpace : List Range :=
  [(0x9, 0xd), (0x20, 0x20), (0x85, 0x85), (0xa0, 0xa0), (0x1680, 0x1680), (0x2000, 0x200a),
   (0x2028, 0x2029), (0x202f, 0x202f), (0x205f, 0x205f), (0x3000, 0x3000)]

/-- Whether a character is white space. -/
def isWhiteSpace (c : Char) : Bool := covers whiteSpace c.toNat

/-- The text without the white space at its start and at its end. -/
def trim (text : List Char) : List Char :=
  ((text.dropWhile isWhiteSpace).reverse.dropWhile isWhiteSpace).reverse

end Highlighter.Unicode
