import CloudAccessors.Unicode.Ranges

/-!
# White space

The property White_Space: the blanks and line breaks of all scripts, without the zero-width
characters.
-/

namespace CloudAccessors.Unicode

/-- The code points with the property White_Space. -/
def whiteSpaceRanges : Ranges :=
  [(0x9, 0xD), (0x20, 0x20), (0x85, 0x85), (0xA0, 0xA0), (0x1680, 0x1680), (0x2000, 0x200A),
   (0x2028, 0x2029), (0x202F, 0x202F), (0x205F, 0x205F), (0x3000, 0x3000)]

/-- Has `c` the property White_Space? -/
def isWhiteSpace (c : Char) : Bool := whiteSpaceRanges.contains c.toNat

end CloudAccessors.Unicode
