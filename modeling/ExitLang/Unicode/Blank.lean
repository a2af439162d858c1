import ExitLang.Unicode.Ranges

/-!
# Blanks

The property White_Space. It decides what is trimmed from a line and what separates words.
-/

namespace ExitLang.Unicode

/-- The code points of the property, Unicode 17.0. -/
def blankRanges : List Range :=
  [(0x9, 0xD), (0x20, 0x20), (0x85, 0x85), (0xA0, 0xA0), (0x1680, 0x1680), (0x2000, 0x200A),
   (0x2028, 0x2029), (0x202F, 0x202F), (0x205F, 0x205F), (0x3000, 0x3000)]

/-- A white-space character. -/
def isBlank (c : Char) : Bool := mem blankRanges c.toNat

end ExitLang.Unicode
