import DesignMetrics.Text.Ranges

/-!
# White space

Which characters count as white space, where texts are trimmed and where tokens are read.
-/

namespace DesignMetrics.Text

/-- The white space characters. -/
def blankRanges : Ranges := [
  (0x9, 0xD), (0x1C, 0x20), (0x85, 0x85), (0xA0, 0xA0), (0x1680, 0x1680), (0x2000, 0x200A),
  (0x2028, 0x2029), (0x202F, 0x202F), (0x205F, 0x205F), (0x3000, 0x3000)]

/-- White space: tabs, line ends, spaces and the four information separators. -/
def isBlank (c : Char) : Bool :=
  blankRanges.contains c.toNat

end DesignMetrics.Text
