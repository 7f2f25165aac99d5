import RecordFilter.Text.Ranges

/-!
# Blanks

The characters that may surround a number in a text: white space, the four
separators below the blank, and the line and paragraph marks.  Zero-width
characters are no blanks.
-/

namespace RecordFilter
namespace Text

/-- The code points of blanks. -/
def blankRanges : List (Nat × Nat) := [
  (0x9, 0xd), (0x1c, 0x20), (0x85, 0x85), (0xa0, 0xa0), (0x1680, 0x1680),
  (0x2000, 0x200a), (0x2028, 0x2029), (0x202f, 0x202f), (0x205f, 0x205f),
  (0x3000, 0x3000)]

/-- Is the character a blank? -/
def isBlank (c : Char) : Bool := inRanges blankRanges c.toNat

/-- Drops the blanks at both ends. -/
def strip (cs : List Char) : List Char :=
  ((cs.dropWhile isBlank).reverse.dropWhile isBlank).reverse

end Text
end RecordFilter
