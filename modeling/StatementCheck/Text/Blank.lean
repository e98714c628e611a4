import StatementCheck.Text.Ranges

/-!
# Blank characters

The characters with the Unicode property White_Space. They separate tokens and belong to none.

## Main definitions

* `Text.isBlank` : is a character blank?
-/
namespace StatementCheck.Text

/-- The code points with the property White_Space. -/
def blankRanges : Ranges :=
  [(0x09, 0x0D), (0x20, 0x20), (0x85, 0x85), (0xA0, 0xA0), (0x1680, 0x1680), (0x2000, 0x200A),
   (0x2028, 0x2029), (0x202F, 0x202F), (0x205F, 0x205F), (0x3000, 0x3000)]

/-- Is the character blank? -/
def isBlank (c : Char) : Bool := blankRanges.covers c.toNat

end StatementCheck.Text
