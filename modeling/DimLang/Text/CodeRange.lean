/-!
# Ranges of code points

Character classes that no formula describes are tables of code point ranges, both ends included.
-/

namespace DimLang.Text

/-- First and last code point of a range. -/
abbrev CodeRange := Nat × Nat

/-- Whether the code point of the character lies in one of the ranges. -/
def inRanges (ranges : List CodeRange) (c : Char) : Bool :=
  ranges.any fun range => range.1 ≤ c.toNat && c.toNat ≤ range.2

end DimLang.Text
