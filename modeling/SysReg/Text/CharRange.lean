/-!
# Ranges of characters

Sets of characters are kept as lists of ranges of code points, both ends included, in ascending
order.
-/

namespace SysReg.Text

/-- A number lies in one of the ranges. -/
def inRanges (ranges : List (Nat × Nat)) (n : Nat) : Bool :=
  ranges.any fun range => range.1 ≤ n && n ≤ range.2

end SysReg.Text
