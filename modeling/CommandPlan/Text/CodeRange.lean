/-! Sets of characters as rows of code points. A row may skip every other
code point, since scripts with two cases often interleave them. -/
namespace CommandPlan.Text

/-- The code points `first`, `first + stride`, and so on up to `last`. -/
structure CodeRange where
  first : Nat
  last : Nat
  stride : Nat

namespace CodeRange

def contains (range : CodeRange) (code : Nat) : Bool :=
  range.first ≤ code && code ≤ range.last && (code - range.first) % range.stride == 0

end CodeRange

def inRanges (ranges : List CodeRange) (c : Char) : Bool :=
  ranges.any fun range => range.contains c.toNat

end CommandPlan.Text
