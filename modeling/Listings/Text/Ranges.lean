/-
This file looks characters up in tables of code point ranges.
-/

namespace Listings.Text

/-- The code point lies in one of the ranges, whose ends are included. -/
def inRanges (ranges : Array (Nat × Nat)) (code : Nat) : Bool :=
  ranges.any fun range => range.1 ≤ code && code ≤ range.2

/-- As a list, a table takes few steps to go through. -/
theorem inRanges_eq_any_toList (ranges : Array (Nat × Nat)) (code : Nat) :
    inRanges ranges code = ranges.toList.any fun range => range.1 ≤ code && code ≤ range.2 :=
  Array.any_toList.symm

end Listings.Text
