/-!
# Ranges of code points

A class of characters is a list of ranges of code points, both ends included. The lists of this
library ascend and neither overlap nor touch, so a class has one list.
-/

set_option autoImplicit false

namespace RemainderService.Text

/-- A class of characters: the first and the last code point of each range. -/
abbrev Ranges := List (Nat × Nat)

namespace Ranges

/-- The code point lies in one of the ranges. -/
def covers (ranges : Ranges) (n : Nat) : Bool :=
  ranges.any fun (first, last) => decide (first ≤ n) && decide (n ≤ last)

/-- The character is in the class. -/
def holds (ranges : Ranges) (c : Char) : Bool := ranges.covers c.toNat

end Ranges

end RemainderService.Text
