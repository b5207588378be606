/-
  This file defines membership of a character in a property
  that is given by ranges of code points.

  Key definitions include:
    * `Range`
    * `inRanges`
-/

------------------------------------------------------------
-- Ranges Of Code Points
------------------------------------------------------------

namespace IntcodeMachine

namespace Text

/- A range of code points, both ends included. -/
abbrev Range := Nat × Nat

/- A code point lies in one of the ranges. -/
def inRanges
    (ranges : List Range)
    (point : Nat) : Bool :=
  ranges.any fun range =>
    decide (range.1 ≤ point) && decide (point ≤ range.2)

end Text

end IntcodeMachine
