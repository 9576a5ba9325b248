/-!
# Ranges of code points

Character properties and case mappings are kept as short lists of ranges. A property is a list of
inclusive intervals, and a case mapping is a list of arithmetic ranges, because the two cases of
many alphabets alternate.
-/

namespace Runbook.Text

/-- Whether a code point lies in one of the inclusive intervals. -/
def inRanges (ranges : List (Nat × Nat)) (code : Nat) : Bool :=
  ranges.any fun (first, last) => first ≤ code && code ≤ last

/-- Every `step`-th code point from `first` to `last` maps to the code point at the same distance
from `image`. -/
structure CaseRange where
  first : Nat
  last : Nat
  step : Nat
  image : Nat
  deriving Repr, DecidableEq

/-- The image of a code point under one range, if the range contains it. -/
def CaseRange.map? (range : CaseRange) (code : Nat) : Option Nat :=
  if range.first ≤ code ∧ code ≤ range.last ∧ (code - range.first) % range.step = 0 then
    some (range.image + (code - range.first))
  else
    none

end Runbook.Text
