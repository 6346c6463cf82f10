/-!
Sets of code points, written down by the points at which membership changes: the set begins at the
first point, ends before the second, begins again at the third, and so on.
-/

namespace CommandGrammar.Text

/-- A set of code points, as the increasing list of the points where membership changes. -/
structure CodePoints where
  changes : List Nat

namespace CodePoints

/-- A code point is in the set when an odd number of changes has happened up to it. -/
def contains (set : CodePoints) (c : Char) : Bool :=
  set.changes.countP (fun change => change ≤ c.toNat) % 2 == 1

end CodePoints

/-- Every `step`-th code point from `first` to `last`. -/
structure Stride where
  first : Nat
  last : Nat
  step : Nat

namespace Stride

/-- The code point is one of the stride's. -/
def contains (stride : Stride) (c : Char) : Bool :=
  let code := c.toNat
  decide (stride.first ≤ code) && decide (code ≤ stride.last) &&
    (code - stride.first) % stride.step == 0

end Stride

end CommandGrammar.Text
