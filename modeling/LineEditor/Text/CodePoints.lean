/-!
# Sets of code points

A set of code points is stored as the increasing list of places where
membership changes: the set starts out empty, and at each boundary a code point
and all that follow it change sides.  A code point therefore belongs to the set
exactly when the number of boundaries that do not exceed it is odd
(`CodePoints.contains`), and that number is found by bisection.

The tables of letters, numbers, marks and printable characters are values of
this type.
-/

set_option autoImplicit false

namespace LineEditor.Text

/-- A set of code points, given by the increasing places where membership changes. -/
structure CodePoints where
  boundaries : Array Nat

namespace CodePoints

/-- The number of boundaries in `low ..< high` that do not exceed `point`, counted from zero. -/
def rank (set : CodePoints) (point low high : Nat) : Nat :=
  if low < high then
    let middle := (low + high) / 2
    if set.boundaries.getD middle 0 ≤ point then
      set.rank point (middle + 1) high
    else
      set.rank point low middle
  else
    low
termination_by high - low

/-- Membership: an odd number of boundaries lies at or before the point. -/
def contains (set : CodePoints) (point : Nat) : Bool :=
  set.rank point 0 set.boundaries.size % 2 == 1

end CodePoints

end LineEditor.Text
