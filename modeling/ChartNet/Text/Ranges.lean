/-!
# Character classes as tables

A class of code points is written as the increasing list of the code points at which membership
changes: outside before the first, inside from the first to just before the second, and so on.
-/

namespace ChartNet.Text

/-- Membership in the class with the given changes: an odd number of them lie at or before `n`. -/
def inFlips (flips : List Nat) (n : Nat) : Bool := (flips.takeWhile (· ≤ n)).length % 2 == 1

end ChartNet.Text
