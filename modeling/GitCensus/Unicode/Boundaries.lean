/-!
# Properties of code points

A property is given by the ascending code points at which it changes, starting
from "does not hold" at zero.
-/

namespace GitCensus.Unicode

/-- Whether an odd number of the ascending `boundaries` is at most `c`. -/
def inside : List Nat → Nat → Bool
  | [], _ => false
  | b :: rest, c => if c < b then false else !inside rest c

end GitCensus.Unicode
