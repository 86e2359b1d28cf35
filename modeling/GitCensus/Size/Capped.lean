/-!
# Capped sums

Sums stop at the largest unsigned 64-bit number, so that no total ever wraps
around and looks small.
-/

namespace GitCensus

def maxCount : Int := 0xffffffffffffffff

/-- The sum of two counts, or the largest count if the sum is above it. -/
def addCapped (m n : Int) : Int := min (m + n) maxCount

end GitCensus
