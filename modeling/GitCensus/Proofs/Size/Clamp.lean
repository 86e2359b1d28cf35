import GitCensus.Size.Tally
/-!
# Clamped counts

The exact counts are natural numbers of any size.  Clamping them turns sums into
capped sums and leaves maxima maxima, so that capping at every step comes to the
same as clamping the exact total once.
-/

namespace GitCensus

/-- A count, or the largest count where it is above that. -/
def clamp (n : Nat) : Int := min n maxCount

theorem clamp_eq_self {n : Nat} (hle : (n : Int) ≤ maxCount) : clamp n = n := by
  unfold clamp
  omega

theorem clamp_one : clamp 1 = 1 := rfl

theorem clamp_pos_iff {n : Nat} : 0 < clamp n ↔ 0 < n := by
  unfold clamp maxCount
  omega

theorem addCapped_clamp (a b : Nat) : addCapped (clamp a) (clamp b) = clamp (a + b) := by
  unfold addCapped clamp maxCount
  omega

theorem addCapped_clamp_right (a b : Nat) : addCapped a (clamp b) = clamp (a + b) := by
  unfold addCapped clamp maxCount
  omega

theorem max_clamp (a b : Nat) : max (clamp a) (clamp b) = clamp (max a b) := by
  unfold clamp maxCount
  omega

end GitCensus
